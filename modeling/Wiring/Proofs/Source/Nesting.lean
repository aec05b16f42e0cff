import Mathlib.Data.List.Induction
import Mathlib.Data.List.Nodup
import Wiring.Proofs.Source.Spellings
import Wiring.Proofs.Source.Visit

/-!
# Inline modules and scopes

A file has a scope for itself and one for each inline module in it, and records what it declares
with the scope of the innermost inline module around it. A use item adds to that scope wherever it
stands, so one in the body of a function can redirect the paths around the function. See
`collect_nested` and `mailer_redirected`.
-/

set_option autoImplicit false

namespace Wiring.Source

open Wiring.Grammar
open Wiring.Text

/-! ## The nodes of a file and the inline modules around them -/

/-- An inline module: the places of the parts that lead to it from the root of the file, and its
name. -/
structure InlineModule where
  address : List Nat
  name : String
deriving DecidableEq

/-- The inline modules around something, from the outside in. -/
abbrev Nest := List InlineModule

/-- A node of a file with the inline modules around it. It is direct if no other node stands between
it and the innermost one. -/
structure Site where
  address : List Nat
  nest : Nest
  direct : Bool
  kind : NodeKind
  item : SyntaxTree

namespace Site

variable (site : Site)

def opened? : Option Nest :=
  if site.kind == .moduleItem && site.item.groupBody?.isSome then
    some (site.nest ++ [⟨site.address, site.item.itemName⟩])
  else none

def nestInside : Nest :=
  site.opened?.getD site.nest

/-- Whether the parts of a node are direct. The items of a file are parts of its root. -/
def directInside : Bool :=
  site.kind == .moduleItem || (site.direct && site.kind == .tokens)

end Site

mutual

/-- The visited nodes of a tree, each before those in it. -/
def sites (address : List Nat) (nest : Nest) (direct : Bool) : SyntaxTree → List Site
  | .node kind parts =>
      let site : Site := ⟨address, nest, direct, kind, .node kind parts⟩
      site :: if isUnvisited kind (.node kind parts) then []
        else sitesIn address 0 site.nestInside site.directInside parts
  | .group _ body _ _ => sitesIn address 0 nest direct body
  | .token _ _ _ _ => []

def sitesIn (address : List Nat) (place : Nat) (nest : Nest) (direct : Bool) :
    List SyntaxTree → List Site
  | [] => []
  | tree :: rest =>
      sites (address ++ [place]) nest direct tree ++ sitesIn address (place + 1) nest direct rest

end

def fileSites (file : SyntaxTree) : List Site :=
  sites [] [] true file

/-- The file itself, and its inline modules in the order in which they begin. -/
def nests (file : SyntaxTree) : List Nest :=
  [] :: (fileSites file).filterMap Site.opened?

/-! ## What a node records -/

namespace Site

variable (site : Site) (scope : Nat)

def declaration (fields : List FieldFacts) : List DeclaredItem :=
  if (foundAttributes site.item.attributes).isEmpty then []
  else [⟨scope, site.item.itemName, site.item.nameLine, site.item.typeParameterCount, fields,
    foundAttributes site.item.attributes⟩]

def items : List DeclaredItem :=
  match site.kind with
  | .structItem => site.declaration scope (FileFacts.fieldsOf site.item)
  | .enumItem => site.declaration scope []
  | _ => []

def selfPath? : Option SyntaxTree :=
  ((site.item.child? .selfType).bind fun target => target.children.head?).bind
    SyntaxTree.typePath?

def traitPath? : Option SyntaxTree :=
  (site.item.child? .implTrait).bind fun target =>
    target.children.getLast?.bind SyntaxTree.typePath?

def traitImpls : List TraitImpl :=
  match site.kind, site.selfPath?, site.traitPath? with
  | .implItem, some self, some path => [⟨scope, self, path⟩]
  | _, _, _ => []

def functionOf (owner : Option SyntaxTree) (item : SyntaxTree) : List FunctionFacts :=
  (item.child? .signature).toList.map (FileFacts.functionFacts scope owner)

def functions : List FunctionFacts :=
  match site.kind with
  | .implItem => (inherentMethods site.item).flatMap (functionOf scope site.selfPath?)
  | .functionItem => functionOf scope none site.item
  | _ => []

def moduleCalls : List ModuleCall :=
  if site.kind == .methodCallExpr && site.item.itemName == "add_module" then
    (FileFacts.addedModule? site.item).toList.map (⟨scope, ·⟩)
  else []

def use? : Option UseTree :=
  if site.kind == .useItem then UseTree.ofItem? site.item else none

end Site

/-- The scope of an inline module: its namespace, and the imports of the use items whose innermost
inline module it is. -/
def scopeOf (space : String) (found : List Site) (nest : Nest) : Scope :=
  (Scope.of (joinSegments (space :: nest.map (·.name)))).addUses
    ((found.filter (·.nest = nest)).filterMap Site.use?)

namespace FileFacts

/-! ## One step -/

/-- What a step adds to the lists that name scopes. -/
structure Records (before after : FileFacts) (items : List DeclaredItem)
    (traitImpls : List TraitImpl) (functions : List FunctionFacts)
    (moduleCalls : List ModuleCall) : Prop where
  items : after.items = before.items ++ items
  traitImpls : after.traitImpls = before.traitImpls ++ traitImpls
  functions : after.functions = before.functions ++ functions
  moduleCalls : after.moduleCalls = before.moduleCalls ++ moduleCalls

section Steps

variable (facts : FileFacts) (scope : Nat)

theorem records_nothing {before after : FileFacts} (items : after.items = before.items)
    (traitImpls : after.traitImpls = before.traitImpls)
    (functions : after.functions = before.functions)
    (moduleCalls : after.moduleCalls = before.moduleCalls) : Records before after [] [] [] [] := by
  constructor <;> simpa only [List.append_nil]

theorem records_declare (site : Site) (fields : List FieldFacts) :
    Records facts (facts.declare scope site.item fields) (site.declaration scope fields)
      [] [] [] := by
  unfold declare Site.declaration
  cases foundAttributes site.item.attributes with
  | nil => exact records_nothing rfl rfl rfl rfl
  | cons head rest => constructor <;> simp

theorem noteFunction_eq (owner : Option SyntaxTree) (item : SyntaxTree) :
    facts.noteFunction scope owner item =
      { facts with functions := facts.functions ++ Site.functionOf scope owner item } := by
  unfold noteFunction Site.functionOf
  cases item.child? .signature with
  | none => simp
  | some signature => rfl

theorem records_methods (owner : Option SyntaxTree) (methods : List SyntaxTree) :
    Records facts (methods.foldl (fun facts method =>
      (facts.noteMisplaced method.allAttributes).noteFunction scope owner method) facts)
      [] [] (methods.flatMap (Site.functionOf scope owner)) [] := by
  induction methods generalizing facts with
  | nil => exact records_nothing rfl rfl rfl rfl
  | cons method rest ih =>
      obtain ⟨items, traitImpls, functions, moduleCalls⟩ :=
        ih ((facts.noteMisplaced method.allAttributes).noteFunction scope owner method)
      rw [noteFunction_eq] at items traitImpls functions moduleCalls
      rw [List.foldl_cons, noteFunction_eq, List.flatMap_cons]
      exact ⟨items, traitImpls, by rw [functions, List.append_assoc]; rfl, moduleCalls⟩

theorem records_noteImpl (site : Site) (kind : site.kind = .implItem) :
    Records facts (facts.noteImpl scope site.item) [] (site.traitImpls scope)
      (site.functions scope) [] := by
  dsimp only [noteImpl, Site.traitImpls, Site.functions, inherentMethods, Site.traitPath?]
  rw [kind, ← Site.selfPath?]
  cases site.selfPath? with
  | none => exact records_nothing rfl rfl rfl rfl
  | some self =>
      cases site.item.child? .implTrait with
      | none =>
          obtain ⟨items, traitImpls, functions, moduleCalls⟩ :=
            records_methods (facts.noteMisplaced site.item.allAttributes) scope (some self)
              ((site.item.groupBody?.getD []).filter (SyntaxTree.hasKind .method))
          exact ⟨items, traitImpls, functions, moduleCalls⟩
      | some target =>
          dsimp only [Option.bind_some]
          cases target.children.getLast?.bind SyntaxTree.typePath? with
          | none => exact records_nothing rfl rfl rfl rfl
          | some path => constructor <;> simp [noteMisplaced]

theorem records_noteFunctionItem (site : Site) (kind : site.kind = .functionItem) :
    Records facts (facts.noteFunctionItem scope site.item) [] [] (site.functions scope) [] := by
  unfold noteFunctionItem Site.functions
  rw [kind, noteFunction_eq]
  constructor <;> simp [noteMisplaced]

theorem records_noteCall (site : Site) (kind : site.kind = .methodCallExpr) :
    Records facts (facts.noteCall scope site.item) [] [] [] (site.moduleCalls scope) := by
  unfold noteCall Site.moduleCalls
  rw [kind, beq_self_eq_true, Bool.true_and]
  split
  · cases addedModule? site.item with
    | none => exact records_nothing rfl rfl rfl rfl
    | some module => constructor <;> simp
  · exact records_nothing rfl rfl rfl rfl

theorem records_noteUse (item : SyntaxTree) :
    Records facts (facts.noteUse scope item) [] [] [] [] := by
  unfold noteUse
  split <;> exact records_nothing rfl rfl rfl rfl

theorem records_note (site : Site) :
    Records facts (facts.note scope site.kind site.item) (site.items scope)
      (site.traitImpls scope) (site.functions scope) (site.moduleCalls scope) := by
  obtain ⟨address, nest, direct, kind, item⟩ := site
  cases kind with
  | moduleItem =>
      dsimp only [note]
      split <;> exact records_nothing rfl rfl rfl rfl
  | useItem => exact records_noteUse facts scope item
  | structItem => exact records_declare facts scope ⟨address, nest, direct, _, item⟩ _
  | enumItem => exact records_declare facts scope ⟨address, nest, direct, _, item⟩ _
  | implItem => exact records_noteImpl facts scope ⟨address, nest, direct, _, item⟩ rfl
  | functionItem => exact records_noteFunctionItem facts scope ⟨address, nest, direct, _, item⟩ rfl
  | methodCallExpr => exact records_noteCall facts scope ⟨address, nest, direct, _, item⟩ rfl
  | _ => exact records_nothing rfl rfl rfl rfl

/-- The scopes after a step: an inline module opens one, and a use item adds to the one it is in. -/
theorem scopes_note (site : Site) :
    (facts.note scope site.kind site.item).scopes =
      (site.use?.elim facts.scopes fun tree => facts.scopes.modify scope (·.addUse tree)) ++
        site.opened?.toList.map fun _ => .of (facts.moduleSpace scope site.item) := by
  obtain ⟨address, nest, direct, kind, item⟩ := site
  cases kind with
  | moduleItem =>
      cases body : item.groupBody? with
      | none => simp [note, Site.use?, Site.opened?, body]
      | some _ => simp [note, Site.use?, Site.opened?, body, openScope]
  | useItem =>
      cases tree : UseTree.ofItem? item with
      | none => simp [note, noteUse, Site.use?, Site.opened?, tree]
      | some _ => simp [note, noteUse, Site.use?, Site.opened?, tree]
  | structItem | enumItem =>
      simp only [note, declare, Site.use?, Site.opened?]
      split <;> simp
  | implItem => simpa [note, Site.use?, Site.opened?] using (notes_noteImpl facts scope item).scopes
  | functionItem =>
      simpa [note, Site.use?, Site.opened?] using (notes_noteFunctionItem facts scope item).scopes
  | methodCallExpr =>
      simpa [note, Site.use?, Site.opened?] using (notes_noteCall facts scope item).scopes
  | traitItem => simp [note, noteMisplaced, Site.use?, Site.opened?]
  | _ => simp [note, Site.use?, Site.opened?]

end Steps

end FileFacts

/-! ## Inline modules are told apart -/

mutual

theorem address_of_mem_sites (address : List Nat) (nest : Nest) (direct : Bool)
    (tree : SyntaxTree) {site : Site} (member : site ∈ sites address nest direct tree) :
    address <+: site.address := by
  match tree with
  | .token _ _ _ _ => cases member
  | .group _ body _ _ =>
      rw [sites] at member
      obtain ⟨place, -, below⟩ := address_of_mem_sitesIn address 0 nest direct body member
      exact (List.prefix_append _ _).trans below
  | .node kind parts =>
      rw [sites, List.mem_cons] at member
      obtain rfl | member := member
      · exact List.prefix_rfl
      · split at member
        · cases member
        · obtain ⟨place, -, below⟩ := address_of_mem_sitesIn address 0 _ _ parts member
          exact (List.prefix_append _ _).trans below

theorem address_of_mem_sitesIn (address : List Nat) (place : Nat) (nest : Nest) (direct : Bool)
    (trees : List SyntaxTree) {site : Site}
    (member : site ∈ sitesIn address place nest direct trees) :
    ∃ found, place ≤ found ∧ address ++ [found] <+: site.address := by
  match trees with
  | [] => cases member
  | tree :: rest =>
      rw [sitesIn, List.mem_append] at member
      obtain member | member := member
      · exact ⟨place, le_rfl, address_of_mem_sites _ nest direct tree member⟩
      · obtain ⟨found, later, below⟩ :=
          address_of_mem_sitesIn address (place + 1) nest direct rest member
        exact ⟨found, by omega, below⟩

end

theorem place_eq_of_prefix {address common : List Nat} {one other : Nat}
    (left : address ++ [one] <+: common) (right : address ++ [other] <+: common) :
    one = other := by
  have same : address ++ [one] = address ++ [other] :=
    (List.prefix_of_prefix_length_le left right (by simp)).eq_of_length (by simp)
  simpa using same

mutual

theorem pairwise_sites (address : List Nat) (nest : Nest) (direct : Bool) (tree : SyntaxTree) :
    (sites address nest direct tree).Pairwise (·.address ≠ ·.address) := by
  match tree with
  | .token _ _ _ _ => exact .nil
  | .group _ body _ _ =>
      rw [sites]
      exact pairwise_sitesIn address 0 nest direct body
  | .node kind parts =>
      rw [sites, List.pairwise_cons]
      split
      · exact ⟨fun _ member => absurd member List.not_mem_nil, .nil⟩
      · refine ⟨fun below member same => ?_, pairwise_sitesIn address 0 _ _ parts⟩
        obtain ⟨place, -, longer⟩ := address_of_mem_sitesIn address 0 _ _ parts member
        rw [← same] at longer
        have length : address.length + 1 ≤ address.length := by simpa using longer.length_le
        omega

theorem pairwise_sitesIn (address : List Nat) (place : Nat) (nest : Nest) (direct : Bool)
    (trees : List SyntaxTree) :
    (sitesIn address place nest direct trees).Pairwise (·.address ≠ ·.address) := by
  match trees with
  | [] => exact .nil
  | tree :: rest =>
      rw [sitesIn, List.pairwise_append]
      refine ⟨pairwise_sites _ nest direct tree,
        pairwise_sitesIn address (place + 1) nest direct rest, ?_⟩
      intro early here late there same
      obtain ⟨found, later, below⟩ :=
        address_of_mem_sitesIn address (place + 1) nest direct rest there
      have front := address_of_mem_sites (address ++ [place]) nest direct tree here
      have equal := place_eq_of_prefix (same ▸ front) below
      omega

end

theorem Site.eq_of_opened? {site : Site} {nest : Nest} (opens : site.opened? = some nest) :
    nest = site.nest ++ [⟨site.address, site.item.itemName⟩] := by
  unfold Site.opened? at opens
  split at opens
  · exact (Option.some.inj opens).symm
  · cases opens

theorem nodup_nests (file : SyntaxTree) : (nests file).Nodup := by
  rw [nests, List.nodup_cons]
  constructor
  · intro member
    obtain ⟨site, -, opens⟩ := List.mem_filterMap.mp member
    exact absurd (site.eq_of_opened? opens) (by simp)
  · refine List.Pairwise.filterMap Site.opened? ?_ (pairwise_sites [] [] true file)
    intro one other apart nest opens nest' opens' same
    rw [one.eq_of_opened? opens, other.eq_of_opened? opens'] at same
    have last := congrArg List.getLast? same
    simp only [List.getLast?_append, List.getLast?_singleton, Option.some_or, Option.some.injEq,
      InlineModule.mk.injEq] at last
    exact apart last.1

/-! ## The scopes of inline modules -/

theorem space_scopeOf (space : String) (found : List Site) (nest : Nest) :
    (scopeOf space found nest).space = joinSegments (space :: nest.map (·.name)) :=
  space_addUses _ _

theorem scopeOf_concat (space : String) (found : List Site) (site : Site) (nest : Nest) :
    scopeOf space (found ++ [site]) nest =
      if site.nest = nest then
        site.use?.elim (scopeOf space found nest) (scopeOf space found nest).addUse
      else scopeOf space found nest := by
  unfold scopeOf
  rw [List.filter_append, List.filterMap_append, Scope.addUses, List.foldl_append]
  split
  · rename_i here
    have kept : [site].filter (·.nest = nest) = [site] := by simp [here]
    rw [kept]
    cases use : site.use? with
    | none => simp [use, Scope.addUses]
    | some tree => simp [use, Scope.addUses]
  · rename_i apart
    have dropped : [site].filter (·.nest = nest) = [] := by simp [apart]
    rw [dropped]
    rfl

theorem scopeOf_of_apart (space : String) {found : List Site} {nest : Nest}
    (apart : ∀ site ∈ found, site.nest ≠ nest) :
    scopeOf space found nest = .of (joinSegments (space :: nest.map (·.name))) := by
  have none_here : found.filter (·.nest = nest) = [] := by simpa using apart
  rw [scopeOf, none_here]
  rfl

/-! ## The whole visit -/

namespace FileFacts

/-- The state of a visit of a file with some inline modules in all: those known so far have their
scopes, and the nodes seen so far have recorded what they record. -/
structure Holds (space : String) (all known : List Nest) (seen : List Site) (facts : FileFacts) :
    Prop where
  inside : ∀ site ∈ seen, site.nest ∈ known
  scopes : facts.scopes = known.map (scopeOf space seen)
  items : facts.items = seen.flatMap fun site => site.items (all.idxOf site.nest)
  traitImpls : facts.traitImpls = seen.flatMap fun site => site.traitImpls (all.idxOf site.nest)
  functions : facts.functions = seen.flatMap fun site => site.functions (all.idxOf site.nest)
  moduleCalls :
    facts.moduleCalls = seen.flatMap fun site => site.moduleCalls (all.idxOf site.nest)

section Visit

variable {space : String} {all known : List Nest} {seen : List Site} {facts : FileFacts}

theorem idxOf_of_known {nest : Nest} (early : known <+: all) (around : nest ∈ known) :
    all.idxOf nest = known.idxOf nest := by
  obtain ⟨more, rfl⟩ := early
  exact List.idxOf_append_of_mem around

theorem scope_of_scopes {nest : Nest} (around : nest ∈ known)
    (scopes : facts.scopes = known.map (scopeOf space seen)) :
    facts.scope (known.idxOf nest) = scopeOf space seen nest := by
  have inside := List.idxOf_lt_length_iff.mpr around
  rw [FileFacts.scope, scopes, List.getElem?_map, List.getElem?_eq_getElem inside,
    List.getElem_idxOf inside]
  rfl

/-- A use item adds to the scope of its innermost inline module and to no other one. -/
theorem scopes_use (distinct : known.Nodup) (site : Site) (around : site.nest ∈ known)
    (scopes : facts.scopes = known.map (scopeOf space seen)) :
    (site.use?.elim facts.scopes fun tree =>
        facts.scopes.modify (known.idxOf site.nest) (·.addUse tree)) =
      known.map (scopeOf space (seen ++ [site])) := by
  cases use : site.use? with
  | none =>
      rw [Option.elim_none, scopes]
      refine List.map_congr_left fun nest _ => ?_
      rw [scopeOf_concat, use, Option.elim_none, ite_self]
  | some tree =>
      rw [Option.elim_some, scopes]
      apply List.ext_getElem?
      intro index
      rw [List.getElem?_modify, List.getElem?_map, List.getElem?_map]
      cases at_index : known[index]? with
      | none => rfl
      | some nest =>
          obtain ⟨inside, rfl⟩ := List.getElem?_eq_some_iff.mp at_index
          have here : known.idxOf site.nest = index ↔ site.nest = known[index] := by
            constructor
            · rintro rfl
              exact (List.getElem_idxOf (List.idxOf_lt_length_iff.mpr around)).symm
            · intro same
              rw [same]
              exact distinct.idxOf_getElem index inside
          rw [Option.map_some, Option.map_some, Option.map_eq_map, Option.map_some, scopeOf_concat,
            use, Option.elim_some]
          by_cases same : site.nest = known[index]
          · rw [if_pos (here.mpr same), if_pos same]
          · rw [if_neg (mt here.mp same), if_neg same]

theorem Holds.note (holds : Holds space all known seen facts) (distinct : all.Nodup) (site : Site)
    (around : site.nest ∈ known) (early : known ++ site.opened?.toList <+: all) :
    Holds space all (known ++ site.opened?.toList) (seen ++ [site])
      (facts.note (all.idxOf site.nest) site.kind site.item) := by
  have before : known <+: all := (List.prefix_append _ _).trans early
  have known_distinct : (known ++ site.opened?.toList).Nodup := early.sublist.nodup distinct
  have index := idxOf_of_known before around
  obtain ⟨items, traitImpls, functions, moduleCalls⟩ :=
    records_note facts (all.idxOf site.nest) site
  refine ⟨?_, ?_, ?_, ?_, ?_, ?_⟩
  · intro found member
    obtain member | rfl := List.mem_append.mp member |>.imp_right List.mem_singleton.mp
    · exact List.mem_append_left _ (holds.inside found member)
    · exact List.mem_append_left _ around
  · rw [scopes_note, index, scopes_use known_distinct.of_append_left site around holds.scopes,
      List.map_append]
    congr 1
    cases opens : site.opened? with
    | none => rfl
    | some nest =>
        have inner : nest.map (·.name) = site.nest.map (·.name) ++ [site.item.itemName] := by
          rw [site.eq_of_opened? opens, List.map_append]
          rfl
        have fresh : nest ∉ known := by
          rw [opens] at known_distinct
          exact fun old => List.disjoint_of_nodup_append known_distinct old (by simp)
        have unseen : ∀ found ∈ seen ++ [site], found.nest ≠ nest := by
          rw [List.forall_mem_append]
          refine ⟨fun found member same => fresh (same ▸ holds.inside found member), ?_⟩
          rw [List.forall_mem_singleton]
          exact fun same => fresh (same ▸ around)
        have joined : joinSegments (space :: site.nest.map (·.name) ++ [site.item.itemName]) =
            joinSegments (space :: site.nest.map (·.name)) ++ "::" ++
              joinSegments [site.item.itemName] :=
          joinSegments_append (List.cons_ne_nil _ _) (List.cons_ne_nil _ _)
        rw [Option.toList_some, List.map_singleton, List.map_singleton,
          scopeOf_of_apart space unseen, moduleSpace, scope_of_scopes around holds.scopes,
          space_scopeOf, inner, ← List.cons_append, joined]
        simp [joinSegments]
  · rw [items, holds.items, List.flatMap_append, List.flatMap_singleton]
  · rw [traitImpls, holds.traitImpls, List.flatMap_append, List.flatMap_singleton]
  · rw [functions, holds.functions, List.flatMap_append, List.flatMap_singleton]
  · rw [moduleCalls, holds.moduleCalls, List.flatMap_append, List.flatMap_singleton]

theorem nestInside_known (site : Site) (around : site.nest ∈ known) :
    site.nestInside ∈ known ++ site.opened?.toList := by
  rw [Site.nestInside]
  cases site.opened? with
  | none => exact List.mem_append_left _ around
  | some nest => exact List.mem_append_right _ List.mem_cons_self

theorem filterMap_opened? (site : Site) (rest : List Site) :
    (site :: rest).filterMap Site.opened? = site.opened?.toList ++ rest.filterMap Site.opened? := by
  rw [List.filterMap_cons]
  cases site.opened? <;> rfl

/-- The parts of a node are visited in the scope of the innermost inline module around them. -/
theorem Holds.scopeInside_eq (holds : Holds space all known seen facts) (distinct : all.Nodup)
    (site : Site) (early : known ++ site.opened?.toList <+: all)
    (visited : isUnvisited site.kind site.item = false) :
    facts.scopeInside (all.idxOf site.nest) site.kind = all.idxOf site.nestInside := by
  by_cases isModule : site.kind = .moduleItem
  · have body : site.item.groupBody?.isSome = true := by
      simpa [isUnvisited, isModule] using visited
    obtain ⟨nest, opens⟩ : ∃ nest, site.opened? = some nest :=
      ⟨site.nest ++ [⟨site.address, site.item.itemName⟩], by simp [Site.opened?, isModule, body]⟩
    rw [opens] at early
    obtain ⟨more, rfl⟩ := early
    have fresh : nest ∉ known := fun old =>
      List.disjoint_of_nodup_append distinct.of_append_left old (by simp)
    have last : (known ++ (some nest).toList ++ more).idxOf nest = known.length := by
      rw [List.append_assoc, List.idxOf_append_of_notMem fresh]
      simp
    rw [scopeInside, isModule, beq_self_eq_true, if_pos rfl, Site.nestInside, opens,
      Option.getD_some, last, holds.scopes, List.length_map]
  · have other : (site.kind == .moduleItem) = false := by simpa using isModule
    simp [scopeInside, Site.nestInside, Site.opened?, other]

mutual

theorem holds_visit (distinct : all.Nodup) (address : List Nat) (nest : Nest) (direct : Bool)
    (tree : SyntaxTree) {known : List Nest} {seen : List Site} {facts : FileFacts}
    (holds : Holds space all known seen facts) (around : nest ∈ known)
    (early : known ++ (sites address nest direct tree).filterMap Site.opened? <+: all) :
    Holds space all (known ++ (sites address nest direct tree).filterMap Site.opened?)
      (seen ++ sites address nest direct tree) (visit (all.idxOf nest) tree facts) := by
  match tree with
  | .token _ _ _ _ =>
      rw [visit, sites, List.filterMap_nil, List.append_nil, List.append_nil]
      exact holds
  | .group _ body _ _ =>
      rw [sites] at early
      rw [visit, sites]
      exact holds_visitAll distinct address 0 nest direct body holds around early
  | .node kind parts =>
      let site : Site := ⟨address, nest, direct, kind, .node kind parts⟩
      rw [sites, filterMap_opened?, ← List.append_assoc] at early
      rw [visit_node, sites, filterMap_opened?, ← List.append_assoc]
      have opens : known ++ site.opened?.toList <+: all := (List.prefix_append _ _).trans early
      have own := holds.note distinct site around opens
      cases unvisited : isUnvisited kind (.node kind parts) with
      | true =>
          rw [if_pos rfl, if_pos rfl, List.filterMap_nil, List.append_nil]
          exact own
      | false =>
          rw [unvisited, if_neg Bool.false_ne_true] at early
          rw [if_neg Bool.false_ne_true, if_neg Bool.false_ne_true,
            holds.scopeInside_eq distinct site opens unvisited, List.append_cons seen]
          exact holds_visitAll distinct address 0 site.nestInside site.directInside parts own
            (nestInside_known site around) early

theorem holds_visitAll (distinct : all.Nodup) (address : List Nat) (place : Nat) (nest : Nest)
    (direct : Bool) (trees : List SyntaxTree) {known : List Nest} {seen : List Site}
    {facts : FileFacts} (holds : Holds space all known seen facts) (around : nest ∈ known)
    (early : known ++ (sitesIn address place nest direct trees).filterMap Site.opened? <+: all) :
    Holds space all (known ++ (sitesIn address place nest direct trees).filterMap Site.opened?)
      (seen ++ sitesIn address place nest direct trees)
      (visitAll (all.idxOf nest) trees facts) := by
  match trees with
  | [] =>
      rw [visitAll, sitesIn, List.filterMap_nil, List.append_nil, List.append_nil]
      exact holds
  | tree :: rest =>
      rw [sitesIn, List.filterMap_append, ← List.append_assoc] at early
      rw [visitAll, sitesIn, List.filterMap_append, ← List.append_assoc, ← List.append_assoc]
      have first := holds_visit distinct (address ++ [place]) nest direct tree holds around
        ((List.prefix_append _ _).trans early)
      exact holds_visitAll distinct address (place + 1) nest direct rest first
        (List.mem_append_left _ around) early

end

end Visit

end FileFacts

/-! ## Use items in bodies -/

def Site.binds (name : String) (site : Site) : Bool :=
  site.use?.any fun tree => tree.leaves.any (·.bound? == some name)

/-- What binds a name in an inline module: the last use item there that binds it. -/
def binding? (found : List Site) (nest : Nest) (name : String) : Option Site :=
  found.reverse.find? fun site => decide (site.nest = nest) && site.binds name

/-- Whether a name in an inline module is bound to something else than by the direct use items: what
binds it stands in another node there, such as the body of a function, and binds it to another
path. -/
def Redirected (space : String) (found : List Site) (nest : Nest) (name : String) : Prop :=
  ∃ site, binding? found nest name = some site ∧ site.direct = false ∧
    (scopeOf space [site] nest).import? name ≠
      (scopeOf space (found.filter (·.direct)) nest).import? name

theorem import?_addUse (scope : Scope) (tree : UseTree) (name : String) :
    (scope.addUse tree).import? name =
      if tree.leaves.any (·.bound? == some name) then
        ((Scope.of scope.space).addUse tree).import? name
      else scope.import? name := by
  have added := import?_addUses scope [tree] name
  have alone := import?_addUses (.of scope.space) [tree] name
  rw [List.flatMap_singleton] at added alone
  change (scope.addUse tree).import? name = _ at added
  change ((Scope.of scope.space).addUse tree).import? name = _ at alone
  rw [added, alone]
  cases bound : binder? tree.leaves name with
  | none =>
      have unbound : tree.leaves.any (·.bound? == some name) = false := by
        simpa [binder?] using bound
      rw [unbound]
      rfl
  | some leaf =>
      have binds : leaf.bound? = some name := by simpa using List.find?_some bound
      have member : leaf ∈ tree.leaves := List.mem_reverse.mp (List.mem_of_find?_eq_some bound)
      have some_binds : tree.leaves.any (·.bound? == some name) = true :=
        List.any_eq_true.mpr ⟨leaf, member, by simpa using binds⟩
      obtain ⟨item, taken, -⟩ := Option.map_eq_some_iff.mp (leaf.bound?_taken.trans binds)
      rw [some_binds, if_pos rfl, Option.bind_some, taken]
      rfl

theorem import?_scopeOf (space : String) (found : List Site) (nest : Nest) (name : String) :
    (scopeOf space found nest).import? name =
      (binding? found nest name).bind fun site => (scopeOf space [site] nest).import? name := by
  induction found using List.reverseRecOn with
  | nil => rfl
  | append_singleton front site ih =>
      have last : binding? (front ++ [site]) nest name =
          if decide (site.nest = nest) && site.binds name then some site
          else binding? front nest name := by
        rw [binding?, List.reverse_append, List.reverse_singleton, List.singleton_append,
          List.find?_cons]
        split <;> simp_all [binding?]
      have alone := scopeOf_concat space [] site nest
      rw [List.nil_append] at alone
      rw [scopeOf_concat, last]
      by_cases here : site.nest = nest
      · cases use : site.use? with
        | none => simp [here, use, Site.binds, ih]
        | some tree =>
            rw [if_pos here, use, Option.elim_some] at alone
            have binds : site.binds name = tree.leaves.any (·.bound? == some name) := by
              rw [Site.binds, use]
              rfl
            have inside : decide (site.nest = nest) = true := by simpa using here
            rw [if_pos here, Option.elim_some, import?_addUse, space_scopeOf, binds, inside,
              Bool.true_and]
            split
            · rw [Option.bind_some, alone]
              rfl
            · exact ih
      · simp [here, ih]

theorem find?_of_kept {α : Type} {kept p : α → Bool} {items : List α} {item : α}
    (found : items.find? p = some item) (isKept : kept item = true) :
    (items.filter kept).find? p = some item := by
  induction items with
  | nil => cases found
  | cons head rest ih =>
      rw [List.find?_cons] at found
      cases here : p head with
      | true =>
          rw [here] at found
          obtain rfl : head = item := Option.some.inj found
          simp [isKept, here]
      | false =>
          rw [here] at found
          rw [List.filter_cons]
          split
          · rw [List.find?_cons, here]
            exact ih found
          · exact ih found

theorem import?_direct_iff (space : String) (found : List Site) (nest : Nest) (name : String) :
    (scopeOf space found nest).import? name =
        (scopeOf space (found.filter (·.direct)) nest).import? name ↔
      ¬Redirected space found nest name := by
  cases bound : binding? found nest name with
  | none =>
      have unbound : binding? (found.filter (·.direct)) nest name = none := by
        unfold binding? at bound ⊢
        rw [List.find?_eq_none] at bound ⊢
        intro site member
        exact bound site (by simp_all)
      simp [Redirected, bound, unbound, import?_scopeOf space found,
        (import?_scopeOf space (found.filter _))]
  | some site =>
      have imported : (scopeOf space found nest).import? name =
          (scopeOf space [site] nest).import? name := by
        rw [import?_scopeOf space found, bound, Option.bind_some]
      cases direct : site.direct with
      | false => simp [Redirected, bound, direct, imported]
      | true =>
          have same : binding? (found.filter (·.direct)) nest name = some site := by
            rw [binding?, ← List.filter_reverse]
            exact find?_of_kept bound direct
          have alike : (scopeOf space (found.filter (·.direct)) nest).import? name =
              (scopeOf space [site] nest).import? name := by
            rw [import?_scopeOf space (found.filter _), same, Option.bind_some]
          simp [Redirected, bound, direct, imported, alike]

/-- A path stands for the same in scopes of one namespace that import its first name alike. -/
theorem resolvePath_of_import? {scope other : Scope} (space : scope.space = other.space)
    (spaces path : List String)
    (imports : ∀ first ∈ path.head?, scope.import? first = other.import? first) :
    resolvePath spaces scope path = resolvePath spaces other path := by
  cases path with
  | nil => rfl
  | cons first rest =>
      simp only [resolvePath, belowScope, Scope.absolute, imports first rfl, space]

/-! ## Files -/

/-- What is recorded of a file of a namespace follows its inline modules: each of them has a scope
with the namespace that its name and those of the inline modules around it lead to, and everything
is recorded with the scope of its innermost one. The direct use items alone decide about a name
exactly if it is not redirected, and so about the paths that it begins. -/
structure FollowsNesting (space : String) (file : SyntaxTree) (facts : FileFacts) : Prop where
  distinct : (nests file).Nodup
  inside : ∀ site ∈ fileSites file, (nests file).idxOf site.nest < facts.scopes.length
  scopes : facts.scopes = (nests file).map (scopeOf space (fileSites file))
  spaces : ∀ nest ∈ nests file, (facts.scope ((nests file).idxOf nest)).space =
    joinSegments (space :: nest.map (·.name))
  items : facts.items =
    (fileSites file).flatMap fun site => site.items ((nests file).idxOf site.nest)
  traitImpls : facts.traitImpls =
    (fileSites file).flatMap fun site => site.traitImpls ((nests file).idxOf site.nest)
  functions : facts.functions =
    (fileSites file).flatMap fun site => site.functions ((nests file).idxOf site.nest)
  moduleCalls : facts.moduleCalls =
    (fileSites file).flatMap fun site => site.moduleCalls ((nests file).idxOf site.nest)
  imports : ∀ nest ∈ nests file, ∀ name,
    (facts.scope ((nests file).idxOf nest)).import? name =
        (scopeOf space ((fileSites file).filter (·.direct)) nest).import? name ↔
      ¬Redirected space (fileSites file) nest name
  resolves : ∀ nest ∈ nests file, ∀ known path,
    (∀ first ∈ path.head?, ¬Redirected space (fileSites file) nest first) →
      resolvePath known (facts.scope ((nests file).idxOf nest)) path =
        resolvePath known (scopeOf space ((fileSites file).filter (·.direct)) nest) path

theorem collect_nested (path space : String) (file : SyntaxTree) :
    FollowsNesting space file (FileFacts.collect path space file) := by
  have distinct := nodup_nests file
  have start : FileFacts.Holds space (nests file) [[]] [] (.empty path space) :=
    ⟨by simp, by simp [FileFacts.empty, scopeOf, Scope.addUses, joinSegments], rfl, rfl, rfl, rfl⟩
  have holds := FileFacts.holds_visit distinct [] [] true file start (by simp) List.prefix_rfl
  have index : (nests file).idxOf [] = 0 := by simp [nests]
  rw [index, List.nil_append, List.singleton_append, ← fileSites, ← nests,
    ← FileFacts.collect] at holds
  have scope : ∀ nest ∈ nests file,
      (FileFacts.collect path space file).scope ((nests file).idxOf nest) =
        scopeOf space (fileSites file) nest := fun nest member =>
    FileFacts.scope_of_scopes member holds.scopes
  refine ⟨distinct, ?_, holds.scopes, ?_, holds.items, holds.traitImpls, holds.functions,
    holds.moduleCalls, ?_, ?_⟩
  · intro site member
    rw [holds.scopes, List.length_map]
    exact List.idxOf_lt_length_iff.mpr (holds.inside site member)
  · intro nest member
    rw [scope nest member, space_scopeOf]
  · intro nest member name
    rw [scope nest member]
    exact import?_direct_iff space (fileSites file) nest name
  · intro nest member known written kept
    rw [scope nest member]
    refine resolvePath_of_import? ?_ known written fun first begins => ?_
    · rw [space_scopeOf, space_scopeOf]
    · exact (import?_direct_iff space (fileSites file) nest first).mpr (kept first begins)

def mailText : String :=
  "use crate::mail::Mailer;\n#[singleton(service = Mailer)]\nstruct Smtp;\n" ++
    "fn check() \x7b\n    use crate::mocks::Mailer;\n\x7d\n"

theorem mailer_redirected :
    ((parseFile mailText).toOption.map fun file =>
      (((FileFacts.collect "src/lib.rs" "crate" file).scope 0).import? "Mailer",
        (scopeOf "crate" ((fileSites file).filter (·.direct)) []).import? "Mailer")) =
      some (some "crate::mocks::Mailer", some "crate::mail::Mailer") ∧
    ((discover .default [⟨"src/lib.rs", mailText⟩]).services.flatMap (·.registrations)).map
      (·.service) = [some (.of "crate::mocks" "Mailer")] := by
  decide +kernel

end Wiring.Source
