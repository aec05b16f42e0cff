import Mathlib.Data.List.Flatten
import Mathlib.Data.List.Perm.Subperm
import Wiring.Proofs.Source.Visit
import Wiring.Source.Discovery

/-!
# Which declaration attributes a file accounts for

Each declaration attribute where the visit looks is attached to an item or noted as misplaced, once.
See `discovery_accounts`.
-/

set_option autoImplicit false

namespace Wiring.Source

open Wiring.Grammar

/-! ## The attributes that are looked at -/

/-- The attributes that are looked at when a tree is met: those in front of a struct or an enum,
those of a function, a trait or an implementation, and those of the functions of a type. -/
def ownAttributes (kind : NodeKind) (item : SyntaxTree) : List SyntaxTree :=
  match kind with
  | .structItem | .enumItem => item.attributes
  | .functionItem | .traitItem => item.allAttributes
  | .implItem => item.allAttributes ++ (inherentMethods item).flatMap SyntaxTree.allAttributes
  | _ => []

mutual

/-- The attributes that are looked at anywhere in a tree. -/
def lookedAt : SyntaxTree → List SyntaxTree
  | .node kind parts =>
      let item := SyntaxTree.node kind parts
      ownAttributes kind item ++ if isUnvisited kind item then [] else lookedAtIn parts
  | .group _ body _ _ => lookedAtIn body
  | .token _ _ _ _ => []

def lookedAtIn : List SyntaxTree → List SyntaxTree
  | [] => []
  | tree :: rest => lookedAt tree ++ lookedAtIn rest

end

mutual

/-- All attributes in a tree. -/
def attributesIn : SyntaxTree → List SyntaxTree
  | .node kind parts =>
      (if kind == .attribute then [SyntaxTree.node kind parts] else []) ++ attributesOf parts
  | .group _ body _ _ => attributesOf body
  | .token _ _ _ _ => []

def attributesOf : List SyntaxTree → List SyntaxTree
  | [] => []
  | tree :: rest => attributesIn tree ++ attributesOf rest

end

/-! ## Nothing is looked at twice -/

mutual

/-- The attributes that what encloses a tree may look at in it. -/
def offered : SyntaxTree → List SyntaxTree
  | .node kind parts =>
      match kind with
      | .attribute => [.node kind parts]
      | .method => (SyntaxTree.node kind parts).allAttributes
      | _ => []
  | .group _ body _ _ => offeredIn body
  | .token _ _ _ _ => []

def offeredIn : List SyntaxTree → List SyntaxTree
  | [] => []
  | tree :: rest => offered tree ++ offeredIn rest

end

theorem append_shuffle {α : Type} (first second third fourth : List α) :
    ((first ++ second) ++ (third ++ fourth)).Perm ((first ++ third) ++ (second ++ fourth)) := by
  simp only [List.append_assoc]
  exact (List.perm_append_comm_assoc second third fourth).append_left first

/-- The attributes at the head of a body and those of the functions in it are among what it
offers. -/
theorem body_subperm_offeredIn (body : List SyntaxTree) :
    (body.filter (SyntaxTree.hasKind .attribute) ++
      (body.filter (SyntaxTree.hasKind .method)).flatMap SyntaxTree.allAttributes).Subperm
        (offeredIn body) := by
  induction body with
  | nil => exact List.Subperm.refl _
  | cons tree rest ih =>
      rw [offeredIn]
      cases tree with
      | token kind text line whole => exact ih
      | group delimiter body openLine closeLine => exact List.nil_subperm.append ih
      | node kind parts =>
          cases kind with
          | «attribute» => exact (List.Subperm.refl [_]).append ih
          | method =>
              exact (List.perm_append_comm_assoc ..).subperm.trans ((List.Subperm.refl _).append ih)
          | _ => exact List.nil_subperm.append ih

theorem attributes_subperm_offeredIn (trees : List SyntaxTree) :
    (trees.filter (SyntaxTree.hasKind .attribute)).Subperm (offeredIn trees) :=
  (List.sublist_append_left ..).subperm.trans (body_subperm_offeredIn trees)

theorem attributes_append_offeredIn (kind : NodeKind) (parts : List SyntaxTree) :
    ((SyntaxTree.node kind parts).attributes ++
      offeredIn ((SyntaxTree.node kind parts).groupBody?.getD [])).Subperm (offeredIn parts) := by
  induction parts with
  | nil => exact List.Subperm.refl _
  | cons tree rest ih =>
      rw [offeredIn]
      cases tree with
      | token kind text line whole => exact ih
      | group delimiter body openLine closeLine =>
          exact List.perm_append_comm.subperm.trans
            ((List.Subperm.refl _).append (attributes_subperm_offeredIn rest))
      | node kind parts =>
          cases kind with
          | «attribute» => exact (List.Subperm.refl [_]).append ih
          | _ => exact List.nil_subperm.append ih

theorem allAttributes_subperm (kind : NodeKind) (parts : List SyntaxTree) :
    (SyntaxTree.node kind parts).allAttributes.Subperm (offeredIn parts) :=
  ((List.Subperm.refl _).append (attributes_subperm_offeredIn _)).trans
    (attributes_append_offeredIn kind parts)

theorem inherentMethods_sublist (item : SyntaxTree) :
    (inherentMethods item).Sublist
      ((item.groupBody?.getD []).filter (SyntaxTree.hasKind .method)) := by
  dsimp only [inherentMethods]
  split
  · exact List.Sublist.refl _
  · exact List.nil_sublist _

theorem ownAttributes_subperm (kind : NodeKind) (parts : List SyntaxTree) :
    (ownAttributes kind (.node kind parts)).Subperm (offeredIn parts) := by
  cases kind with
  | structItem => exact attributes_subperm_offeredIn parts
  | enumItem => exact attributes_subperm_offeredIn parts
  | functionItem => exact allAttributes_subperm .functionItem parts
  | traitItem => exact allAttributes_subperm .traitItem parts
  | implItem =>
      generalize whole : SyntaxTree.node .implItem parts = item
      have offers := attributes_append_offeredIn .implItem parts
      rw [whole] at offers
      have methods : ((inherentMethods item).flatMap SyntaxTree.allAttributes).Subperm
          (((item.groupBody?.getD []).filter (SyntaxTree.hasKind .method)).flatMap
            SyntaxTree.allAttributes) :=
        ((inherentMethods_sublist item).flatMap _).subperm
      have inside := (List.Subperm.refl ((item.groupBody?.getD []).filter
        (SyntaxTree.hasKind .attribute))).append methods
      have body := inside.trans (body_subperm_offeredIn _)
      rw [ownAttributes, SyntaxTree.allAttributes, List.append_assoc]
      exact ((List.Subperm.refl _).append body).trans offers
  | _ => exact List.nil_subperm

mutual

theorem offered_append_lookedAt (tree : SyntaxTree) :
    (offered tree ++ lookedAt tree).Subperm (attributesIn tree) := by
  match tree with
  | .token _ _ _ _ => exact List.Subperm.refl _
  | .group _ body _ _ =>
      rw [offered, lookedAt, attributesIn]
      exact offeredIn_append_lookedAtIn body
  | .node kind parts =>
      have inside := offeredIn_append_lookedAtIn parts
      -- What a node offers of its own is taken away from what its parts offer, so each kind is
      -- weighed against its parts as a whole.
      have visited : (lookedAtIn parts).Subperm (attributesOf parts) :=
        (List.sublist_append_right ..).subperm.trans inside
      have own := ownAttributes_subperm kind parts
      rw [lookedAt, attributesIn]
      cases kind with
      | «attribute» => exact (List.Subperm.refl [_]).append visited
      | method =>
          have taken := allAttributes_subperm .method parts
          exact (taken.append (List.Subperm.refl _)).trans inside
      | useItem => exact List.nil_subperm
      | moduleItem =>
          dsimp only [offered, ownAttributes]
          split
          · exact List.nil_subperm
          · exact visited
      | _ => exact (own.append (List.Subperm.refl _)).trans inside

theorem offeredIn_append_lookedAtIn (trees : List SyntaxTree) :
    (offeredIn trees ++ lookedAtIn trees).Subperm (attributesOf trees) := by
  match trees with
  | [] => exact List.Subperm.refl _
  | tree :: rest =>
      rw [offeredIn, lookedAtIn, attributesOf]
      exact (append_shuffle ..).subperm.trans
        ((offered_append_lookedAt tree).append (offeredIn_append_lookedAtIn rest))

end

/-! ## The account of a file -/

def entries (trees : List SyntaxTree) : List (Nat × String) :=
  (foundAttributes trees).map fun found => (found.line, found.kind.name)

theorem entries_append (front back : List SyntaxTree) :
    entries (front ++ back) = entries front ++ entries back := by
  simp only [entries, foundAttributes, List.filterMap_append, List.map_append]

namespace FileFacts

/-- The declaration attributes that a file accounts for: those attached to an item, and those noted
where they mean nothing. -/
def account (facts : FileFacts) : List (Nat × String) :=
  (facts.items.flatMap fun item => item.attributes.map fun found =>
    (found.line, found.kind.name)) ++
    facts.misplaced.map fun found => (found.line, found.name)

/-- Whether a file accounts for what it did before and for some more attributes, each once. -/
def Adds (before after : FileFacts) (trees : List SyntaxTree) : Prop :=
  after.account.Perm (before.account ++ entries trees)

section Steps

variable (facts : FileFacts) (scope : Nat)

theorem adds_of_notes {before after : FileFacts} {trees : List SyntaxTree}
    (notes : Notes before after trees) : Adds before after trees := by
  simp only [Adds, account, notes.items, notes.misplaced, entries, List.map_append, List.map_map,
    List.append_assoc]
  exact List.Perm.refl _

theorem adds_nothing {before after : FileFacts} (items : after.items = before.items)
    (misplaced : after.misplaced = before.misplaced) : Adds before after [] := by
  simp [Adds, account, items, misplaced, entries, foundAttributes]

theorem Adds.trans {first second third : FileFacts} {front back : List SyntaxTree}
    (early : Adds first second front) (late : Adds second third back) :
    Adds first third (front ++ back) := by
  unfold Adds at *
  rw [entries_append, ← List.append_assoc]
  exact late.trans (early.append_right _)

theorem adds_declare (item : SyntaxTree) (fields : List FieldFacts) :
    Adds facts (facts.declare scope item fields) item.attributes := by
  unfold Adds declare
  cases found : foundAttributes item.attributes with
  | nil => simp [entries, found]
  | cons first rest =>
      simp only [account, entries, found, List.flatMap_append, List.flatMap_cons,
        List.flatMap_nil, List.append_nil, List.append_assoc]
      exact List.Perm.append_left _ List.perm_append_comm

theorem adds_noteUse (item : SyntaxTree) : Adds facts (facts.noteUse scope item) [] := by
  unfold noteUse
  split <;> exact adds_nothing rfl rfl

theorem adds_note (kind : NodeKind) (item : SyntaxTree) :
    Adds facts (facts.note scope kind item) (ownAttributes kind item) := by
  cases kind with
  | moduleItem =>
      dsimp only [note, ownAttributes]
      split <;> exact adds_nothing rfl rfl
  | useItem => exact adds_noteUse facts scope item
  | structItem => exact adds_declare facts scope item _
  | enumItem => exact adds_declare facts scope item _
  | implItem => exact adds_of_notes (notes_noteImpl facts scope item)
  | functionItem => exact adds_of_notes (notes_noteFunctionItem facts scope item)
  | traitItem => exact adds_of_notes (notes_noteMisplaced facts item.allAttributes)
  | methodCallExpr => exact adds_of_notes (notes_noteCall facts scope item)
  | _ => exact adds_nothing rfl rfl

end Steps

mutual

theorem adds_visit (scope : Nat) (tree : SyntaxTree) (facts : FileFacts) :
    Adds facts (visit scope tree facts) (lookedAt tree) := by
  match tree with
  | .token _ _ _ _ => exact adds_nothing rfl rfl
  | .group _ body _ _ =>
      rw [visit, lookedAt]
      exact adds_visitAll scope body facts
  | .node kind parts =>
      -- The item is noted before its parts are visited, and only what it adds matters to them.
      have own := adds_note facts scope kind (.node kind parts)
      rw [visit_node, lookedAt]
      by_cases unvisited : isUnvisited kind (.node kind parts)
      · rw [if_pos unvisited, if_pos unvisited, List.append_nil]
        exact own
      · rw [if_neg unvisited, if_neg unvisited]
        exact own.trans (adds_visitAll _ parts _)

theorem adds_visitAll (scope : Nat) (trees : List SyntaxTree) (facts : FileFacts) :
    Adds facts (visitAll scope trees facts) (lookedAtIn trees) := by
  match trees with
  | [] => exact adds_nothing rfl rfl
  | tree :: rest =>
      rw [visitAll, lookedAtIn]
      exact (adds_visit scope tree facts).trans (adds_visitAll scope rest _)

end

theorem account_collect (path space : String) (file : SyntaxTree) :
    (collect path space file).account.Perm (entries (lookedAt file)) :=
  adds_visit 0 file (empty path space)

end FileFacts

/-! ## Complaints -/

theorem diagnostics_concat {α : Type} (findings : α → Findings) (parts : List α) :
    (Findings.concat (parts.map findings)).diagnostics =
      parts.flatMap fun part => (findings part).diagnostics := by
  induction parts with
  | nil => rfl
  | cons part rest ih =>
      rw [List.map_cons, Findings.concat, List.flatMap_cons, ← ih]
      rfl

theorem diagnostics_fileFindings (index : Index) (settings : Settings) (file : FileFacts) :
    (fileFindings index settings file).diagnostics =
      file.misplaced.map (misplacedDiagnostic file.path) ++
        file.items.flatMap fun item => (itemFindings index settings file item).diagnostics := by
  have program : (programFindings index settings file).diagnostics = [] := by
    unfold programFindings
    split <;> rfl
  simp only [fileFindings, Findings.append, program, List.append_nil, diagnostics_concat]

/-! ## Accounting -/

/-- How discovery accounts for the declaration attributes of source texts. -/
structure Accounts (settings : Settings) (sources : List SourceText) : Prop where
  /-- Each declaration attribute that the visit looks at is attached to an item or noted as
  misplaced, once. -/
  once : ∀ source ∈ sources, ∀ tree, parseFile source.text = .ok tree →
    ∃ file ∈ parsedFacts settings sources, factsOf settings source = .ok file ∧
      file.account.Perm (entries (lookedAt tree))
  /-- What the visit looks at are attributes of the text, each at a place of its own. -/
  apart : ∀ tree, (lookedAt tree).Subperm (attributesIn tree)
  /-- Nothing goes unnoticed exactly if no declaration attribute is passed over. -/
  complete : ∀ source ∈ sources, ∀ tree, parseFile source.text = .ok tree →
    ∀ file, factsOf settings source = .ok file →
      ∀ passed, (lookedAt tree ++ passed).Perm (attributesIn tree) →
        (file.account.Perm (entries (attributesIn tree)) ↔ foundAttributes passed = [])
  /-- Each misplaced attribute is reported once. -/
  reported : (discover settings sources).diagnostics = parseProblems settings sources ++
    (parsedFacts settings sources).flatMap fun file =>
      file.misplaced.map (misplacedDiagnostic file.path) ++ file.items.flatMap fun item =>
        (itemFindings (.ofFiles (parsedFacts settings sources)) settings file item).diagnostics

theorem entries_perm {front back : List SyntaxTree} (same : front.Perm back) :
    (entries front).Perm (entries back) :=
  (same.filterMap _).map _

theorem account_of_factsOf (settings : Settings) {source : SourceText} {tree : SyntaxTree}
    (parsed : parseFile source.text = .ok tree) :
    ∃ file, factsOf settings source = .ok file ∧
      file.account.Perm (entries (lookedAt tree)) := by
  simp only [factsOf, parsed]
  exact ⟨_, rfl, FileFacts.account_collect ..⟩

theorem discovery_accounts (settings : Settings) (sources : List SourceText) :
    Accounts settings sources where
  once source member tree parsed := by
    obtain ⟨file, facts, account⟩ := account_of_factsOf settings parsed
    refine ⟨file, ?_, facts, account⟩
    exact List.mem_filterMap.mpr ⟨source, member, by rw [facts]; rfl⟩
  apart tree := (List.sublist_append_right ..).subperm.trans (offered_append_lookedAt tree)
  complete source member tree parsed file facts passed all := by
    obtain ⟨_, found, account⟩ := account_of_factsOf settings parsed
    obtain rfl := Except.ok.inj (facts.symm.trans found)
    have both := entries_perm all
    rw [entries_append] at both
    constructor
    · intro noticed
      have lengths := (account.symm.trans noticed).length_eq
      rw [← both.length_eq, List.length_append, Nat.left_eq_add] at lengths
      exact List.map_eq_nil_iff.mp (List.length_eq_zero_iff.mp lengths)
    · intro nothing
      rw [entries, entries, nothing, List.map_nil, List.append_nil] at both
      exact account.trans both
  reported := by
    simp only [discover, analyze, diagnostics_concat, diagnostics_fileFindings]

def clockTicks : String :=
  "struct Clock;\nimpl Tick for Clock \x7b\n    #[singleton]\n    fn tick(&self) \x7b\x7d\n\x7d"

/-- The attribute is neither attached nor noted. -/
theorem tick_unnoticed :
    (parseFile clockTicks).toOption.map (fun tree =>
      (entries (attributesIn tree), (FileFacts.collect "src/lib.rs" "crate" tree).account)) =
        some ([(3, "singleton")], []) := by
  decide +kernel

end Wiring.Source
