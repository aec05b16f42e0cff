import Wiring.Proofs.Grammar.Lines
import Wiring.Proofs.Grammar.Reading
import Wiring.Proofs.Outcome
import Wiring.Source.Analysis

/-!
# Types that are written the same

What a factory asks for a parameter, and how its type is written from the root, depends only on the
code of the type and on what the paths in it stand for. See `text_congr` and
`factoryParameter_congr`.
-/

set_option autoImplicit false

namespace Wiring.Source

open Wiring.Grammar
open Wiring.Grammar.SyntaxTree

/-! ## The paths in a tree -/

mutual

/-- The paths in a tree: its parts that are paths, and the paths that its parts are as types. -/
def namedPaths : SyntaxTree → List SyntaxTree
  | .token _ _ _ _ => []
  | .group _ body _ _ => namedPathsIn body
  | .node kind parts =>
      (if kind == .path then [.node kind parts] else []) ++
        (SyntaxTree.node kind parts).typePath?.toList ++ namedPathsIn parts

def namedPathsIn : List SyntaxTree → List SyntaxTree
  | [] => []
  | tree :: rest => namedPaths tree ++ namedPathsIn rest

end

section NamedPaths

variable {tree part path : SyntaxTree} {parts : List SyntaxTree}

theorem subset_namedPathsIn (member : part ∈ parts) : namedPaths part ⊆ namedPathsIn parts := by
  induction parts with
  | nil => cases member
  | cons first rest ih =>
      rw [namedPathsIn]
      rcases List.mem_cons.mp member with rfl | later
      · exact List.subset_append_left _ _
      · exact List.subset_append_of_subset_right _ (ih later)

theorem namedPaths_of_child (member : part ∈ tree.children) :
    namedPaths part ⊆ namedPaths tree := by
  cases tree with
  | token => cases member
  | group => cases member
  | node kind parts =>
      rw [namedPaths]
      exact List.subset_append_of_subset_right _ (subset_namedPathsIn member)

theorem mem_namedPaths_of_hasKind (kind : tree.hasKind .path = true) : tree ∈ namedPaths tree := by
  cases tree with
  | token => cases kind
  | group => cases kind
  | node found parts =>
      rw [namedPaths, if_pos (show (found == .path) = true from kind)]
      exact List.mem_append_left _ (List.mem_append_left _ List.mem_cons_self)

theorem mem_namedPaths_of_typePath? (named : tree.typePath? = some path) :
    path ∈ namedPaths tree := by
  cases tree with
  | token => cases named
  | group => cases named
  | node kind parts =>
      rw [namedPaths, named]
      exact List.mem_append_left _ (List.mem_append_right _ List.mem_cons_self)

theorem namedPaths_of_qualifiedParts (member : part ∈ (qualifiedParts parts).children) :
    namedPaths part ⊆ namedPathsIn parts := by
  unfold qualifiedParts at member
  rcases List.mem_append.mp member with cast | after
  · cases found : parts.findSome? _ with
    | none =>
        rw [found] at cast
        cases cast
    | some inner =>
        rw [found, Option.getD_some] at cast
        obtain ⟨holder, within, view⟩ := List.exists_of_findSome?_eq_some found
        split at view
        · rename_i listed
          obtain rfl := Option.some.inj view
          have child : part ∈ (SyntaxTree.node .path listed).children := cast
          exact List.Subset.trans (namedPaths_of_child child) (subset_namedPathsIn within)
        · cases view
  · have within := List.mem_of_mem_drop after
    exact subset_namedPathsIn ((List.dropWhile_sublist _).subset within)

theorem namedPaths_of_pathPart
    (kind : (tree.hasKind .pathType || tree.hasKind .qualifiedType) = true)
    (named : tree.typePath? = some path) :
    ∀ part ∈ path.children, namedPaths part ⊆ namedPaths tree := by
  intro part member
  unfold typePath? at named
  split at named
  · obtain rfl := Option.some.inj named
    exact List.Subset.trans (namedPaths_of_child member) (namedPaths_of_child List.mem_cons_self)
  · obtain rfl := Option.some.inj named
    refine List.Subset.trans (namedPaths_of_qualifiedParts member) ?_
    rw [namedPaths]
    exact List.subset_append_right _ _
  · cases kind
  · cases kind
  · cases named

theorem namedPaths_of_sharedInner? {inner : SyntaxTree} (shared : sharedInner? tree = some inner) :
    namedPaths inner ⊆ namedPaths tree := by
  unfold sharedInner? at shared
  split at shared
  · rename_i named
    simp only [Option.bind_eq_some_iff] at shared
    obtain ⟨path, typePath, shared⟩ := shared
    have inType : ∀ part ∈ path.children, namedPaths part ⊆ namedPaths tree :=
      namedPaths_of_pathPart named typePath
    split at shared
    · simp only [Option.bind_eq_some_iff] at shared
      obtain ⟨arguments, last, shared⟩ := shared
      split at shared
      · simp only [Option.bind_eq_some_iff] at shared
        obtain ⟨argument, first, type⟩ := shared
        obtain ⟨segment, ends, second⟩ := Option.bind_eq_some_iff.mp last
        have inArgument : namedPaths inner ⊆ namedPaths argument := by
          unfold argumentType? at type
          split at type
          · obtain rfl := Option.some.inj type
            exact namedPaths_of_child List.mem_cons_self
          · cases type
        have inArguments := namedPaths_of_child
          (List.mem_filter.mp (List.mem_of_head? first)).1
        have inSegment := namedPaths_of_child (List.mem_of_getElem? second)
        have inPath : segment ∈ path.children :=
          (List.mem_filter.mp (List.mem_of_getLast? ends)).1
        exact List.Subset.trans inArgument <| List.Subset.trans inArguments <|
          List.Subset.trans inSegment (inType segment inPath)
      · cases shared
    · cases shared
  · cases shared

end NamedPaths

/-! ## Without lines -/

section Unlined

variable (spaces : List String) (scope : Scope)

theorem qualifyTypes_eq (trees : List SyntaxTree) :
    qualifyTypes spaces scope trees = trees.map (qualifyType spaces scope) := by
  induction trees with
  | nil => rw [qualifyTypes, List.map_nil]
  | cons tree rest ih => rw [qualifyTypes, ih, List.map_cons]

theorem qualifyPath_unlined (path : SyntaxTree) :
    (qualifyPath spaces scope path.unlined).unlined = (qualifyPath spaces scope path).unlined := by
  unfold qualifyPath
  simp only [pathNames_unlined, isAbsolutePath_unlined]
  split
  · exact unlined_unlined path
  · split
    · exact unlined_unlined path
    · rename_i found _
      rw [withLastArguments_unlined, withLastArguments_unlined]
      congr 1
      rw [segments, childrenOf_unlined, List.getLast?_map, segments]
      cases (path.childrenOf .segment).getLast? with
      | none => rfl
      | some segment =>
          simp [children_unlined, unlined_unlined, Function.comp_def]

theorem unlined_qualifyPath_congr {path path' : SyntaxTree} (same : path.unlined = path'.unlined) :
    (qualifyPath spaces scope path).unlined = (qualifyPath spaces scope path').unlined := by
  rw [← qualifyPath_unlined, same, qualifyPath_unlined]

theorem unlined_named_congr {parts parts' : List SyntaxTree}
    (same : unlinedAll parts = unlinedAll parts') :
    (match parts with
      | [path] => SyntaxTree.node .pathType [qualifyPath spaces scope path]
      | parts => .node .pathType parts).unlined =
    (match parts' with
      | [path] => SyntaxTree.node .pathType [qualifyPath spaces scope path]
      | parts => .node .pathType parts).unlined := by
  match parts, parts' with
  | [], [] => rfl
  | [path], [path'] =>
      simp only [unlinedAll, List.cons.injEq, and_true] at same
      simp only [unlined, unlinedAll, unlined_qualifyPath_congr spaces scope same]
  | _ :: _ :: _, _ :: _ :: _ => exact congrArg (SyntaxTree.node _) same
  | [], _ :: _ => cases same
  | _ :: _, [] => cases same
  | [_], _ :: _ :: _ => simp [unlinedAll] at same
  | _ :: _ :: _, [_] => simp [unlinedAll] at same

theorem unlinedAll_bound_congr {parts parts' : List SyntaxTree}
    (same : unlinedAll parts = unlinedAll parts') :
    unlinedAll (parts.map fun part =>
        if part.hasKind .path then qualifyPath spaces scope part else part) =
      unlinedAll (parts'.map fun part =>
        if part.hasKind .path then qualifyPath spaces scope part else part) := by
  induction parts generalizing parts' with
  | nil =>
      cases parts' with
      | nil => rfl
      | cons => cases same
  | cons part rest ih =>
      cases parts' with
      | nil => cases same
      | cons part' rest' =>
          simp only [unlinedAll, List.cons.injEq] at same
          have kind : part.hasKind .path = part'.hasKind .path := by
            rw [← hasKind_unlined, same.1, hasKind_unlined]
          simp only [List.map_cons, unlinedAll, ih same.2, kind]
          congr 1
          split
          · exact unlined_qualifyPath_congr spaces scope same.1
          · exact same.1

mutual

theorem qualifyType_unlined (type : SyntaxTree) :
    (qualifyType spaces scope type.unlined).unlined = (qualifyType spaces scope type).unlined := by
  match type with
  | .token _ _ _ _ => rfl
  | .group _ body _ _ =>
      have parts := qualifyTypes_unlined body
      simp only [unlined, qualifyType, parts]
  | .node kind parts =>
      have same := qualifyTypes_unlined parts
      cases kind with
      | pathType =>
          simp only [unlined, qualifyType]
          exact unlined_named_congr spaces scope same
      | traitBound =>
          simp only [unlined, qualifyType]
          exact congrArg (SyntaxTree.node _) (unlinedAll_bound_congr spaces scope same)
      | _ => exact congrArg (SyntaxTree.node _) same

theorem qualifyTypes_unlined (types : List SyntaxTree) :
    unlinedAll (qualifyTypes spaces scope (unlinedAll types)) =
      unlinedAll (qualifyTypes spaces scope types) := by
  match types with
  | [] => rfl
  | type :: rest =>
      simp only [unlinedAll, qualifyTypes, qualifyType_unlined type, qualifyTypes_unlined rest]

end

theorem typeText_unlined (type : SyntaxTree) :
    typeText spaces scope type.unlined = typeText spaces scope type := by
  rw [typeText, ← text_unlined, qualifyType_unlined, text_unlined, typeText]

theorem sharedInner?_unlined (type : SyntaxTree) :
    sharedInner? type.unlined = (sharedInner? type).map unlined := by
  simp only [sharedInner?, hasKind_unlined, typePath?_unlined, Option.bind_map, Function.comp_def,
    pathNames_unlined, lastArguments?_unlined, genericArgumentList_unlined, List.head?_map,
    argumentType?_unlined, Option.map_bind, apply_ite (Option.map unlined), Option.map_none]

theorem factoryParameter_unlined (index : Index) (name : String) (type : SyntaxTree) :
    factoryParameter index scope name type.unlined = factoryParameter index scope name type := by
  have text (type : SyntaxTree) : index.text scope type.unlined = index.text scope type :=
    typeText_unlined index.spaces scope type
  have resolve (path : SyntaxTree) : index.resolve scope path.unlined = index.resolve scope path :=
    by rw [Index.resolve, resolveType, pathNames_unlined]; rfl
  simp only [factoryParameter, text_unlined, hasKind_unlined, sharedInner?_unlined, text]
  split
  · rfl
  · split
    · rfl
    · cases sharedInner? type with
      | none =>
          simp only [Option.map_none, typePath?_unlined]
          cases type.typePath? with
          | none => rfl
          | some path => simp only [Option.map_some, resolve]
      | some inner =>
          simp only [Option.map_some, typePath?_unlined, text]
          cases inner.typePath? with
          | none => rfl
          | some path => simp only [Option.map_some, resolve]

theorem returnsInstance_unlined (output : Option SyntaxTree) :
    returnsInstance (output.map unlined) = returnsInstance output := by
  have path : (output.map unlined).bind typePath? = (output.bind typePath?).map unlined := by
    simp only [Option.bind_map, Function.comp_def, typePath?_unlined, Option.map_bind]
  have argument : (fun part : SyntaxTree =>
      (part.argumentType?.bind typePath?).bind (·.pathNames.getLast?)) ∘ unlined =
      fun part => (part.argumentType?.bind typePath?).bind (·.pathNames.getLast?) := by
    funext part
    simp only [Function.comp_def, argumentType?_unlined, Option.bind_map, typePath?_unlined,
      Option.bind_assoc, pathNames_unlined]
  simp only [returnsInstance, path]
  cases output.bind typePath? with
  | none => rfl
  | some path =>
      simp only [Option.map_some, pathNames_unlined, lastArguments?_unlined]
      cases path.lastArguments? with
      | none => rfl
      | some arguments =>
          simp only [Option.map_some, hasKind_unlined, genericArgumentList_unlined,
            List.filterMap_map, argument]

end Unlined

/-! ## In two scopes -/

/-- Whether all paths in a tree stand for the same in two ways to resolve them. -/
def SamePaths (resolve resolve' : List String → String) (tree : SyntaxTree) : Prop :=
  ∀ path ∈ namedPaths tree, resolve path.pathNames = resolve' path.pathNames

section Scopes

variable {spaces spaces' : List String} {scope scope' : Scope}

theorem hasKind_of_pathForm {text : String} {found : SyntaxTree}
    (read : parseText pathForm text = .ok found) : found.hasKind .path = true := by
  unfold parseText at read
  split at read
  · cases read
  · have read := Reader.run_eq_ok_iff.mp read
    simp only [pathForm, Reader.path, Reader.reads_bind, Option.bind_eq_some_iff] at read
    obtain ⟨_, -, _, -, _, -, last⟩ := read
    obtain ⟨rfl, -⟩ := Prod.mk.inj (Option.some.inj last)
    rfl

theorem hasKind_withLastArguments (arguments : List SyntaxTree) {path : SyntaxTree}
    (kind : path.hasKind .path = true) :
    (path.withLastArguments arguments).hasKind .path = true := by
  unfold withLastArguments
  split
  · split
    · rfl
    · exact kind
  · exact kind

theorem qualifyPath_cases (path : SyntaxTree) :
    qualifyPath spaces scope path = path ∨
      (qualifyPath spaces scope path).hasKind .path = true := by
  simp only [qualifyPath]
  split
  · exact .inl rfl
  · split
    · exact .inl rfl
    · rename_i read
      exact .inr (hasKind_withLastArguments _ (hasKind_of_pathForm read))

theorem qualifyPath_congr {path : SyntaxTree}
    (same : resolvePath spaces scope path.pathNames = resolvePath spaces' scope' path.pathNames) :
    qualifyPath spaces scope path = qualifyPath spaces' scope' path := by
  simp only [qualifyPath, same]

theorem hasKind_qualifyType (kind : NodeKind) (type : SyntaxTree) :
    (qualifyType spaces scope type).hasKind kind = type.hasKind kind := by
  cases type with
  | token => rfl
  | group => rfl
  | node found parts =>
      cases found with
      | pathType =>
          simp only [qualifyType]
          split <;> rfl
      | _ => rfl

theorem text?_qualifyType (type : SyntaxTree) :
    (qualifyType spaces scope type).text? = type.text? := by
  cases type with
  | token => rfl
  | group => rfl
  | node found parts =>
      cases found with
      | pathType =>
          simp only [qualifyType]
          split <;> rfl
      | _ => rfl

theorem segmentName_qualifyType {segment : SyntaxTree} (kind : segment.hasKind .segment = true) :
    (qualifyType spaces scope segment).segmentName = segment.segmentName := by
  cases segment with
  | token => cases kind
  | group => cases kind
  | node found parts =>
      obtain rfl : found = .segment := beq_iff_eq.mp kind
      simp only [qualifyType, segmentName, children, qualifyTypes_eq, List.head?_map]
      cases parts.head? with
      | none => rfl
      | some first => exact congrArg (·.getD "") (text?_qualifyType first)

theorem pathNames_map_qualifyType (kind kind' : NodeKind) (parts : List SyntaxTree) :
    (SyntaxTree.node kind (parts.map (qualifyType spaces scope))).pathNames =
      (SyntaxTree.node kind' parts).pathNames := by
  have kinds : hasKind .segment ∘ qualifyType spaces scope = hasKind .segment :=
    funext (hasKind_qualifyType .segment)
  simp only [pathNames, segments, childrenOf, children, List.filter_map, kinds, List.map_map]
  exact List.map_congr_left fun segment member =>
    segmentName_qualifyType (List.mem_filter.mp member).2

theorem not_segment_of_path {tree : SyntaxTree} (kind : tree.hasKind .path = true) :
    tree.hasKind .segment = false := by
  cases tree with
  | token => rfl
  | group => rfl
  | node found parts =>
      obtain rfl : found = .path := beq_iff_eq.mp kind
      rfl

theorem pathNames_bound (parts : List SyntaxTree) :
    (SyntaxTree.node .traitBound (parts.map fun part =>
        if part.hasKind .path then qualifyPath spaces scope part else part)).pathNames =
      (SyntaxTree.node .traitBound parts).pathNames := by
  simp only [pathNames, segments, childrenOf, children]
  congr 1
  induction parts with
  | nil => rfl
  | cons part rest ih =>
      by_cases kind : part.hasKind .path = true
      · have qualified : (qualifyPath spaces scope part).hasKind .segment = false := by
          rcases qualifyPath_cases part with same | kind'
          · rw [same, not_segment_of_path kind]
          · exact not_segment_of_path kind'
        rw [List.map_cons, if_pos kind, List.filter_cons_of_neg (by simp [qualified]),
          List.filter_cons_of_neg (by simp [not_segment_of_path kind]), ih]
      · rw [List.map_cons, if_neg kind, List.filter_cons, List.filter_cons, ih]

theorem pathNames_qualifyType (type : SyntaxTree) :
    (qualifyType spaces scope type).pathNames = type.pathNames ∨
      (qualifyType spaces scope type).pathNames = [] := by
  cases type with
  | token => exact .inl rfl
  | group => exact .inl rfl
  | node found parts =>
      cases found with
      | pathType =>
          rcases parts with _ | ⟨path, _ | ⟨second, rest⟩⟩
          · exact .inl rfl
          · simp only [qualifyType, qualifyTypes]
            rcases qualifyPath_cases (qualifyType spaces scope path) with same | kind
            · rw [same]
              exact .inl (pathNames_map_qualifyType .pathType .pathType [path])
            · right
              rw [pathNames, segments, childrenOf, children,
                List.filter_cons_of_neg (by simp [not_segment_of_path kind])]
              rfl
          · simp only [qualifyType, qualifyTypes, qualifyTypes_eq]
            exact .inl (pathNames_map_qualifyType .pathType .pathType (path :: second :: rest))
      | traitBound =>
          left
          simp only [qualifyType, qualifyTypes_eq]
          rw [pathNames_bound]
          exact pathNames_map_qualifyType .traitBound .traitBound parts
      | _ =>
          show (SyntaxTree.node _ (qualifyTypes spaces scope parts)).pathNames = _ ∨ _
          rw [qualifyTypes_eq]
          exact .inl (pathNames_map_qualifyType _ _ parts)

theorem resolvePath_qualifyType {type : SyntaxTree}
    (same : resolvePath spaces scope type.pathNames = resolvePath spaces' scope' type.pathNames) :
    resolvePath spaces scope (qualifyType spaces' scope' type).pathNames =
      resolvePath spaces' scope' (qualifyType spaces' scope' type).pathNames := by
  rcases pathNames_qualifyType type with kept | lost
  · rw [kept, same]
  · rw [lost]
    rfl

mutual

theorem qualifyType_congr (type : SyntaxTree)
    (same : SamePaths (resolvePath spaces scope) (resolvePath spaces' scope') type) :
    qualifyType spaces scope type = qualifyType spaces' scope' type := by
  match type with
  | .token _ _ _ _ => rfl
  | .group _ body _ _ => simp only [qualifyType, qualifyTypes_congr body same]
  | .node kind parts =>
      have inner := qualifyTypes_congr parts fun path member => same path (by
        rw [namedPaths]
        exact List.mem_append_right _ member)
      cases kind with
      | pathType =>
          rcases parts with _ | ⟨path, _ | ⟨second, rest⟩⟩
          · rfl
          · have resolves := same path (mem_namedPaths_of_typePath? rfl)
            simp only [qualifyTypes, List.cons.injEq, and_true] at inner
            simp only [qualifyType, qualifyTypes, inner]
            rw [qualifyPath_congr (resolvePath_qualifyType resolves)]
          · simp only [qualifyTypes] at inner
            simp only [qualifyType, qualifyTypes, inner]
      | traitBound =>
          simp only [qualifyType, inner, qualifyTypes_eq, List.map_map]
          refine congrArg _ (List.map_congr_left fun part member => ?_)
          simp only [Function.comp_apply, hasKind_qualifyType]
          split
          · rename_i kind
            have named := subset_namedPathsIn member (mem_namedPaths_of_hasKind kind)
            refine qualifyPath_congr (resolvePath_qualifyType (same part ?_))
            rw [namedPaths]
            exact List.mem_append_right _ named
          · rfl
      | _ => exact congrArg (SyntaxTree.node _) inner

theorem qualifyTypes_congr (types : List SyntaxTree)
    (same : ∀ path ∈ namedPathsIn types,
      resolvePath spaces scope path.pathNames = resolvePath spaces' scope' path.pathNames) :
    qualifyTypes spaces scope types = qualifyTypes spaces' scope' types := by
  match types with
  | [] => rfl
  | type :: rest =>
      simp only [namedPathsIn, List.forall_mem_append] at same
      rw [qualifyTypes, qualifyTypes, qualifyType_congr type same.1, qualifyTypes_congr rest same.2]

end

end Scopes

/-! ## Types written the same -/

/-- Whether two types are the same code, and all paths in them stand for the same in two ways to
resolve them. -/
structure SameType (resolve resolve' : List String → String) (type type' : SyntaxTree) : Prop where
  code : sameCode type type' = true
  paths : SamePaths resolve resolve' type

section Written

variable {index index' : Index} {scope scope' : Scope} {type type' : SyntaxTree}

theorem text_congr_of_paths
    (same : SamePaths (resolvePath index.spaces scope) (resolvePath index'.spaces scope') type) :
    index.text scope type = index'.text scope' type := by
  rw [Index.text, typeText, qualifyType_congr type same, Index.text, typeText]

theorem text_congr (same : SameType (resolvePath index.spaces scope)
    (resolvePath index'.spaces scope') type type') :
    index.text scope type = index'.text scope' type' := by
  have code := (sameCode_iff type type').mp same.code
  calc index.text scope type
      = index'.text scope' type := text_congr_of_paths same.paths
    _ = typeText index'.spaces scope' type'.unlined := by
        rw [← code, typeText_unlined, Index.text]
    _ = index'.text scope' type' := typeText_unlined _ _ type'

theorem factoryParameter_congr_of_paths (name : String)
    (same : SamePaths (resolvePath index.spaces scope) (resolvePath index'.spaces scope') type) :
    factoryParameter index scope name type = factoryParameter index' scope' name type := by
  have resolve {inner path : SyntaxTree} (within : namedPaths inner ⊆ namedPaths type)
      (named : inner.typePath? = some path) :
      index.resolve scope path = index'.resolve scope' path := by
    rw [Index.resolve, resolveType, same path (within (mem_namedPaths_of_typePath? named))]
    rfl
  unfold factoryParameter
  dsimp only
  split
  · rfl
  · split
    · rfl
    · cases shared : sharedInner? type with
      | some inner =>
          have within := namedPaths_of_sharedInner? shared
          dsimp only
          cases named : inner.typePath? with
          | none => rfl
          | some path =>
              dsimp only
              rw [resolve within named, text_congr_of_paths fun path member =>
                same path (within member)]
      | none =>
          dsimp only
          cases named : type.typePath? with
          | none => rfl
          | some path =>
              dsimp only
              rw [resolve (List.Subset.refl _) named, text_congr_of_paths same]

theorem factoryParameter_congr (name : String)
    (same : SameType (resolvePath index.spaces scope) (resolvePath index'.spaces scope')
      type type') :
    factoryParameter index scope name type = factoryParameter index' scope' name type' := by
  have code := (sameCode_iff type type').mp same.code
  calc factoryParameter index scope name type
      = factoryParameter index' scope' name type :=
        factoryParameter_congr_of_paths name same.paths
    _ = factoryParameter index' scope' name type'.unlined := by
        rw [← code, factoryParameter_unlined]
    _ = factoryParameter index' scope' name type' := factoryParameter_unlined ..

theorem factoryParameters_congr {inputs inputs' : List (String × SyntaxTree)}
    (same : List.Forall₂ (fun input input' => input.1 = input'.1 ∧
      SameType (resolvePath index.spaces scope) (resolvePath index'.spaces scope')
        input.2 input'.2) inputs inputs') :
    factoryParameters index scope inputs = factoryParameters index' scope' inputs' := by
  induction same with
  | nil => rfl
  | @cons input input' _ _ first _ ih =>
      obtain ⟨name, type⟩ := input
      obtain ⟨name', type'⟩ := input'
      obtain ⟨rfl, types⟩ := first
      simp only [factoryParameters, factoryParameter_congr name types, ih]

theorem returnsInstance_congr {output output' : Option SyntaxTree}
    (same : Option.Rel (fun type type' => sameCode type type' = true) output output') :
    returnsInstance output = returnsInstance output' := by
  have code : output.map unlined = output'.map unlined := by
    cases same with
    | none => rfl
    | some code => exact congrArg some ((sameCode_iff _ _).mp code)
  rw [← returnsInstance_unlined, code, returnsInstance_unlined]

end Written

end Wiring.Source
