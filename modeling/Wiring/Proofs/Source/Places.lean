import Mathlib.Data.List.Forall2
import Wiring.Proofs.Source.Visit
import Wiring.Proofs.Text.Segments
import Wiring.Source.Discovery

/-!
# Where declarations stand

The items that a file declares are the structs and enums with declaration attributes in its tree,
each in the namespace of the file and of the inline modules around it. See `collect_stands`.
-/

set_option autoImplicit false

namespace Wiring.Source

open Wiring.Grammar
open Wiring.Text

/-! ## The declarations of a tree -/

/-- A struct or an enum with declaration attributes, below the inline modules around it. -/
structure Declaration where
  inline : List String
  item : SyntaxTree

def ownDeclaration (inline : List String) (kind : NodeKind) (item : SyntaxTree) :
    List Declaration :=
  match kind with
  | .structItem | .enumItem =>
      if (foundAttributes item.attributes).isEmpty then [] else [⟨inline, item⟩]
  | _ => []

def inlineInside (inline : List String) (kind : NodeKind) (item : SyntaxTree) : List String :=
  if kind == .moduleItem then inline ++ [item.itemName] else inline

mutual

/-- The declarations in a tree below some inline modules, in their order. -/
def declarations (inline : List String) : SyntaxTree → List Declaration
  | .node kind parts =>
      let item := SyntaxTree.node kind parts
      ownDeclaration inline kind item ++
        if isUnvisited kind item then [] else declarationsIn (inlineInside inline kind item) parts
  | .group _ body _ _ => declarationsIn inline body
  | .token _ _ _ _ => []

def declarationsIn (inline : List String) : List SyntaxTree → List Declaration
  | [] => []
  | tree :: rest => declarations inline tree ++ declarationsIn inline rest

end

/-! ## Scopes keep their namespaces -/

namespace Scope

mutual

theorem space_collect (path : List String) (tree : UseTree) (scope : Scope) :
    (collect path tree scope).space = scope.space := by
  match tree with
  | .path name tree => exact space_collect (path ++ [name]) tree scope
  | .name name =>
      rw [collect]
      split
      · split <;> rfl
      · rfl
  | .rename name binding => rfl
  | .group trees => exact space_collectAll path trees scope
  | .glob => rfl

theorem space_collectAll (path : List String) (trees : List UseTree) (scope : Scope) :
    (collectAll path trees scope).space = scope.space := by
  match trees with
  | [] => rfl
  | tree :: rest =>
      rw [collectAll, space_collectAll path rest, space_collect path tree]

end

theorem space_addUse (scope : Scope) (tree : UseTree) : (scope.addUse tree).space = scope.space :=
  space_collect [] tree scope

end Scope

namespace FileFacts

def spaces (facts : FileFacts) : List String :=
  facts.scopes.map (·.space)

/-- An item that a file declares for a declaration in the tree of a file of a namespace. -/
structure Stands (base : List String) (facts : FileFacts) (item : DeclaredItem)
    (declaration : Declaration) : Prop where
  space : facts.spaces[item.scope]? = some (joinSegments (base ++ declaration.inline))
  name : item.name = declaration.item.itemName
  typeParameters : item.typeParameters = declaration.item.typeParameterCount
  attributes : item.attributes = foundAttributes declaration.item.attributes

/-- What a visit adds: scopes, and an item for each declaration. -/
structure Declares (base : List String) (before after : FileFacts)
    (found : List Declaration) : Prop where
  spaces : before.spaces <+: after.spaces
  items : ∃ items, after.items = before.items ++ items ∧
    List.Forall₂ (Stands base after) items found

section Steps

variable {base inline : List String} {first second third : FileFacts}

theorem space_of_spaces {facts : FileFacts} {index : Nat} {space : String}
    (known : facts.spaces[index]? = some space) : (facts.scope index).space = space := by
  rw [spaces, List.getElem?_map, Option.map_eq_some_iff] at known
  obtain ⟨found, at_index, rfl⟩ := known
  rw [FileFacts.scope, at_index, Option.getD_some]

theorem known_of_grown {front back : List String} (grown : front <+: back) {index : Nat}
    {space : String} (known : front[index]? = some space) : back[index]? = some space := by
  obtain ⟨more, rfl⟩ := grown
  have inside := (List.getElem?_eq_some_iff.mp known).1
  rw [List.getElem?_append_left inside, known]

theorem Stands.grow {item : DeclaredItem} {declaration : Declaration}
    (stands : Stands base first item declaration) (grown : first.spaces <+: second.spaces) :
    Stands base second item declaration :=
  { stands with space := known_of_grown grown stands.space }

theorem Declares.trans {front back : List Declaration} (early : Declares base first second front)
    (late : Declares base second third back) : Declares base first third (front ++ back) := by
  obtain ⟨early_items, early_all, early_stand⟩ := early.items
  obtain ⟨late_items, late_all, late_stand⟩ := late.items
  refine ⟨early.spaces.trans late.spaces, early_items ++ late_items, ?_, ?_⟩
  · rw [late_all, early_all, List.append_assoc]
  · exact List.rel_append (early_stand.imp fun _ _ stands => stands.grow late.spaces) late_stand

theorem declares_nothing (grown : first.spaces <+: second.spaces)
    (items : second.items = first.items) : Declares base first second [] :=
  ⟨grown, [], by rw [items, List.append_nil], .nil⟩

theorem declares_of_notes {trees : List SyntaxTree} (notes : Notes first second trees) :
    Declares base first second [] :=
  declares_nothing (by simp only [spaces, notes.scopes, List.prefix_rfl]) notes.items

variable (facts : FileFacts) (scope : Nat)

theorem declares_noteUse (item : SyntaxTree) :
    Declares base facts (facts.noteUse scope item) [] := by
  unfold noteUse
  split
  · rename_i tree _
    have same : (facts.scopes.modify scope (·.addUse tree)).map (·.space) = facts.spaces := by
      apply List.ext_getElem?
      intro index
      rw [spaces, List.getElem?_map, List.getElem?_map, List.getElem?_modify]
      cases facts.scopes[index]? with
      | none => rfl
      | some found => by_cases here : scope = index <;> simp [here, Scope.space_addUse]
    exact declares_nothing (same ▸ List.prefix_rfl) rfl
  · exact declares_nothing List.prefix_rfl rfl

theorem declares_declare (item : SyntaxTree) (fields : List FieldFacts)
    (inside : facts.spaces[scope]? = some (joinSegments (base ++ inline))) :
    Declares base facts (facts.declare scope item fields)
      (if (foundAttributes item.attributes).isEmpty then [] else [⟨inline, item⟩]) := by
  unfold declare
  cases found : foundAttributes item.attributes with
  | nil => exact declares_nothing List.prefix_rfl rfl
  | cons head rest =>
      refine ⟨List.prefix_rfl, _, rfl, .cons ?_ .nil⟩
      exact ⟨inside, rfl, rfl, found.symm⟩

theorem declares_openScope (space : String) : Declares base facts (facts.openScope space) [] :=
  declares_nothing (by simp [spaces, openScope]) rfl

theorem declares_note (kind : NodeKind) (item : SyntaxTree)
    (inside : facts.spaces[scope]? = some (joinSegments (base ++ inline))) :
    Declares base facts (facts.note scope kind item) (ownDeclaration inline kind item) := by
  cases kind with
  | moduleItem =>
      dsimp only [note]
      split
      · exact declares_nothing List.prefix_rfl rfl
      · exact declares_openScope facts _
  | useItem => exact declares_noteUse facts scope item
  | structItem => exact declares_declare facts scope item _ inside
  | enumItem => exact declares_declare facts scope item _ inside
  | implItem => exact declares_of_notes (notes_noteImpl facts scope item)
  | functionItem => exact declares_of_notes (notes_noteFunctionItem facts scope item)
  | traitItem => exact declares_of_notes (notes_noteMisplaced facts item.allAttributes)
  | methodCallExpr => exact declares_of_notes (notes_noteCall facts scope item)
  | _ => exact declares_nothing List.prefix_rfl rfl

/-- The scope that a node opens has the namespace of the inline modules around its parts. -/
theorem spaces_scopeInside (kind : NodeKind) (item : SyntaxTree) (base_nonempty : base ≠ [])
    (visited : isUnvisited kind item = false)
    (inside : facts.spaces[scope]? = some (joinSegments (base ++ inline))) :
    (facts.note scope kind item).spaces[facts.scopeInside scope kind]? =
      some (joinSegments (base ++ inlineInside inline kind item)) := by
  by_cases isModule : kind = .moduleItem
  · subst isModule
    have open_ : item.groupBody?.isNone = false := by simpa [isUnvisited] using visited
    have joined : joinSegments (base ++ inline ++ [item.itemName]) =
        joinSegments (base ++ inline) ++ "::" ++ joinSegments [item.itemName] :=
      joinSegments_append (by simp [base_nonempty]) (List.cons_ne_nil _ _)
    simp only [note, open_, Bool.false_eq_true, if_false, scopeInside, beq_self_eq_true, if_true,
      inlineInside, spaces, openScope, List.map_append, moduleSpace, space_of_spaces inside]
    rw [← List.append_assoc, joined]
    simp [Scope.of, joinSegments]
  · have grown := (declares_note facts scope kind item inside).spaces
    have same : (kind == .moduleItem) = false := by simpa using isModule
    rw [scopeInside, inlineInside, same]
    exact known_of_grown grown inside

end Steps

/-! ## The whole visit -/

section Visit

variable {base : List String}

mutual

theorem declares_visit (base_nonempty : base ≠ []) (inline : List String) (scope : Nat)
    (tree : SyntaxTree) (facts : FileFacts)
    (inside : facts.spaces[scope]? = some (joinSegments (base ++ inline))) :
    Declares base facts (visit scope tree facts) (declarations inline tree) := by
  match tree with
  | .token _ _ _ _ => exact declares_nothing List.prefix_rfl rfl
  | .group _ body _ _ =>
      rw [visit, declarations]
      exact declares_visitAll base_nonempty inline scope body facts inside
  | .node kind parts =>
      have own := declares_note facts scope kind (.node kind parts) inside
      rw [visit_node, declarations]
      cases unvisited : isUnvisited kind (.node kind parts) with
      | true =>
          rw [if_pos rfl, if_pos rfl, List.append_nil]
          exact own
      | false =>
          rw [if_neg Bool.false_ne_true, if_neg Bool.false_ne_true]
          exact own.trans (declares_visitAll base_nonempty _ _ parts _
            (spaces_scopeInside facts scope kind _ base_nonempty unvisited inside))

theorem declares_visitAll (base_nonempty : base ≠ []) (inline : List String) (scope : Nat)
    (trees : List SyntaxTree) (facts : FileFacts)
    (inside : facts.spaces[scope]? = some (joinSegments (base ++ inline))) :
    Declares base facts (visitAll scope trees facts) (declarationsIn inline trees) := by
  match trees with
  | [] => exact declares_nothing List.prefix_rfl rfl
  | tree :: rest =>
      rw [visitAll, declarationsIn]
      have early := declares_visit base_nonempty inline scope tree facts inside
      -- A visit only adds scopes, so the one that the rest stands in is still where it was.
      exact early.trans (declares_visitAll base_nonempty inline scope rest _
        (known_of_grown early.spaces inside))

end

end Visit

/-- The items of a file are its declarations, each in the namespace where it stands. -/
theorem collect_stands {base : List String} (base_nonempty : base ≠ []) (path : String)
    (file : SyntaxTree) :
    let facts := collect path (joinSegments base) file
    List.Forall₂ (Stands base facts) facts.items (declarations [] file) := by
  intro facts
  have declares := declares_visit base_nonempty [] 0 file (empty path (joinSegments base))
    (by rw [List.append_nil]; rfl)
  obtain ⟨items, all, stand⟩ := declares.items
  have same : facts.items = items := all
  rw [same]
  exact stand

end FileFacts

end Wiring.Source
