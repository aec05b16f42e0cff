import Wiring.Source.Facts

/-!
# One step of the visit of a file

A visit notes something of a node and then goes on to its parts, in the scope that the node opens.
See `visit_node`.
-/

set_option autoImplicit false

namespace Wiring.Source

open Wiring.Grammar

/-- Whether nothing inside a node is visited: it is an import or a module in another file. -/
def isUnvisited (kind : NodeKind) (item : SyntaxTree) : Bool :=
  kind == .useItem || (kind == .moduleItem && item.groupBody?.isNone)

/-- The functions that an implementation gives to the type that it names. -/
def inherentMethods (item : SyntaxTree) : List SyntaxTree :=
  let self? := ((item.child? .selfType).bind fun target => target.children.head?).bind
    SyntaxTree.typePath?
  if self?.isSome && (item.child? .implTrait).isNone then
    (item.groupBody?.getD []).filter (SyntaxTree.hasKind .method)
  else []

namespace FileFacts

/-! ## Nodes and their parts -/

def note (facts : FileFacts) (scope : Nat) (kind : NodeKind) (item : SyntaxTree) : FileFacts :=
  match kind with
  | .moduleItem =>
      let space := facts.moduleSpace scope item
      if item.groupBody?.isNone then
        { facts with declaredModules := facts.declaredModules ++ [space] }
      else facts.openScope space
  | .useItem => facts.noteUse scope item
  | .structItem => facts.declare scope item (fieldsOf item)
  | .enumItem => facts.declare scope item []
  | .implItem => facts.noteImpl scope item
  | .functionItem => facts.noteFunctionItem scope item
  | .traitItem => facts.noteMisplaced item.allAttributes
  | .methodCallExpr => facts.noteCall scope item
  | _ => facts

def scopeInside (facts : FileFacts) (scope : Nat) (kind : NodeKind) : Nat :=
  if kind == .moduleItem then facts.scopes.length else scope

theorem visit_node (facts : FileFacts) (scope : Nat) (kind : NodeKind)
    (parts : List SyntaxTree) :
    visit scope (.node kind parts) facts =
      if isUnvisited kind (.node kind parts) then facts.note scope kind (.node kind parts)
      else visitAll (facts.scopeInside scope kind) parts
        (facts.note scope kind (.node kind parts)) := by
  cases kind with
  | moduleItem =>
      rw [visit]
      by_cases outside : (SyntaxTree.node .moduleItem parts).groupBody?.isNone
      · simp [isUnvisited, note, outside]
      · simp [isUnvisited, note, scopeInside, outside]
  | _ => rfl

/-! ## Notes that leave scopes and items alone -/

/-- Whether a step leaves the scopes and the items of a file alone, and takes the declaration
attributes in some trees for misplaced. -/
structure Notes (before after : FileFacts) (trees : List SyntaxTree) : Prop where
  scopes : after.scopes = before.scopes
  items : after.items = before.items
  misplaced : after.misplaced = before.misplaced ++
    (foundAttributes trees).map fun found => ⟨found.line, found.kind.name⟩

theorem Notes.trans {first second third : FileFacts} {front back : List SyntaxTree}
    (early : Notes first second front) (late : Notes second third back) :
    Notes first third (front ++ back) where
  scopes := late.scopes.trans early.scopes
  items := late.items.trans early.items
  misplaced := by
    rw [late.misplaced, early.misplaced, foundAttributes, foundAttributes, foundAttributes,
      List.filterMap_append, List.map_append, List.append_assoc]

theorem notes_nothing {before after : FileFacts} (scopes : after.scopes = before.scopes)
    (items : after.items = before.items) (misplaced : after.misplaced = before.misplaced) :
    Notes before after [] :=
  ⟨scopes, items, by rw [misplaced]; exact (List.append_nil _).symm⟩

section Steps

variable (facts : FileFacts) (scope : Nat)

theorem notes_noteMisplaced (attributes : List SyntaxTree) :
    Notes facts (facts.noteMisplaced attributes) attributes :=
  ⟨rfl, rfl, rfl⟩

theorem notes_noteFunction (owner : Option SyntaxTree) (item : SyntaxTree) :
    Notes facts (facts.noteFunction scope owner item) [] := by
  unfold noteFunction
  split <;> exact notes_nothing rfl rfl rfl

theorem notes_method (owner : Option SyntaxTree) (method : SyntaxTree) :
    Notes facts ((facts.noteMisplaced method.allAttributes).noteFunction scope owner method)
      method.allAttributes := by
  have noted := (notes_noteMisplaced facts method.allAttributes).trans
    (notes_noteFunction _ scope owner method)
  rwa [List.append_nil] at noted

theorem notes_methods (owner : Option SyntaxTree) (methods : List SyntaxTree) :
    Notes facts (methods.foldl (fun facts method =>
      (facts.noteMisplaced method.allAttributes).noteFunction scope owner method) facts)
      (methods.flatMap SyntaxTree.allAttributes) := by
  induction methods generalizing facts with
  | nil => exact notes_nothing rfl rfl rfl
  | cons method rest ih =>
      rw [List.foldl_cons, List.flatMap_cons]
      exact (notes_method facts scope owner method).trans (ih _)

theorem notes_noteImpl (item : SyntaxTree) :
    Notes facts (facts.noteImpl scope item)
      (item.allAttributes ++ (inherentMethods item).flatMap SyntaxTree.allAttributes) := by
  dsimp only [noteImpl, inherentMethods]
  refine (notes_noteMisplaced facts item.allAttributes).trans ?_
  cases ((item.child? .selfType).bind fun target => target.children.head?).bind
    SyntaxTree.typePath? with
  | none => exact notes_nothing rfl rfl rfl
  | some self =>
      cases item.child? .implTrait with
      | none => exact notes_methods _ scope (some self) _
      | some target =>
          dsimp only
          split <;> exact notes_nothing rfl rfl rfl

theorem notes_noteFunctionItem (item : SyntaxTree) :
    Notes facts (facts.noteFunctionItem scope item) item.allAttributes := by
  have noted := notes_noteFunction { facts.noteMisplaced item.allAttributes with
    hasMain := facts.hasMain || (scope == 0 &&
      ((item.child? .signature).map SyntaxTree.itemName) == some "main") } scope none item
  exact ⟨noted.scopes, noted.items, noted.misplaced.trans (List.append_nil _)⟩

theorem notes_noteCall (call : SyntaxTree) : Notes facts (facts.noteCall scope call) [] := by
  unfold noteCall
  split
  · split <;> exact notes_nothing rfl rfl rfl
  · exact notes_nothing rfl rfl rfl

end Steps

/-! ## The path of a file -/

theorem path_noteFunction (facts : FileFacts) (scope : Nat) (owner : Option SyntaxTree)
    (item : SyntaxTree) : (facts.noteFunction scope owner item).path = facts.path := by
  unfold noteFunction
  split <;> rfl

theorem path_noteImpl (facts : FileFacts) (scope : Nat) (item : SyntaxTree) :
    (facts.noteImpl scope item).path = facts.path := by
  dsimp only [noteImpl]
  cases ((item.child? .selfType).bind fun target => target.children.head?).bind
    SyntaxTree.typePath? with
  | none => rfl
  | some self =>
      cases item.child? .implTrait with
      | none =>
          exact List.foldlRecOn (motive := fun noted : FileFacts => noted.path = facts.path) _ _
            rfl fun noted same method _ => (path_noteFunction _ scope (some self) method).trans same
      | some target =>
          dsimp only
          split <;> rfl

theorem path_note (facts : FileFacts) (scope : Nat) (kind : NodeKind) (item : SyntaxTree) :
    (facts.note scope kind item).path = facts.path := by
  unfold note
  split
  · dsimp only
    split <;> rfl
  · unfold noteUse
    split <;> rfl
  · unfold declare
    split <;> rfl
  · unfold declare
    split <;> rfl
  · exact path_noteImpl facts scope item
  · exact path_noteFunction _ scope none item
  · rfl
  · unfold noteCall
    split
    · split <;> rfl
    · rfl
  · rfl

mutual

theorem path_visit (scope : Nat) (tree : SyntaxTree) (facts : FileFacts) :
    (visit scope tree facts).path = facts.path := by
  match tree with
  | .node kind parts =>
      rw [visit_node]
      split
      · exact path_note facts scope kind _
      · rw [path_visitAll, path_note]
  | .group _ body _ _ =>
      rw [visit]
      exact path_visitAll scope body facts
  | .token _ _ _ _ => rfl

theorem path_visitAll (scope : Nat) (trees : List SyntaxTree) (facts : FileFacts) :
    (visitAll scope trees facts).path = facts.path := by
  match trees with
  | [] => rfl
  | tree :: rest => rw [visitAll, path_visitAll, path_visit]

end

theorem path_collect (path space : String) (file : SyntaxTree) :
    (collect path space file).path = path :=
  path_visit 0 file _

end FileFacts

end Wiring.Source
