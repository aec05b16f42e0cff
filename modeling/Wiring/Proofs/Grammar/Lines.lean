import Wiring.Grammar.Text
import Wiring.Grammar.View

/-!
# Trees without their lines

Trees are the same code exactly if they are equal without their lines, and neither the text of a
tree nor what it consists of depends on lines. See `sameCode_iff` and `text_unlined`.
-/

set_option autoImplicit false

namespace Wiring.Grammar

namespace SyntaxTree

mutual

def unlined : SyntaxTree → SyntaxTree
  | .token kind text _ whole => .token kind text 0 whole
  | .group delimiter body _ _ => .group delimiter (unlinedAll body) 0 0
  | .node kind parts => .node kind (unlinedAll parts)

def unlinedAll : List SyntaxTree → List SyntaxTree
  | [] => []
  | tree :: rest => tree.unlined :: unlinedAll rest

end

theorem unlinedAll_eq (trees : List SyntaxTree) : unlinedAll trees = trees.map unlined := by
  induction trees with
  | nil => rfl
  | cons tree rest ih => rw [unlinedAll, ih, List.map_cons]

theorem unlined_node (kind : NodeKind) (parts : List SyntaxTree) :
    (node kind parts).unlined = .node kind (parts.map unlined) := by
  rw [unlined, unlinedAll_eq]

mutual

theorem unlined_unlined (tree : SyntaxTree) : tree.unlined.unlined = tree.unlined := by
  match tree with
  | .token _ _ _ _ => rfl
  | .group _ body _ _ => simp only [unlined, unlinedAll_unlinedAll body]
  | .node _ parts => simp only [unlined, unlinedAll_unlinedAll parts]

theorem unlinedAll_unlinedAll (trees : List SyntaxTree) :
    unlinedAll (unlinedAll trees) = unlinedAll trees := by
  match trees with
  | [] => rfl
  | tree :: rest => simp only [unlinedAll, unlined_unlined tree, unlinedAll_unlinedAll rest]

end

/-! ## The same code -/

mutual

theorem sameCode_iff (left right : SyntaxTree) :
    sameCode left right = true ↔ left.unlined = right.unlined := by
  match left, right with
  | .token _ _ _ _, .token _ _ _ _ => simp [sameCode, unlined]
  | .group _ body _ _, .group _ body' _ _ => simp [sameCode, unlined, sameCodes_iff body body']
  | .node _ parts, .node _ parts' => simp [sameCode, unlined, sameCodes_iff parts parts']
  | .token _ _ _ _, .group _ _ _ _ => simp [sameCode, unlined]
  | .token _ _ _ _, .node _ _ => simp [sameCode, unlined]
  | .group _ _ _ _, .token _ _ _ _ => simp [sameCode, unlined]
  | .group _ _ _ _, .node _ _ => simp [sameCode, unlined]
  | .node _ _, .token _ _ _ _ => simp [sameCode, unlined]
  | .node _ _, .group _ _ _ _ => simp [sameCode, unlined]

theorem sameCodes_iff (left right : List SyntaxTree) :
    sameCodes left right = true ↔ unlinedAll left = unlinedAll right := by
  match left, right with
  | [], [] => simp [sameCodes]
  | [], _ :: _ => simp [sameCodes, unlinedAll]
  | _ :: _, [] => simp [sameCodes, unlinedAll]
  | tree :: rest, tree' :: rest' =>
      simp [sameCodes, unlinedAll, sameCode_iff tree tree', sameCodes_iff rest rest']

end

/-! ## What a tree consists of -/

section Views

variable (tree : SyntaxTree)

theorem hasKind_unlined (kind : NodeKind) : tree.unlined.hasKind kind = tree.hasKind kind := by
  cases tree <;> rfl

theorem text?_unlined : tree.unlined.text? = tree.text? := by
  cases tree <;> rfl

theorem isPunct_unlined (text : String) : tree.unlined.isPunct text = tree.isPunct text := by
  cases tree with
  | token kind _ _ _ => cases kind <;> rfl
  | group => rfl
  | node => rfl

theorem children_unlined : tree.unlined.children = tree.children.map unlined := by
  cases tree with
  | token => rfl
  | group => rfl
  | node kind parts => rw [unlined_node]; rfl

theorem childrenOf_unlined (kind : NodeKind) :
    tree.unlined.childrenOf kind = (tree.childrenOf kind).map unlined := by
  have kinds : hasKind kind ∘ unlined = hasKind kind := funext fun part => hasKind_unlined part kind
  rw [childrenOf, children_unlined, List.filter_map, kinds, childrenOf]

theorem segmentName_unlined : tree.unlined.segmentName = tree.segmentName := by
  rw [segmentName, children_unlined, List.head?_map, segmentName]
  cases tree.children.head? with
  | none => rfl
  | some name => simp [text?_unlined]

theorem pathNames_unlined : tree.unlined.pathNames = tree.pathNames := by
  rw [pathNames, segments, childrenOf_unlined, List.map_map]
  exact List.map_congr_left fun segment _ => segmentName_unlined segment

theorem isAbsolutePath_unlined : tree.unlined.isAbsolutePath = tree.isAbsolutePath := by
  rw [isAbsolutePath, children_unlined, List.head?_map, isAbsolutePath]
  cases tree.children.head? with
  | none => rfl
  | some first => exact isPunct_unlined first "::"

theorem lastArguments?_unlined :
    tree.unlined.lastArguments? = tree.lastArguments?.map unlined := by
  rw [lastArguments?, segments, childrenOf_unlined, List.getLast?_map, lastArguments?, segments]
  cases (tree.childrenOf .segment).getLast? with
  | none => rfl
  | some segment => simp [children_unlined]

theorem genericArgumentList_unlined :
    tree.unlined.genericArgumentList = tree.genericArgumentList.map unlined := by
  rw [genericArgumentList, children_unlined, List.filter_map, genericArgumentList]
  simp only [Function.comp_def, hasKind_unlined]

theorem argumentType?_unlined :
    tree.unlined.argumentType? = tree.argumentType?.map unlined := by
  cases tree with
  | token => rfl
  | group => rfl
  | node kind parts =>
      cases kind with
      | typeArgument => rcases parts with _ | ⟨type, _ | ⟨second, rest⟩⟩ <;> rfl
      | _ => rfl

theorem findSome?_unlined {α : Type} (view : SyntaxTree → Option α) (spared : α → α)
    (commutes : ∀ part, view part.unlined = (view part).map spared) (parts : List SyntaxTree) :
    (parts.map unlined).findSome? view = (parts.findSome? view).map spared := by
  rw [List.findSome?_map, List.map_findSome?]
  exact congrArg (List.findSome? · parts) (funext commutes)

theorem qualifiedParts_unlined (parts : List SyntaxTree) :
    qualifiedParts (parts.map unlined) = (qualifiedParts parts).unlined := by
  have punct : (fun part => !isPunct ">" part) ∘ unlined = fun part => !isPunct ">" part :=
    funext fun part => congrArg (!·) (isPunct_unlined part ">")
  rw [qualifiedParts, findSome?_unlined _ (List.map unlined), List.dropWhile_map, punct,
    ← List.map_drop, qualifiedParts, unlined_node, List.map_append]
  · cases parts.findSome? _ <;> rfl
  · intro part
    cases part with
    | token => rfl
    | group => rfl
    | node kind inner =>
        cases kind with
        | path => rw [unlined_node]; rfl
        | _ => rfl

theorem withLastArguments_unlined (arguments : List SyntaxTree) :
    (tree.withLastArguments arguments).unlined =
      tree.unlined.withLastArguments (arguments.map unlined) := by
  cases tree with
  | token => rfl
  | group => rfl
  | node kind parts =>
      cases kind with
      | path =>
          rw [unlined_node, withLastArguments.eq_def (arguments.map unlined)]
          simp only [withLastArguments, List.getLast?_map]
          cases parts.getLast? with
          | none => rw [unlined_node]; rfl
          | some last =>
              rcases last with _ | _ | ⟨kind, inner⟩
              · rw [unlined_node]; rfl
              · rw [unlined_node]; rfl
              · cases kind with
                | segment =>
                    cases inner with
                    | nil => rw [unlined_node]; rfl
                    | cons name rest =>
                        simp only [Option.map_some, unlined_node, List.map_cons, List.map_append,
                          List.map_dropLast, List.map_nil]
                | _ => rw [unlined_node]; rfl
      | _ => rfl

theorem typePath?_unlined (tree : SyntaxTree) :
    tree.unlined.typePath? = tree.typePath?.map unlined := by
  match tree with
  | .token _ _ _ _ => rfl
  | .group _ _ _ _ => rfl
  | .node kind parts =>
      cases kind with
      | pathType => rcases parts with _ | ⟨path, _ | ⟨second, rest⟩⟩ <;> rfl
      | qualifiedType => rw [unlined_node, typePath?, qualifiedParts_unlined]; rfl
      | traitObjectType =>
          have first (inner : List SyntaxTree) :
              (unlinedAll inner).find? (hasKind .path) =
                (inner.find? (hasKind .path)).map unlined := by
            rw [unlinedAll_eq, List.find?_map]
            exact congrArg (·.map unlined) (congrArg (List.find? · inner)
              (funext fun part => hasKind_unlined part .path))
          rw [unlined_node, typePath?, findSome?_unlined _ unlined, typePath?]
          intro bound
          cases bound with
          | token => rfl
          | group delimiter body _ _ =>
              rcases body with _ | ⟨_ | _ | ⟨kind, inner⟩, _ | ⟨_, _⟩⟩
              all_goals cases delimiter
              any_goals rfl
              all_goals cases kind
              any_goals rfl
              exact first inner
          | node kind inner =>
              cases kind with
              | traitBound => exact first inner
              | _ => rfl
      | parenthesizedType =>
          rcases parts with _ | ⟨_ | ⟨_, _ | ⟨inner, _ | ⟨_, _⟩⟩, _, _⟩ | _, _ | ⟨_, _⟩⟩
          -- Only a group of one type around nothing else is looked into.
          case cons.group.cons.nil.nil => exact typePath?_unlined inner
          all_goals rfl
      | _ => rfl

end Views

/-! ## The text of a tree -/

theorem isComma_unlined (tree : SyntaxTree) : tree.unlined.isComma = tree.isComma := by
  cases tree with
  | token =>
      -- Both sides are the same comparison of the text.
      unfold unlined isComma isComma.match_1
      rfl
  | group => rfl
  | node => rfl

mutual

theorem pieces_unlined (tree : SyntaxTree) : tree.unlined.pieces = tree.pieces := by
  match tree with
  | .token kind _ _ _ => cases kind <;> rfl
  | .group delimiter body _ _ => rw [unlined, pieces, pieces, piecesOf_unlined body]
  | .node kind parts =>
      have plain := piecesOf_unlined parts
      have generic := congrArg genericPieces (partsOf_unlined parts)
      cases kind <;> first | exact plain | exact generic

theorem piecesOf_unlined (trees : List SyntaxTree) :
    piecesOf (unlinedAll trees) = piecesOf trees := by
  match trees with
  | [] => rfl
  | tree :: rest => rw [unlinedAll, piecesOf, piecesOf, pieces_unlined tree, piecesOf_unlined rest]

theorem partsOf_unlined (trees : List SyntaxTree) : partsOf (unlinedAll trees) = partsOf trees := by
  match trees with
  | [] => rfl
  | tree :: rest =>
      have lifetime : tree.unlined.isLifetimeElement = tree.isLifetimeElement := by
        cases tree with
        | token => rfl
        | group => rfl
        | node kind _ => cases kind <;> rfl
      rw [unlinedAll, partsOf, partsOf, lifetime, isComma_unlined tree, pieces_unlined tree,
        partsOf_unlined rest]

end

theorem text_unlined (tree : SyntaxTree) : tree.unlined.text = tree.text := by
  rw [text, pieces_unlined, text]

end SyntaxTree

end Wiring.Grammar
