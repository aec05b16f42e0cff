import Wiring.Proofs.Expansion.Replays

/-!
# Types and paths that are read again

The readers of paths, bounds and types read again what they have read, at whatever depth they stand.
See `replaysForms_nonterminal`.
-/

set_option autoImplicit false

namespace Wiring.Expansion

open Wiring.Grammar
open Wiring.Grammar.Reader

/-- What the forms that a type is made of read is read again. -/
class ReplaysForms (nested : Nested) : Prop where
  type (plus : Bool) (room more enter : Nat) :
    Replays room more enter enter (nested (.type plus)) (nested (.type plus))
  bound (rules : BoundRules) (room more enter : Nat) :
    Replays room more enter enter (nested (.bound rules)) (nested (.bound rules))
  parameter (room more enter : Nat) :
    Replays room more (enter + 1) (enter + 1) (nested .parameter) (nested .parameter)

attribute [instance] ReplaysForms.type ReplaysForms.bound ReplaysForms.parameter

section Productions

-- What follows a choice stands in each of its branches once the choice is opened.
set_option synthInstance.maxSize 4000

variable (nested : Nested) [ReplaysForms nested] {room more enter : Nat}

instance replays_constBlock :
    Replays room more enter enter (constBlock nested) (constBlock nested) := by
  unfold constBlock
  infer_instance

instance replays_constArgument :
    Replays room more enter enter (constArgument nested) (constArgument nested) := by
  unfold constArgument
  infer_instance

instance replays_bindingBounds :
    Replays room more (enter + 1) (enter + 1) (bindingBounds nested) (bindingBounds nested) := by
  unfold bindingBounds
  infer_instance

instance replays_genericArgument :
    Replays room more (enter + 1) (enter + 1) (genericArgument nested)
      (genericArgument nested) := by
  unfold genericArgument
  refine .guarded (second_alike lifetime_ends) rfl rfl fun _ _ => .ite inferInstance ?_
  refine .bind inferInstance fun _ => .bind inferInstance fun _ => .ite inferInstance ?_
  refine .bind inferInstance fun type => ?_
  split <;> infer_instance

instance replays_angleArguments (separator : List SyntaxTree) :
    Replays room more enter enter (angleArguments nested separator)
      (angleArguments nested separator) := by
  unfold angleArguments
  infer_instance

instance replays_segment (inExpr : Bool) :
    Replays room more enter enter (Reader.segment nested inExpr)
      (Reader.segment nested inExpr) := by
  unfold Reader.segment
  refine .bind inferInstance fun _ => .ite inferInstance ?_
  dsimp only
  exact .bind inferInstance fun _ => .ite
    (.bind inferInstance fun _ => .bind inferInstance fun _ => .bind inferInstance fun _ =>
      .ite inferInstance (.guarded third_alike rfl rfl fun _ _ => inferInstance))
    (.bind inferInstance fun _ => .bind inferInstance fun _ => .bind inferInstance fun _ =>
      .ite inferInstance (.guarded third_alike rfl rfl fun _ _ => inferInstance))

instance replays_segments (inExpr : Bool) :
    Replays room more enter enter (segments nested inExpr) (segments nested inExpr) := by
  unfold segments
  refine .of_loop (fun _ => ⟨_, rfl⟩) fun fuel fuel' ih done => ?_
  unfold segments.loop
  refine .guarded third_alike rfl rfl fun _ _ => .ite ?_ inferInstance
  exact .bind_of_shortens (shortens_punct (by decide)) inferInstance fun _ =>
    .bind inferInstance fun _ => ih _

instance replays_path (inExpr : Bool) :
    Replays room more enter enter (path nested inExpr) (path nested inExpr) := by
  unfold path
  infer_instance

instance replays_qualifiedRest (inExpr : Bool) :
    Replays room more enter enter (qualifiedRest nested inExpr) (qualifiedRest nested inExpr) := by
  unfold qualifiedRest
  refine .bind inferInstance fun _ => .of_loop (fun _ => ⟨_, rfl⟩) fun fuel fuel' ih done => ?_
  unfold qualifiedRest.loop
  refine .bind inferInstance fun _ => .ite ?_ inferInstance
  exact .bind_of_shortens (shortens_punct (by decide)) inferInstance fun _ =>
    .bind inferInstance fun _ => ih _

instance replays_qualifiedPath (inExpr : Bool) (plain qualified : NodeKind) :
    Replays room more enter enter (qualifiedPath nested inExpr plain qualified)
      (qualifiedPath nested inExpr plain qualified) := by
  unfold qualifiedPath
  dsimp only
  infer_instance

instance replays_attributeItem :
    Replays room more enter enter (attributeItem nested false) (attributeItem nested false) := by
  unfold attributeItem
  dsimp only
  infer_instance

instance replays_outerAttributes :
    Replays room more enter enter (outerAttributes nested) (outerAttributes nested) := by
  unfold outerAttributes
  refine replays_manyUntil ?_
  unfold attributeItem
  dsimp only
  exact (shortens_punct (by decide)).bind

instance replays_binder (parameter : Reader SyntaxTree)
    [∀ room more, Replays room more (enter + 1) (enter + 1) parameter parameter] :
    Replays room more enter enter (binder parameter) (binder parameter) := by
  unfold binder
  infer_instance

instance replays_returnType (plus : Bool) :
    Replays room more enter enter (returnType nested plus) (returnType nested plus) := by
  unfold returnType
  infer_instance

instance replays_parenthesizedArguments :
    Replays room more enter enter (parenthesizedArguments nested)
      (parenthesizedArguments nested) := by
  unfold parenthesizedArguments
  infer_instance

instance replays_genericParameter :
    Replays room more (enter + 1) (enter + 1) (genericParameter nested)
      (genericParameter nested) := by
  unfold genericParameter
  dsimp only
  infer_instance

instance replays_traitBound (rules : BoundRules) :
    Replays room more enter enter (traitBound nested rules) (traitBound nested rules) := by
  unfold traitBound
  refine .bind inferInstance fun early => ?_
  extract_lets onConstant
  have replays (constant : List SyntaxTree) :
      Replays room more enter enter (onConstant constant) (onConstant constant) := by
    refine .of_line fun line other => .bind inferInstance fun question => ?_
    extract_lets onLate onLate'
    have replays (late : List SyntaxTree) :
        Replays room more enter enter (onLate late) (onLate' late) := by
      refine .bind inferInstance fun target => .bind inferInstance fun _ =>
        .guarded third_alike rfl rfl fun _ _ => .ite ?_ ?_
      · infer_instance
      · infer_instance
    exact .ite (.bind inferInstance replays) (.bind inferInstance replays)
  clear_value onConstant
  infer_instance

instance replays_bound (rules : BoundRules) :
    Replays room more enter enter (bound nested rules) (bound nested rules) := by
  unfold bound
  infer_instance

instance replays_furtherBound (rules : BoundRules) :
    Replays room more enter enter (furtherBound rules) (furtherBound rules) := by
  unfold furtherBound
  infer_instance

instance replays_boundSum (rules : BoundRules) (plus : Bool) :
    Replays room more enter enter (boundSum nested rules plus) (boundSum nested rules plus) := by
  unfold boundSum
  refine .of_loop (fun _ => ⟨_, rfl⟩) fun fuel fuel' ih done => ?_
  unfold boundSum.loop
  refine .bind inferInstance fun _ => .bind inferInstance fun _ => .ite ?_ inferInstance
  exact .bind_of_shortens (shortens_punct (by decide)) inferInstance fun _ =>
    .bind inferInstance fun _ => .ite (ih _) inferInstance

instance replays_objectBounds (line other : Nat) (plus : Bool) :
    Replays room more enter enter (objectBounds nested line plus)
      (objectBounds nested other plus) := by
  unfold objectBounds
  infer_instance

instance replays_callingConvention :
    Replays room more enter enter callingConvention callingConvention := by
  unfold callingConvention
  infer_instance

instance replays_functionType (binder : List SyntaxTree) :
    Replays room more enter enter (functionType nested binder) (functionType nested binder) := by
  unfold functionType
  infer_instance

instance replays_bareObject (first : SyntaxTree) (plus : Bool) :
    Replays room more enter enter (bareObject nested first plus)
      (bareObject nested first plus) := by
  unfold bareObject
  refine .ite ?_ inferInstance
  rw [← bind_assoc]
  refine .bind (.of_loop (fun _ => ⟨_, rfl⟩) fun fuel fuel' ih done => ?_) fun _ =>
    replays_pure _
  unfold bareObject.loop
  refine .bind inferInstance fun _ => .bind inferInstance fun _ => .ite ?_ inferInstance
  exact .bind_of_shortens (shortens_punct (by decide)) inferInstance fun _ =>
    .bind inferInstance fun _ => .ite (.bind inferInstance fun _ => ih _) inferInstance

instance replays_namedType (binder : List SyntaxTree) (plus : Bool) :
    Replays room more enter enter (namedType nested binder plus)
      (namedType nested binder plus) := by
  unfold namedType
  refine .bind inferInstance fun path => ?_
  split <;> infer_instance

instance replays_objectRest (first : SyntaxTree) :
    Replays room more enter enter (objectRest nested first) (objectRest nested first) := by
  unfold objectRest
  rw [← bind_assoc]
  refine .bind (.of_loop (fun _ => ⟨_, rfl⟩) fun fuel fuel' ih done => ?_) fun _ =>
    replays_pure _
  unfold objectRest.loop
  refine .bind inferInstance fun _ => .ite ?_ inferInstance
  exact .bind_of_shortens (shortens_punct (by decide)) inferInstance fun _ =>
    .bind inferInstance fun _ => ih _

instance replays_parenthesizedType (plus : Bool) :
    Replays room more enter enter (parenthesizedType nested plus)
      (parenthesizedType nested plus) := by
  unfold parenthesizedType
  refine .bind inferInstance fun inside => ?_
  obtain ⟨parts, openLine, closeLine⟩ := inside
  cases parts with
  | tuple | lifetimes | optional =>
      dsimp only
      infer_instance
  | one type =>
      dsimp only
      refine .bind inferInstance fun _ => ?_
      split
      · split <;> infer_instance
      · infer_instance

instance replays_bracketType :
    Replays room more enter enter (bracketType nested) (bracketType nested) := by
  unfold bracketType
  infer_instance

instance replays_pointerType :
    Replays room more enter enter (pointerType nested) (pointerType nested) := by
  unfold pointerType
  dsimp only
  infer_instance

instance replays_referenceType :
    Replays room more enter enter (referenceType nested) (referenceType nested) := by
  unfold referenceType
  dsimp only
  infer_instance

/-- The parts of a type behind `dyn`: the word, the star if there is one, and the bounds. -/
def dynParts (nested : Nested) (plus : Bool) :
    Reader (SyntaxTree × List SyntaxTree × List SyntaxTree) := do
  let line ← lineAhead
  let word ← keyword "dyn"
  let star ← punct? "*"
  return (word, star, ← objectBounds nested line plus)

/-- The type that parts behind `dyn` make. One with a star is kept as its tokens. -/
def dynOf (start : List SyntaxTree) (parts : SyntaxTree × List SyntaxTree × List SyntaxTree) :
    Reader SyntaxTree := do
  if parts.2.1.isEmpty then return .node .traitObjectType (parts.1 :: parts.2.2)
  else return .node .verbatim (← since start)

def dynValue (parts : SyntaxTree × List SyntaxTree × List SyntaxTree) (taken : List SyntaxTree) :
    SyntaxTree :=
  if parts.2.1.isEmpty then .node .traitObjectType (parts.1 :: parts.2.2) else .node .verbatim taken

omit [ReplaysForms nested] in
theorem dynType_eq (plus : Bool) :
    dynType nested plus = ahead >>= fun start => dynParts nested plus >>= dynOf start := by
  simp only [dynParts, bind_assoc, pure_bind]
  rfl

theorem reads_dynOf (start : List SyntaxTree)
    (parts : SyntaxTree × List SyntaxTree × List SyntaxTree) (scope : Scope)
    (state : ReaderState) :
    reads (dynOf start parts) scope state =
      some (dynValue parts (start.take (start.length - state.rest.length)), state) := by
  unfold dynOf dynValue
  split <;> rfl

instance replays_dynType (plus : Bool) :
    Replays room more enter enter (dynType nested plus) (dynType nested plus) := by
  rw [dynType_eq]
  refine .of_since reads_dynOf ?_
  unfold dynParts
  infer_instance

instance replays_implType (plus : Bool) :
    Replays room more enter enter (implType nested plus) (implType nested plus) := by
  unfold implType
  infer_instance

instance replays_type (plus : Bool) :
    Replays room more enter enter (Reader.type nested plus) (Reader.type nested plus) := by
  unfold Reader.type
  refine .bind inferInstance fun bound => .of_ahead fun alike => ?_
  dsimp only
  have word (text : String) := (unswayed_word text).same alike
  have group (delimiter : Delimiter) := (unswayed_group delimiter).same alike
  have mark (text : String) [CommaFree text] := (unswayed_punct text).same alike
  simp only [word, group, mark, unswayed_name.same alike, unswayed_pathWord.same alike,
    unswayed_lifetime.same alike]
  infer_instance

instance replaysForms_nonterminal (depth : Nat) : ReplaysForms (nonterminal depth) := by
  induction depth with
  | zero =>
      exact ⟨fun _ _ _ _ => replays_expected _ _, fun _ _ _ _ => replays_expected _ _,
        fun _ _ _ => replays_expected _ _⟩
  | succ depth ih =>
      exact ⟨fun _ _ _ _ => replays_type _ _, fun _ _ _ _ => replays_bound _ _,
        fun _ _ _ => replays_genericParameter _⟩

end Productions

end Wiring.Expansion
