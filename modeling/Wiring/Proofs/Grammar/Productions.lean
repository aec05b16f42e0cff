import Wiring.Proofs.Grammar.Onward

/-!
# Productions move forward

Every production of the grammar moves forward if the nonterminals do that it nests outside of
groups. A group is passed as a whole, so what stands in groups alone plays no part.
-/

set_option autoImplicit false

namespace Wiring.Grammar.Reader

/-- The nonterminals that stand outside of groups move forward. -/
class OnwardForms (nested : Nested) : Prop where
  type (plus : Bool) : Onward (nested (.type plus))
  bound (rules : BoundRules) : Onward (nested (.bound rules))
  parameter : Onward (nested .parameter)
  expr (braces : Bool) : Onward (nested (.expr braces))
  unary (braces : Bool) : Onward (nested (.unary braces))
  pattern : Onward (nested .pattern)
  alternatives : Onward (nested .alternatives)

attribute [instance] OnwardForms.type OnwardForms.bound OnwardForms.parameter OnwardForms.expr
  OnwardForms.unary OnwardForms.pattern OnwardForms.alternatives

section Productions

-- What follows a choice stands in each of its branches once the choice is opened.
set_option synthInstance.maxSize 4000

variable (nested : Nested) [OnwardForms nested]

/-! ## Paths -/

instance onward_constBlock : Onward (constBlock nested) := by
  unfold constBlock
  infer_instance

instance onward_constArgument : Onward (constArgument nested) := by
  unfold constArgument
  infer_instance

instance onward_bindingBounds : Onward (bindingBounds nested) := by
  unfold bindingBounds
  infer_instance

instance onward_genericArgument : Onward (genericArgument nested) := by
  unfold genericArgument
  refine .bind inferInstance fun _ => .bind inferInstance fun _ => ?_
  split
  · infer_instance
  · refine .bind inferInstance fun _ => .bind inferInstance fun _ => ?_
    split
    · infer_instance
    · refine .bind inferInstance fun type => ?_
      split <;> infer_instance

instance onward_angleArguments (separator : List SyntaxTree) :
    Onward (angleArguments nested separator) := by
  unfold angleArguments
  infer_instance

instance onward_segment (inExpr : Bool) : Onward (segment nested inExpr) := by
  unfold segment
  dsimp only
  infer_instance

instance onward_segments_loop (inExpr : Bool) (fuel : Nat) (done : List SyntaxTree) :
    Onward (segments.loop nested inExpr fuel done) := by
  induction fuel generalizing done with
  | zero => exact onward_pure _
  | succ fuel ih =>
      unfold segments.loop
      infer_instance

instance onward_segments (inExpr : Bool) : Onward (segments nested inExpr) := by
  unfold segments
  infer_instance

instance onward_path (inExpr : Bool) : Onward (path nested inExpr) := by
  unfold path
  infer_instance

instance onward_qualifiedRest_loop (inExpr : Bool) (fuel : Nat) (done : List SyntaxTree) :
    Onward (qualifiedRest.loop nested inExpr fuel done) := by
  induction fuel generalizing done with
  | zero => exact onward_pure _
  | succ fuel ih =>
      unfold qualifiedRest.loop
      infer_instance

instance onward_qualifiedRest (inExpr : Bool) : Onward (qualifiedRest nested inExpr) := by
  unfold qualifiedRest
  infer_instance

instance onward_qualifiedPath (inExpr : Bool) (plain qualified : NodeKind) :
    Onward (qualifiedPath nested inExpr plain qualified) := by
  unfold qualifiedPath
  dsimp only
  infer_instance

instance onward_attributeItem (inner : Bool) : Onward (attributeItem nested inner) := by
  unfold attributeItem
  dsimp only
  infer_instance

instance onward_outerAttributes : Onward (outerAttributes nested) := by
  unfold outerAttributes
  infer_instance

/-! ## Types -/

instance onward_binder (parameter : Reader SyntaxTree) [Onward parameter] :
    Onward (binder parameter) := by
  unfold binder
  infer_instance

instance onward_returnType (plus : Bool) : Onward (returnType nested plus) := by
  unfold returnType
  infer_instance

instance onward_parenthesizedArguments : Onward (parenthesizedArguments nested) := by
  unfold parenthesizedArguments
  infer_instance

instance onward_genericParameter : Onward (genericParameter nested) := by
  unfold genericParameter
  dsimp only
  infer_instance

instance onward_traitBound (rules : BoundRules) : Onward (traitBound nested rules) := by
  unfold traitBound
  refine .bind inferInstance fun early => ?_
  extract_lets onConstant
  have onward (constant : List SyntaxTree) : Onward (onConstant constant) := by
    unfold onConstant
    dsimp only
    infer_instance
  clear_value onConstant
  infer_instance

instance onward_bound (rules : BoundRules) : Onward (bound nested rules) := by
  unfold bound
  infer_instance

instance onward_furtherBound (rules : BoundRules) : Onward (furtherBound rules) := by
  unfold furtherBound
  infer_instance

instance onward_boundSum_loop (rules : BoundRules) (plus : Bool) (fuel : Nat)
    (done : List SyntaxTree) :
    Onward (boundSum.loop nested rules plus fuel done) := by
  induction fuel generalizing done with
  | zero => exact onward_pure _
  | succ fuel ih =>
      unfold boundSum.loop
      infer_instance

instance onward_boundSum (rules : BoundRules) (plus : Bool) :
    Onward (boundSum nested rules plus) := by
  unfold boundSum
  infer_instance

instance onward_objectBounds (line : Nat) (plus : Bool) :
    Onward (objectBounds nested line plus) := by
  unfold objectBounds
  infer_instance

instance onward_callingConvention : Onward callingConvention := by
  unfold callingConvention
  infer_instance

instance onward_functionType (binder : List SyntaxTree) : Onward (functionType nested binder) := by
  unfold functionType
  infer_instance

instance onward_bareObject_loop (fuel : Nat) (done : List SyntaxTree) :
    Onward (bareObject.loop nested fuel done) := by
  induction fuel generalizing done with
  | zero => exact onward_pure _
  | succ fuel ih =>
      unfold bareObject.loop
      infer_instance

instance onward_bareObject (first : SyntaxTree) (plus : Bool) :
    Onward (bareObject nested first plus) := by
  unfold bareObject
  infer_instance

instance onward_namedType (binder : List SyntaxTree) (plus : Bool) :
    Onward (namedType nested binder plus) := by
  unfold namedType
  refine .bind inferInstance fun path => ?_
  split <;> infer_instance

instance onward_objectRest_loop (fuel : Nat) (done : List SyntaxTree) :
    Onward (objectRest.loop nested fuel done) := by
  induction fuel generalizing done with
  | zero => exact onward_pure _
  | succ fuel ih =>
      unfold objectRest.loop
      infer_instance

instance onward_objectRest (first : SyntaxTree) : Onward (objectRest nested first) := by
  unfold objectRest
  infer_instance

instance onward_parenthesizedType (plus : Bool) : Onward (parenthesizedType nested plus) := by
  unfold parenthesizedType
  refine .bind inferInstance fun inside => ?_
  obtain ⟨parts, openLine, closeLine⟩ := inside
  cases parts with
  | tuple | lifetimes | optional =>
      dsimp only
      infer_instance
  | one type =>
      dsimp only
      refine .bind inferInstance fun _ => ?_
      split
      · split <;> infer_instance
      · infer_instance

instance onward_bracketType : Onward (bracketType nested) := by
  unfold bracketType
  infer_instance

instance onward_pointerType : Onward (pointerType nested) := by
  unfold pointerType
  dsimp only
  infer_instance

instance onward_referenceType : Onward (referenceType nested) := by
  unfold referenceType
  dsimp only
  infer_instance

instance onward_dynType (plus : Bool) : Onward (dynType nested plus) := by
  unfold dynType
  infer_instance

instance onward_implType (plus : Bool) : Onward (implType nested plus) := by
  unfold implType
  infer_instance

instance onward_type (plus : Bool) : Onward (type nested plus) := by
  unfold type
  dsimp only
  infer_instance

/-! ## Patterns -/

instance onward_rangeSign (older : Bool) : Onward (rangeSign older) := by
  unfold rangeSign
  infer_instance

instance onward_index (text : String) (line : Nat) : Onward (index text line) := by
  unfold index
  split <;> infer_instance

theorem same_of_index {text : String} {line : Nat} {scope : Scope} {before after : ReaderState}
    {value : SyntaxTree} (read : reads (index text line) scope before = some (value, after)) :
    after = before := by
  unfold index at read
  split at read
  · rw [reads_ite] at read
    split at read
    · exact (Prod.mk.inj (Option.some.inj read)).2.symm
    · cases read
  · cases read
  · cases read

instance onward_member : Onward member := by
  refine .of_ahead fun {scope tokens leftOver value after} read => ?_
  split at read
  · rw [reads_ite, reads_refuse] at read
    split at read
    · obtain ⟨_, _, found, read⟩ := exists_of_reads_bind read
      exact past_of_advance (same_of_index found ▸ read) (List.suffix_cons ..)
    · cases read
  · rw [reads_ite, reads_refuse] at read
    split at read
    · exact onward_name.past read
    · cases read

instance onward_constExpr : Onward (constExpr nested) := by
  unfold constExpr
  infer_instance

instance onward_exprPath : Onward (exprPath nested) := by
  unfold exprPath
  infer_instance

instance onward_rangeBound : Onward (rangeBound nested) := by
  unfold rangeBound
  infer_instance

instance onward_rangeEnd (older : Bool) : Onward (rangeEnd nested older) := by
  unfold rangeEnd
  infer_instance

instance onward_rangeFrom (lower : SyntaxTree) : Onward (rangeFrom nested lower) := by
  unfold rangeFrom
  infer_instance

instance onward_rangeTo : Onward (rangeTo nested) := by
  unfold rangeTo
  infer_instance

instance onward_valuePattern : Onward (valuePattern nested) := by
  unfold valuePattern
  dsimp only
  infer_instance

instance onward_pathPattern : Onward (pathPattern nested) := by
  unfold pathPattern
  infer_instance

instance onward_identPattern : Onward (identPattern nested) := by
  unfold identPattern
  dsimp only
  infer_instance

instance onward_boxPattern : Onward (boxPattern nested) := by
  unfold boxPattern
  infer_instance

instance onward_referencePattern : Onward (referencePattern nested) := by
  unfold referencePattern
  infer_instance

instance onward_pattern : Onward (pattern nested) := by
  unfold pattern
  infer_instance

instance onward_furtherAlternatives_loop (fuel : Nat) (done : List SyntaxTree) :
    Onward (furtherAlternatives.loop nested fuel done) := by
  induction fuel generalizing done with
  | zero => exact onward_pure _
  | succ fuel ih =>
      unfold furtherAlternatives.loop
      infer_instance

instance onward_furtherAlternatives : Onward (furtherAlternatives nested) := by
  unfold furtherAlternatives
  infer_instance

instance onward_alternatives : Onward (alternatives nested) := by
  unfold alternatives
  infer_instance

/-! ## Expressions -/

instance onward_block : Onward (block nested) := by
  unfold block
  infer_instance

instance onward_plainBlock : Onward (plainBlock nested) := by
  unfold plainBlock
  infer_instance

instance onward_conditional_loop (fuel : Nat) (done : List SyntaxTree) :
    Onward (conditional.loop nested fuel done) := by
  induction fuel generalizing done with
  | zero => exact onward_pure _
  | succ fuel ih =>
      unfold conditional.loop
      dsimp only
      infer_instance

instance onward_conditional : Onward (conditional nested) := by
  unfold conditional
  infer_instance

instance onward_whileLoop : Onward (whileLoop nested) := by
  unfold whileLoop
  infer_instance

instance onward_forLoop : Onward (forLoop nested) := by
  unfold forLoop
  infer_instance

instance onward_wordBlock (text : String) : Onward (wordBlock nested text) := by
  unfold wordBlock
  infer_instance

instance onward_matchExpr : Onward (matchExpr nested) := by
  unfold matchExpr
  infer_instance

instance onward_labelled : Onward (labelled nested) := by
  unfold labelled
  dsimp only
  infer_instance

instance onward_closureParameter : Onward (closureParameter nested) := by
  unfold closureParameter
  infer_instance

instance onward_closure (braces : Bool) : Onward (closure nested braces) := by
  unfold closure
  infer_instance

instance onward_pathAtom (braces : Bool) : Onward (pathAtom nested braces) := by
  unfold pathAtom
  refine .bind inferInstance fun target => ?_
  split <;> infer_instance

instance onward_parenthesizedExpr : Onward (parenthesizedExpr nested) := by
  unfold parenthesizedExpr
  infer_instance

instance onward_arrayExpr : Onward (arrayExpr nested) := by
  unfold arrayExpr
  infer_instance

instance onward_breakExpr (braces : Bool) : Onward (breakExpr nested braces) := by
  unfold breakExpr
  dsimp only
  infer_instance

instance onward_wordValue (text : String) : Onward (wordValue nested text) := by
  unfold wordValue
  infer_instance

instance onward_becomeExpr : Onward (becomeExpr nested) := by
  unfold becomeExpr
  infer_instance

instance onward_builtinExpr : Onward builtinExpr := by
  unfold builtinExpr
  infer_instance

instance onward_checkCast : Onward checkCast := by
  unfold checkCast
  infer_instance

theorem onward_operators (braces : Bool) (fuel : Nat) :
    (∀ left base, Onward (climb nested braces fuel left base)) ∧
      (∀ precedence, Onward (operand nested braces fuel precedence)) ∧
      (∀ right precedence, Onward (tighten nested braces fuel right precedence)) ∧
      ∀ sign, Onward (rangeUpper nested braces fuel sign) := by
  induction fuel with
  | zero =>
      refine ⟨fun _ _ => ?_, fun _ => ?_, fun _ _ => ?_, fun _ => ?_⟩
      · exact onward_pure _
      · unfold operand
        infer_instance
      · exact onward_pure _
      · exact onward_pure _
  | succ fuel ih =>
      obtain ⟨climbs, operands, tightens, uppers⟩ := ih
      refine ⟨fun _ _ => ?_, fun _ => ?_, fun _ _ => ?_, fun _ => ?_⟩
      · unfold climb
        refine .bind inferInstance fun found => ?_
        split
        · infer_instance
        · split <;> infer_instance
      · unfold operand
        infer_instance
      · unfold tighten
        infer_instance
      · unfold rangeUpper
        infer_instance

instance onward_climb (braces : Bool) (fuel : Nat) (left : SyntaxTree) (base : Precedence) :
    Onward (climb nested braces fuel left base) :=
  (onward_operators nested braces fuel).1 left base

instance onward_operand (braces : Bool) (fuel : Nat) (precedence : Precedence) :
    Onward (operand nested braces fuel precedence) :=
  (onward_operators nested braces fuel).2.1 precedence

instance onward_rangeUpper (braces : Bool) (fuel : Nat) (sign : SyntaxTree) :
    Onward (rangeUpper nested braces fuel sign) :=
  (onward_operators nested braces fuel).2.2.2 sign

instance onward_climbFuel : Onward climbFuel := by
  unfold climbFuel
  infer_instance

instance onward_rangeAtom (braces : Bool) : Onward (rangeAtom nested braces) := by
  unfold rangeAtom
  infer_instance

instance onward_letExpr (braces : Bool) : Onward (letExpr nested braces) := by
  unfold letExpr
  infer_instance

instance onward_atom (braces : Bool) : Onward (atom nested braces) := by
  unfold atom
  dsimp only
  infer_instance

instance onward_indexChain (base dot : SyntaxTree) (text : String) (line : Nat) :
    Onward (indexChain base dot text line) := by
  unfold indexChain
  dsimp only
  refine .bind (onward_forIn _ _ _ (fun part tree => ?_)) fun _ => inferInstance
  split <;> infer_instance

instance onward_memberTrailer (base dot : SyntaxTree) : Onward (memberTrailer nested base dot) := by
  unfold memberTrailer
  dsimp only
  infer_instance

instance onward_trailers_loop (fuel : Nat) (base : SyntaxTree) :
    Onward (trailers.loop nested fuel base) := by
  induction fuel generalizing base with
  | zero => exact onward_pure _
  | succ fuel ih =>
      unfold trailers.loop
      refine .bind inferInstance fun found => ?_
      extract_lets isRange
      split
      · infer_instance
      · split
        · refine .bind inferInstance fun dot => .of_ahead fun read => ?_
          split at read
          · rw [reads_ite] at read
            split at read
            · exact past_of_advance read (List.suffix_cons ..)
            · exact Onward.past read
          · exact Onward.past read
        · infer_instance

instance onward_trailers (base : SyntaxTree) : Onward (trailers nested base) := by
  unfold trailers
  infer_instance

instance onward_unary (braces : Bool) : Onward (unary nested braces) := by
  unfold unary
  dsimp only
  infer_instance

instance onward_expr (braces : Bool) : Onward (expr nested braces) := by
  unfold expr
  infer_instance

instance onwardForms_nonterminal (depth : Nat) : OnwardForms (nonterminal depth) := by
  induction depth with
  | zero =>
      exact ⟨fun _ => onward_expected _, fun _ => onward_expected _, onward_expected _,
        fun _ => onward_expected _, fun _ => onward_expected _, onward_expected _,
        onward_expected _⟩
  | succ depth ih =>
      exact ⟨onward_type _, onward_bound _, onward_genericParameter _, onward_expr _,
        onward_unary _, onward_pattern _, onward_alternatives _⟩

end Productions

end Wiring.Grammar.Reader
