import Wiring.Proofs.Grammar.Climbing

/-!
# Assignments

A name in front of an equals sign is an operand of its own, so an assignment to it is read like the
expression behind the sign. See `reads_expr_assigned`.
-/

set_option autoImplicit false

namespace Wiring.Grammar.Reader

section Names

variable {scope : Scope} {leftOver : Option LeftOver} {nested : Nested} {word : SyntaxTree}
  {ahead rest : List SyntaxTree}

theorem exists_of_name (named : Ahead.name ahead = true) :
    ∃ text line whole rest, ahead = .token .ident text line whole :: rest ∧
      Ahead.keywords.contains text = false := by
  unfold Ahead.name at named
  split at named
  · exact ⟨_, _, _, _, rfl, by simpa using named⟩
  · cases named

/-- What no identifier begins does not stand where a name does. -/
theorem not_ahead_of_name (named : Ahead.name ahead = true) (test : List SyntaxTree → Bool)
    (other : ∀ text line whole rest, test (.token .ident text line whole :: rest) = false) :
    test ahead = false := by
  obtain ⟨text, line, whole, rest, rfl, -⟩ := exists_of_name named
  exact other ..

theorem not_word_of_name (named : Ahead.name ahead = true) (text : String)
    (listed : Ahead.keywords.contains text = true) : Ahead.word text ahead = false := by
  obtain ⟨found, line, whole, rest, rfl, other⟩ := exists_of_name named
  refine Bool.eq_false_iff.mpr fun same => ?_
  rw [Ahead.word, beq_iff_eq] at same
  rw [same, listed] at other
  cases other

/-- Where an equals sign stands, nothing else does. -/
theorem not_ahead_of_equals (sign : Ahead.punct "=" rest = true) (test : List SyntaxTree → Bool)
    (other : ∀ line whole rest, test (.token .punct "=" line whole :: rest) = false)
    (joined : ∀ line whole rest, test (.token .joined "=" line whole :: rest) = false) :
    test rest = false := by
  obtain ⟨kind, line, whole, rest, rfl, rfl | rfl⟩ :=
    exists_of_punct sign (show "=".toList = ['='] from rfl)
  · exact other ..
  · exact joined ..

theorem reads_atom_name (named : Ahead.name (word :: rest) = true)
    (apart : Ahead.punct "#" rest = false) :
    reads (atom nested true) scope ⟨word :: rest, leftOver⟩ =
      reads (pathAtom nested true) scope ⟨word :: rest, leftOver⟩ := by
  have noKeyword := not_word_of_name named
  have literal : Ahead.literal (word :: rest) = false := by
    have noTrue := noKeyword "true" rfl
    have noFalse := noKeyword "false" rfl
    obtain ⟨text, line, whole, rest, same, -⟩ := exists_of_name named
    obtain ⟨rfl, rfl⟩ := List.cons.inj same
    rw [Ahead.literal, Bool.or_eq_false_iff]
    exact ⟨noTrue, noFalse⟩
  have closure : Ahead.closure (word :: rest) = false := by
    have noBar : Ahead.punct "|" (word :: rest) = false :=
      not_ahead_of_name named _ fun _ _ _ _ => rfl
    simp [Ahead.closure, Ahead.closureBinder, noBar, noKeyword "move" rfl, noKeyword "for" rfl,
      noKeyword "const" rfl, noKeyword "static" rfl, noKeyword "async" rfl]
  rw [atom, reads_bind, reads_ahead, Option.bind_some]
  simp [literal, closure, named, Ahead.second, apart, noKeyword "async" rfl, noKeyword "try" rfl]

/-- A name alone is read as a path of one segment. -/
theorem reads_path_name (named : Ahead.name (word :: rest) = true)
    (apart : Ahead.punct "::" rest = false) :
    reads (Reader.path nested true) scope ⟨word :: rest, leftOver⟩ =
      some (.node .path [.node .segment [word]], ⟨rest, leftOver⟩) := by
  have noKeyword := not_word_of_name named
  have noRoot : Ahead.punct "::" (word :: rest) = false :=
    not_ahead_of_name named _ fun _ _ _ _ => rfl
  have read : reads name scope ⟨word :: rest, leftOver⟩ = some (word, ⟨rest, leftOver⟩) := by
    obtain ⟨text, line, whole, rest, same, other⟩ := exists_of_name named
    obtain ⟨rfl, rfl⟩ := List.cons.inj same
    rw [reads_name_word, other]
    rfl
  have further : reads (segments nested true) scope ⟨rest, leftOver⟩ =
      some ([], ⟨rest, leftOver⟩) := by
    simp [segments, segments.loop, apart]
  simp [Reader.path, punct?, segment, noRoot, pathWords, noKeyword "super" rfl,
    noKeyword "self" rfl, noKeyword "crate" rfl, noKeyword "try" rfl, noKeyword "Self" rfl,
    read, apart, further, -bind_pure_comp]

/-- A name in front of an equals sign is read as an operand of its own. -/
theorem reads_unary_name (named : Ahead.name (word :: rest) = true)
    (sign : Ahead.punct "=" rest = true) :
    reads (unary nested true) scope ⟨word :: rest, leftOver⟩ =
      some (.node .pathExpr [.node .path [.node .segment [word]]], ⟨rest, leftOver⟩) := by
  have noMark (text : String) (other : ∀ found line whole rest,
      Ahead.punct text (.token .ident found line whole :: rest) = false) :
      Ahead.punct text (word :: rest) = false := not_ahead_of_name named _ other
  have behind := not_ahead_of_equals sign
  have noAttributes : reads (outerAttributes nested) scope ⟨word :: rest, leftOver⟩ =
      some ([], ⟨word :: rest, leftOver⟩) := by
    simp [outerAttributes, manyUntil, manyUntil.loop, noMark "#" fun _ _ _ _ => rfl]
  have path : reads (pathAtom nested true) scope ⟨word :: rest, leftOver⟩ =
      some (.node .pathExpr [.node .path [.node .segment [word]]], ⟨rest, leftOver⟩) := by
    have alone : reads (Reader.path nested true) scope ⟨word :: rest, leftOver⟩ = _ :=
      reads_path_name named (behind _ (fun _ _ _ => rfl) fun _ _ rest => by cases rest <;> rfl)
    simp [pathAtom, exprPath, qualifiedPath, noMark "<" fun _ _ _ _ => rfl, alone,
      behind (Ahead.punct "!") (fun _ _ _ => rfl) fun _ _ _ => rfl,
      behind (Ahead.group .brace) (fun _ _ _ => rfl) fun _ _ _ => rfl, -bind_pure_comp]
  have stays (base : SyntaxTree) : reads (trailers nested base) scope ⟨rest, leftOver⟩ =
      some (base, ⟨rest, leftOver⟩) := by
    obtain ⟨kind, line, whole, rest, rfl, rfl | rfl⟩ :=
      exists_of_punct sign (show "=".toList = ['='] from rfl)
    · rfl
    · rfl
  simp [unary, noAttributes, noMark "&" fun _ _ _ _ => rfl, noMark "*" fun _ _ _ _ => rfl,
    noMark "!" fun _ _ _ _ => rfl, noMark "-" fun _ _ _ _ => rfl,
    reads_atom_name named (behind _ (fun _ _ _ => rfl) fun _ _ _ => rfl), path, stays,
    SyntaxTree.hasKind]

/-! ## Assignments -/

theorem operator?_of_equals (sign : Ahead.punct "=" rest = true)
    (single : Ahead.punct "==" rest = false) : Ahead.operator? rest = none := by
  have begins : ∀ entry ∈ binaryOperators, entry.1.toList.head? = some '=' → entry.1 = "==" := by
    decide
  refine List.find?_eq_none.mpr fun entry listed found => ?_
  obtain ⟨first, more, chars⟩ :=
    List.exists_cons_of_ne_nil (mt String.toList_eq_nil_iff.mp (operator_of_mem listed).1)
  obtain ⟨kind, line, whole, after, rfl, -⟩ := exists_of_punct found chars
  obtain ⟨_, _, _, _, same, -⟩ := exists_of_punct sign (show "=".toList = ['='] from rfl)
  obtain ⟨token, -⟩ := List.cons.inj same
  obtain ⟨-, same, -⟩ := SyntaxTree.token.inj token
  obtain rfl : first = '=' := String.singleton_inj.mp same
  have isEqual := begins entry listed (by rw [chars, List.head?_cons])
  rw [isEqual, single] at found
  cases found

/-- An assignment takes an expression as its value, and further operators behind it. -/
theorem reads_expr_assigned [OnwardForms nested] {left : SyntaxTree} {before : ReaderState}
    (head : reads (nested (.unary true)) scope before = some (left, ⟨rest, leftOver⟩))
    (plain : left.hasKind .rangeExpr = false) (sign : Ahead.punct "=" rest = true)
    (single : Ahead.punct "==" rest = false) (noArrow : Ahead.punct "=>" rest = false) :
    ∃ equals, reads (expr nested true) scope before =
      (reads (expr nested true) scope ⟨rest.drop 1, leftOver⟩).bind fun step =>
        reads (climbs nested true (.node .otherExpr [left, equals, step.1]) .lowest) scope
          step.2 := by
  have noOperator := operator?_of_equals sign single
  have assign : Ahead.precedence rest = .assign := by
    rw [precedence_of_none noOperator, sign, noArrow]
    rfl
  have goesOn : climbsOn left .lowest rest = true := by
    rw [climbsOn, plain, assign]
    rfl
  refine ⟨.token .punct "=" (lineIn scope rest) (Ahead.isWhole_of_punct sign), ?_⟩
  have whole : reads (expr nested true) scope before =
      reads (nested (.unary true) >>= fun left => climbs nested true left .lowest) scope before :=
    rfl
  rw [whole, reads_bind, head, Option.bind_some, reads_climbs, if_pos goesOn, reads_bind, climbStep,
    reads_bind, reads_ahead, Option.bind_some]
  dsimp only
  rw [noOperator]
  dsimp only
  rw [sign, noArrow, Bool.not_false, Bool.and_true, if_pos rfl, reads_bind,
    reads_punct_of sign (rfl : _ = 1), Option.bind_some, reads_bind, reads_operands_assign,
    Option.bind_assoc]
  rfl

end Names

end Wiring.Grammar.Reader
