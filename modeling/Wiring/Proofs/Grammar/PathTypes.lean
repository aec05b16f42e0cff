import Wiring.Grammar.Parse
import Wiring.Proofs.Grammar.Reading

/-!
# Paths as types

Where a type begins with a word that may stand in a path, or with colons, it is the type of that
path. See `reads_typeForm_of_path`.
-/

set_option autoImplicit false

namespace Wiring.Grammar.Reader

def beginsType (tokens : List SyntaxTree) : Bool :=
  Ahead.name tokens || Ahead.pathWord tokens || Ahead.punct "::" tokens

section Types

variable {scope : Scope} {tokens : List SyntaxTree} {nested : Nested} {path : SyntaxTree}

theorem exists_of_beginsType (begins : beginsType tokens = true) :
    (∃ text line whole rest, tokens = .token .ident text line whole :: rest ∧
      (text ∈ ["super", "self", "Self", "crate"] ∨ Ahead.keywords.contains text = false)) ∨
    ∃ line whole rest, tokens = .token .joined ":" line whole :: rest := by
  rw [beginsType, Bool.or_eq_true, Bool.or_eq_true] at begins
  obtain (named | word) | separator := begins
  · unfold Ahead.name at named
    split at named
    · exact .inl ⟨_, _, _, _, rfl, .inr (by simpa using named)⟩
    · cases named
  · have listed (text : String) (found : Ahead.word text tokens = true) :
        ∃ line whole rest, tokens = .token .ident text line whole :: rest := by
      unfold Ahead.word at found
      split at found
      · obtain rfl := eq_of_beq found
        exact ⟨_, _, _, rfl⟩
      · cases found
    simp only [Ahead.pathWord, Bool.or_eq_true] at word
    obtain ((found | found) | found) | found := word
    all_goals
      obtain ⟨line, whole, rest, rfl⟩ := listed _ found
      exact .inl ⟨_, line, whole, rest, rfl, .inl (by decide)⟩
  · obtain ⟨line, whole, rest, rfl, -⟩ :=
      exists_of_pair separator (show "::".toList = [':', ':'] from rfl)
    exact .inr ⟨line, whole, rest, rfl⟩

/-- What neither a word nor a colon begins does not stand at the head of a path. -/
theorem not_ahead_of_beginsType (begins : beginsType tokens = true)
    (test : List SyntaxTree → Bool)
    (word : ∀ text line whole rest, test (.token .ident text line whole :: rest) = false)
    (colon : ∀ line whole rest, test (.token .joined ":" line whole :: rest) = false) :
    test tokens = false := by
  obtain ⟨text, line, whole, rest, rfl, -⟩ | ⟨line, whole, rest, rfl⟩ :=
    exists_of_beginsType begins
  · exact word ..
  · exact colon ..

theorem not_word_of_beginsType {text : String} (begins : beginsType tokens = true)
    (other : text ∉ ["super", "self", "Self", "crate"])
    (keyword : Ahead.keywords.contains text = true) : Ahead.word text tokens = false := by
  obtain ⟨found, line, whole, rest, rfl, fit⟩ | ⟨line, whole, rest, rfl⟩ :=
    exists_of_beginsType begins
  · refine Bool.eq_false_iff.mpr fun word => ?_
    obtain rfl : found = text := eq_of_beq word
    obtain listed | noKeyword := fit
    · exact other listed
    · rw [keyword] at noKeyword
      cases noKeyword
  · rfl

theorem reads_namedType (opens : Ahead.punct "<" tokens = false)
    (read : reads (Reader.path nested false) scope ⟨tokens, none⟩ = some (path, ⟨[], none⟩)) :
    reads (namedType nested [] true) scope ⟨tokens, none⟩ =
      some (.node .pathType [path], ⟨[], none⟩) := by
  have qualified : reads (qualifiedPath nested false .pathType .qualifiedType) scope
      ⟨tokens, none⟩ = some (.node .pathType [path], ⟨[], none⟩) := by
    rw [qualifiedPath, reads_bind, reads_peek, Option.bind_some, reads_ite]
    dsimp only
    rw [opens, if_neg Bool.false_ne_true, reads_bind, read]
    rfl
  rw [namedType, reads_bind, qualified]
  rfl

/-- A path that reaches to the end is a type. -/
theorem reads_typeForm_of_path {depth : Nat} (begins : beginsType tokens = true)
    (read : reads (Reader.path (nonterminal (depth + 1)) false) scope ⟨tokens, none⟩ =
      some (path, ⟨[], none⟩)) :
    reads (typeForm (nonterminal (depth + 2))) scope ⟨tokens, none⟩ =
      some (.node .pathType [path], ⟨[], none⟩) := by
  have opens : Ahead.punct "<" tokens = false :=
    not_ahead_of_beginsType begins _ (fun _ _ _ _ => rfl) fun _ _ _ => rfl
  have noGroup : Ahead.group .parenthesis tokens = false :=
    not_ahead_of_beginsType begins _ (fun _ _ _ _ => rfl) fun _ _ _ => rfl
  have noWord (text : String) (other : text ∉ ["super", "self", "Self", "crate"])
      (keyword : Ahead.keywords.contains text = true) : Ahead.word text tokens = false :=
    not_word_of_beginsType begins other keyword
  have unbound (parameter : Reader SyntaxTree) :
      reads (binder parameter) scope ⟨tokens, none⟩ = some ([], ⟨tokens, none⟩) := by
    rw [binder, reads_bind, reads_peek, Option.bind_some, noWord "for" (by decide) rfl]
    rfl
  show reads (Reader.type (nonterminal (depth + 1)) true) scope _ = _
  -- Of all that may begin a type only a path is left, as no token of it is another keyword.
  rw [Reader.type, reads_bind, unbound, Option.bind_some, reads_bind, reads_ahead,
    Option.bind_some]
  dsimp only
  rw [noWord "fn" (by decide) rfl, noWord "unsafe" (by decide) rfl,
    noWord "extern" (by decide) rfl, noGroup, opens, Bool.or_false]
  rw [beginsType] at begins
  rw [begins]
  exact reads_namedType opens read

end Types

end Wiring.Grammar.Reader
