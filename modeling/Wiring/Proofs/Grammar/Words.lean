import Wiring.Grammar.Lexer

/-!
# Words and what separates them

Words with `::` between them, with or without spaces around, lex to the words and the colons. See
`exists_lex_spelled`.
-/

set_option autoImplicit false

namespace Wiring.Grammar

open Wiring.Text

/-! ## Words -/

def isWord (name : String) : Bool :=
  match name.toList with
  | 'r' :: '#' :: base => isIdentifierText base && !neverRaw.contains (String.ofList base)
  | cs => isIdentifierText cs

/-- Whether what stands behind a word is the end, a space or a colon. -/
def Stops (rest : List Char) : Prop :=
  ∀ c ∈ rest.head?, c = ':' ∨ c = ' '

theorem Stops.not_continue {c : Char} {rest : List Char} (stops : Stops (c :: rest)) :
    isIdentifierContinue c = false := by
  rcases stops c rfl with rfl | rfl <;> decide

section Characters

variable {c : Char}

theorem isIdentifierContinue_of_start (start : isIdentifierStart c = true) :
    isIdentifierContinue c = true := by
  simp only [isIdentifierStart, isIdentifierContinue, Char.isAlphanum, Bool.or_eq_true,
    Bool.and_eq_true] at start ⊢
  rcases start with (alpha | underscore) | ⟨large, inside⟩
  · exact .inl (.inl (.inl alpha))
  · exact .inl (.inr underscore)
  · exact .inr ⟨large, .inl inside⟩

theorem toNat_ne_of_start (start : isIdentifierStart c = true) {n : Nat}
    (other : isIdentifierStart (Char.ofNat n) = false) : c.toNat ≠ n := by
  rintro rfl
  rw [Char.ofNat_toNat, start] at other
  cases other

theorem le_toNat_of_start (start : isIdentifierStart c = true) : 65 ≤ c.toNat := by
  have none_small : ∀ n < 65, isIdentifierStart (Char.ofNat n) = false := by decide
  exact Nat.le_of_not_lt fun small => toNat_ne_of_start start (none_small c.toNat small) rfl

def lateBlanks : List Nat :=
  [0x85, 0xa0, 0x1680, 0x2000, 0x2001, 0x2002, 0x2003, 0x2004, 0x2005, 0x2006, 0x2007, 0x2008,
    0x2009, 0x200a, 0x200e, 0x200f, 0x2028, 0x2029, 0x202f, 0x205f, 0x3000, 0xfeff]

theorem not_isBlank_of_start (start : isIdentifierStart c = true) :
    isBlank c = false ∧ c.toNat ≠ 0xfeff := by
  have none_blank : ∀ n ∈ lateBlanks, isIdentifierStart (Char.ofNat n) = false := by
    decide +kernel
  have large := le_toNat_of_start start
  have other : ∀ n ∈ lateBlanks, c.toNat ≠ n :=
    fun n member => toNat_ne_of_start start (none_blank n member)
  simp only [lateBlanks, List.forall_mem_cons] at other
  refine ⟨?_, by omega⟩
  rw [Bool.eq_false_iff]
  intro blank
  simp only [isBlank, isWhiteSpace, inRanges, whiteSpaceRanges, List.any_cons, List.any_nil,
    Bool.or_eq_true, Bool.and_eq_true, decide_eq_true_eq, beq_iff_eq, Bool.false_eq_true,
    or_false] at blank
  omega

end Characters

/-! ## What begins no word -/

section Heads

variable {cs rest : List Char}

/-- Whether a text goes on with something that is neither part of a word nor ends one. -/
def breaksOff (lead : String) : Bool :=
  (lead.toList.dropWhile isIdentifierContinue).head?.any fun c => c != ':' && c != ' '

theorem dropLead?_of_breaksOff {lead : String} (broken : breaksOff lead = true)
    (word : cs.all isIdentifierContinue = true) (stops : Stops rest) :
    dropLead? lead (cs ++ rest) = none := by
  have apart : lead.toList.isPrefixOf (cs ++ rest) = false := by
    unfold breaksOff at broken
    generalize lead.toList = front at broken
    induction front generalizing cs with
    | nil => cases broken
    | cons head front ih =>
        cases cs with
        | nil =>
            cases rest with
            | nil => rfl
            | cons c rest =>
                rw [List.nil_append, List.isPrefixOf_cons_cons, Bool.and_eq_false_iff]
                left
                rw [beq_eq_false_iff_ne]
                rintro rfl
                rw [List.dropWhile_cons_of_neg (by simp [stops.not_continue])] at broken
                rcases stops head rfl with rfl | rfl <;> simp at broken
        | cons c cs =>
            rw [List.cons_append, List.isPrefixOf_cons_cons, Bool.and_eq_false_iff]
            by_cases same : head = c
            · subst same
              rw [List.all_cons, Bool.and_eq_true] at word
              rw [List.dropWhile_cons_of_pos word.1] at broken
              exact .inr (ih word.2 broken)
            · exact .inl (by simpa using same)
  rw [dropLead?, apart, if_neg Bool.false_ne_true]

theorem exists_of_dropLead? {lead : String} (plain : lead.toList.all isIdentifierContinue = true)
    (word : cs.all isIdentifierContinue = true) (stops : Stops rest) {after : List Char}
    (dropped : dropLead? lead (cs ++ rest) = some after) :
    ∃ tail, after = tail ++ rest ∧ tail.all isIdentifierContinue = true := by
  obtain ⟨begins, same⟩ := Option.ite_none_right_eq_some.mp dropped
  have length : lead.length = lead.toList.length := String.length_toList.symm
  rw [length] at same
  obtain rfl := Option.some.inj same
  clear dropped same length
  generalize lead.toList = front at plain begins
  induction front generalizing cs with
  | nil => exact ⟨cs, rfl, word⟩
  | cons head front ih =>
      rw [List.all_cons, Bool.and_eq_true] at plain
      cases cs with
      | nil =>
          cases rest with
          | nil => cases begins
          | cons c rest =>
              rw [List.nil_append, List.isPrefixOf_cons_cons, Bool.and_eq_true,
                beq_iff_eq] at begins
              obtain ⟨rfl, -⟩ := begins
              rw [stops.not_continue] at plain
              cases plain.1
      | cons c cs =>
          rw [List.all_cons, Bool.and_eq_true] at word
          rw [List.cons_append, List.isPrefixOf_cons_cons, Bool.and_eq_true] at begins
          exact ih word.2 plain.2 begins.2

theorem rawText?_eq_none (form : StringForm) (word : cs.all isIdentifierContinue = true)
    (stops : Stops rest) : form.rawText? (cs ++ rest) = none := by
  have head : ∀ c ∈ (cs ++ rest).head?, c ≠ '#' ∧ c ≠ '\"' := by
    intro c first
    cases cs with
    | nil => rcases stops c first with rfl | rfl <;> decide
    | cons d cs =>
        obtain rfl : d = c := Option.some.inj first
        rw [List.all_cons, Bool.and_eq_true] at word
        constructor
        · rintro rfl
          exact absurd word.1 (by decide)
        · rintro rfl
          exact absurd word.1 (by decide)
  generalize cs ++ rest = text at head
  cases text with
  | nil => rfl
  | cons c text =>
      obtain ⟨noSign, noQuote⟩ := head c rfl
      have hashes : ((c :: text).takeWhile (· == '#')).length = 0 := by
        rw [List.takeWhile_cons_of_neg (by simpa using noSign)]
        rfl
      rw [StringForm.rawText?, hashes, List.drop_zero]
      split
      · rename_i same
        exact absurd (List.cons.inj same).1 noQuote
      · rfl

theorem literalEnd?_form_eq_none (form : StringForm) {quoteLead rawLead : String}
    (broken : breaksOff quoteLead = true)
    (plain : rawLead.toList.all isIdentifierContinue = true)
    (word : cs.all isIdentifierContinue = true) (stops : Stops rest) :
    form.literalEnd? quoteLead rawLead (cs ++ rest) = none := by
  rw [StringForm.literalEnd?, dropLead?_of_breaksOff broken word stops]
  dsimp only
  split
  · rename_i after dropped
    obtain ⟨tail, rfl, inside⟩ := exists_of_dropLead? plain word stops dropped
    exact rawText?_eq_none form inside stops
  · rfl

theorem not_isDigit_of_start {c : Char} (start : isIdentifierStart c = true) :
    c.isDigit = false := by
  have large : 65 ≤ c.val.toNat := le_toNat_of_start start
  rw [Char.isDigit, Bool.and_eq_false_iff]
  right
  simp only [decide_eq_false_iff_not, UInt32.le_iff_toNat_le]
  exact Nat.not_le.mpr (Nat.lt_of_lt_of_le (by decide) large)

theorem floatEnd?_eq_none {c : Char} (start : isIdentifierStart c = true) (text : List Char) :
    floatEnd? (c :: text) = none := by
  rw [floatEnd?, not_isDigit_of_start start, if_neg Bool.false_ne_true]

theorem intEnd?_eq_none {c : Char} (start : isIdentifierStart c = true) (text : List Char) :
    intEnd? (c :: text) = none := by
  have noZero (second : Char) (rest : List Char) : c :: text ≠ '0' :: second :: rest := by
    intro same
    rw [(List.cons.inj same).1] at start
    exact absurd start (by decide)
  have noDigit : ('0' ≤ c && c ≤ '9') = false := not_isDigit_of_start start
  have large : ∀ digit, hexValue? c = some digit → ¬digit < 10 := by
    intro digit value
    rw [hexValue?, noDigit, if_neg Bool.false_ne_true] at value
    split at value
    · obtain rfl := Option.some.inj value
      omega
    · split at value
      · obtain rfl := Option.some.inj value
        omega
      · cases value
  have digits : intDigitsEnd? 10 false (c :: text) = none ∨
      intDigitsEnd? 10 false (c :: text) = some (false, c :: text) := by
    rw [intDigitsEnd?, not_isDigit_of_start start, if_neg Bool.false_ne_true]
    split
    · exact .inl rfl
    · cases value : hexValue? c with
      | none => exact .inr rfl
      | some digit =>
          dsimp only
          rw [if_neg (large digit value)]
          exact .inr rfl
  unfold intEnd?
  split
  · exact absurd ‹_› (noZero _ _)
  · exact absurd ‹_› (noZero _ _)
  · exact absurd ‹_› (noZero _ _)
  · rcases digits with refused | started
    · rw [refused]
    · rw [started]

end Heads

/-! ## The tokens of a path -/

section Tokens

variable {c : Char} {cs rest : List Char}

theorem tokenEnd?_ident {text : List Char} (literal : literalEnd? text = none)
    (noTick : ∀ after, text ≠ '\'' :: after) (noPunct : startsPunct text = false)
    (leads : ∀ lead ∈ literalLeads, dropLead? lead text = none)
    (ends : anyIdentifierEnd? text = some rest) : tokenEnd? text = some (.ident, rest) := by
  have noLead : (literalLeads.any fun lead => (dropLead? lead text).isSome) = false := by
    rw [List.any_eq_false]
    intro lead member
    rw [leads lead member]
    exact Bool.false_ne_true
  rw [tokenEnd?, literal]
  · dsimp only
    rw [noPunct, if_neg Bool.false_ne_true, noLead, if_neg Bool.false_ne_true, ends]
    rfl
  · exact noTick

theorem not_startsPunct_of_start (start : isIdentifierStart c = true) (text : List Char) :
    startsPunct (c :: text) = false := by
  have all : (punctuation.all fun mark => !isIdentifierStart mark) = true := by decide
  rw [Bool.eq_false_iff]
  intro punct
  obtain ⟨mark, member, after, same⟩ := exists_of_startsPunct punct
  have other := List.all_eq_true.mp all mark member
  rw [← (List.cons.inj same).1, start] at other
  cases other

theorem identifierEnd?_of_stops (start : isIdentifierStart c = true)
    (word : cs.all isIdentifierContinue = true) (stops : Stops rest) :
    identifierEnd? (c :: cs ++ rest) = some rest := by
  have stopped : rest.dropWhile isIdentifierContinue = rest := by
    cases rest with
    | nil => rfl
    | cons d rest => exact List.dropWhile_cons_of_neg (by simp [stops.not_continue])
  rw [List.cons_append, identifierEnd?, if_pos start,
    List.dropWhile_append_of_pos (List.all_eq_true.mp word), stopped]

theorem tokenEnd?_plain (start : isIdentifierStart c = true)
    (word : cs.all isIdentifierContinue = true) (stops : Stops rest) :
    tokenEnd? (c :: cs ++ rest) = some (.ident, rest) := by
  have whole : (c :: cs).all isIdentifierContinue = true := by
    rw [List.all_cons, isIdentifierContinue_of_start start, word]
    rfl
  have broken : ∀ lead ∈ literalLeads, breaksOff lead = true := by decide
  refine tokenEnd?_ident ?_ ?_ (not_startsPunct_of_start start _)
    (fun lead member => dropLead?_of_breaksOff (broken lead member) whole stops) ?_
  · rw [literalEnd?, literalEnd?_form_eq_none _ (by decide) (by decide) whole stops,
      literalEnd?_form_eq_none _ (by decide) (by decide) whole stops,
      literalEnd?_form_eq_none _ (by decide) (by decide) whole stops,
      dropLead?_of_breaksOff (by decide) whole stops,
      dropLead?_of_breaksOff (by decide) whole stops,
      List.cons_append, floatEnd?_eq_none start, intEnd?_eq_none start]
    rfl
  · intro after same
    rw [(List.cons.inj same).1] at start
    exact absurd start (by decide)
  · rw [anyIdentifierEnd?]
    · exact identifierEnd?_of_stops start word stops
    · intro after same
      -- No number sign stands behind the first character.
      have raw : dropLead? "r#" (c :: cs ++ rest) = some after := by
        rw [same]
        rfl
      rw [dropLead?_of_breaksOff (by decide) whole stops] at raw
      cases raw

theorem tokenEnd?_raw (start : isIdentifierStart c = true)
    (word : cs.all isIdentifierContinue = true)
    (allowed : neverRaw.contains (String.ofList (c :: cs)) = false) (stops : Stops rest) :
    tokenEnd? ('r' :: '#' :: c :: cs ++ rest) = some (.ident, rest) := by
  have noQuote : c ≠ '\"' := by
    rintro rfl
    exact absurd start (by decide)
  have noSign : c ≠ '#' := by
    rintro rfl
    exact absurd start (by decide)
  refine tokenEnd?_ident ?_ ?_ rfl ?_ ?_
  · have quoted : StringForm.text.literalEnd? "\"" "r" ('r' :: '#' :: c :: cs ++ rest) =
        StringForm.text.rawText? ('#' :: c :: cs ++ rest) := rfl
    have hashes : (('#' :: c :: cs ++ rest).takeWhile (· == '#')).length = 1 := by
      rw [List.cons_append, List.cons_append, List.takeWhile_cons_of_pos rfl,
        List.takeWhile_cons_of_neg (by simpa using noSign)]
      rfl
    have raw : StringForm.text.rawText? ('#' :: c :: cs ++ rest) = none := by
      rw [StringForm.rawText?, hashes]
      split
      · rename_i same
        exact absurd (List.cons.inj same).1 noQuote
      · rfl
    rw [literalEnd?, quoted, raw]
    rfl
  · intro after same
    exact absurd (List.cons.inj same).1 (by decide)
  · simp [literalLeads, dropLead?, noQuote.symm, noSign.symm]
  · have name : identifierEnd? (c :: cs ++ rest) = some rest :=
      identifierEnd?_of_stops start word stops
    have taken : (c :: cs ++ rest).take ((c :: cs ++ rest).length - rest.length) = c :: cs := by
      rw [List.length_append, Nat.add_sub_cancel, List.take_left]
    simp only [List.cons_append] at name taken ⊢
    rw [anyIdentifierEnd?, name]
    dsimp only
    rw [taken, allowed, if_neg Bool.false_ne_true]

theorem noBreak_of_word (word : cs.all isIdentifierContinue = true) : '\n' ∉ cs :=
  fun member => absurd (List.all_eq_true.mp word _ member) (by decide)

/-- The characters of a word: the first one begins an identifier, and the token ends with them. -/
theorem exists_of_isWord {name : String} (word : isWord name = true) :
    ∃ c cs, name.toList = c :: cs ∧ isIdentifierStart c = true ∧ '\n' ∉ name.toList ∧
      ∀ rest, Stops rest → tokenEnd? (name.toList ++ rest) = some (.ident, rest) := by
  have noBreak {c : Char} {cs : List Char} (start : isIdentifierStart c = true)
      (inside : cs.all isIdentifierContinue = true) : '\n' ∉ c :: cs :=
    noBreak_of_word (List.all_cons ▸ Bool.and_eq_true_iff.mpr
      ⟨isIdentifierContinue_of_start start, inside⟩)
  unfold isWord at word
  split at word
  · rename_i base same
    rw [Bool.and_eq_true, Bool.not_eq_true'] at word
    obtain ⟨text, allowed⟩ := word
    cases base with
    | nil => cases text
    | cons c cs =>
        obtain ⟨start, inside⟩ := Bool.and_eq_true_iff.mp text
        refine ⟨'r', '#' :: c :: cs, same, by decide, ?_, fun rest stops => ?_⟩
        · rw [same]
          simpa using noBreak start inside
        · rw [same]
          exact tokenEnd?_raw start inside allowed stops
  · cases same : name.toList with
    | nil =>
        rw [same] at word
        cases word
    | cons c cs =>
        rw [same] at word
        obtain ⟨start, inside⟩ := Bool.and_eq_true_iff.mp word
        exact ⟨c, cs, rfl, start, noBreak start inside,
          fun rest stops => tokenEnd?_plain start inside stops⟩

end Tokens

/-! ## Lexemes -/

/-- Tokens at a line that spell words with `::` between them. -/
inductive Spelled (line : Nat) : List String → List SyntaxTree → Prop where
  | last (name : String) (whole : isWhole (TokenKind.ident == .joined) name = true) :
      Spelled line [name] [.token .ident name line whole]
  | more (name : String) (whole : isWhole (TokenKind.ident == .joined) name = true)
      (first : isWhole (TokenKind.joined == .joined) ":" = true)
      (second : isWhole (TokenKind.punct == .joined) ":" = true)
      {names : List String} {tokens : List SyntaxTree} (rest : Spelled line names tokens) :
      Spelled line (name :: names) (.token .ident name line whole ::
        .token .joined ":" line first :: .token .punct ":" line second :: tokens)

/-- Words with `::` between them, and a gap on both sides of it. -/
def spell (gap : List Char) : List String → List Char
  | [] => []
  | [name] => name.toList
  | name :: rest => name.toList ++ gap ++ "::".toList ++ gap ++ spell gap rest

/-- Tokens of a path, which may begin with colons. -/
inductive SpelledPath (line : Nat) : Bool → List String → List SyntaxTree → Prop where
  | plain {names : List String} {tokens : List SyntaxTree} (words : Spelled line names tokens) :
      SpelledPath line false names tokens
  | rooted (first : isWhole (TokenKind.joined == .joined) ":" = true)
      (second : isWhole (TokenKind.punct == .joined) ":" = true) {names : List String}
      {tokens : List SyntaxTree} (words : Spelled line names tokens) :
      SpelledPath line true names
        (.token .joined ":" line first :: .token .punct ":" line second :: tokens)

def spellPath (gap : List Char) (rooted : Bool) (names : List String) : List Char :=
  if rooted then "::".toList ++ (gap ++ spell gap names) else spell gap names

section Lexemes

variable {gap front rest : List Char} {tree : SyntaxTree}

theorem blankEnd?_of_start {c : Char} (start : isIdentifierStart c = true) (text : List Char) :
    blankEnd? (c :: text) = none := by
  have noSlash : c ≠ '/' := by
    rintro rfl
    exact absurd start (by decide)
  have noBlank := (not_isBlank_of_start start).1
  unfold blankEnd?
  split <;> simp_all

theorem nextLexemes_token (line : Nat) {c : Char} {text tail : List Char} {kind : TokenKind}
    {found : String} (begins : text = c :: tail) (noSlash : c ≠ '/')
    (noBracket : c ∉ ['(', ')', '[', ']', '\x7b', '\x7d'])
    (ends : tokenEnd? text = some (kind, rest)) (taken : frontOf text rest = found) :
    ∃ whole, nextLexemes line text = ([.tree (.token kind found line whole)], rest) := by
  subst begins taken
  have noDoc : docComment? (c :: tail) = none := by
    unfold docComment?
    split <;> simp_all
  simp only [List.mem_cons, List.not_mem_nil, or_false, not_or] at noBracket
  have noMark : dropLead? errorMark (c :: tail) = none := by
    have begins : errorMark.toList = '(' :: "/*ERROR*/)".toList := by decide
    rw [dropLead?, begins, List.isPrefixOf_cons_cons, beq_false_of_ne (Ne.symm noBracket.1)]
    rfl
  have opens : opening? c = none := by simp [opening?, noBracket]
  have closes : closing? c = none := by simp [closing?, noBracket]
  refine ⟨isWhole_of_tokenEnd? ends, ?_⟩
  unfold nextLexemes
  rw [noDoc]
  dsimp only
  rw [noMark]
  dsimp only
  rw [opens, closes]
  dsimp only
  split
  · rename_i found after same
    rw [ends] at same
    cases same
    rfl
  · rename_i same
    rw [ends] at same
    cases same

theorem skipBlanks_gap (spaces : ∀ c ∈ gap, c = ' ') (fuel : Nat) (enough : gap.length ≤ fuel)
    (ends : blankEnd? rest = none) : skipBlanks fuel (gap ++ rest) = rest := by
  induction gap generalizing fuel with
  | nil =>
      cases fuel with
      | zero => rfl
      | succ fuel => rw [List.nil_append, skipBlanks, ends]
  | cons c gap ih =>
      rw [List.forall_mem_cons] at spaces
      obtain ⟨rfl, spaces⟩ := spaces
      cases fuel with
      | zero => cases enough
      | succ fuel =>
          have blank : blankEnd? (' ' :: (gap ++ rest)) = some (gap ++ rest) := rfl
          rw [List.cons_append, skipBlanks, blank]
          exact ih spaces fuel (Nat.le_of_succ_le_succ enough)

theorem lineAfter_of_noBreak (line : Nat) (noBreak : '\n' ∉ front) (rest : List Char) :
    lineAfter line (front ++ rest) rest = line := by
  rw [lineAfter, List.length_append, Nat.add_sub_cancel, List.take_left,
    List.countP_eq_zero.mpr fun c member => ?_, Nat.add_zero]
  rw [beq_iff_eq]
  rintro rfl
  exact noBreak member

theorem lexemesFrom_token (line fuel : Nat) (spaces : ∀ c ∈ gap, c = ' ') (nonempty : front ≠ [])
    (noBreak : '\n' ∉ front) (starts : blankEnd? (front ++ rest) = none)
    (next : nextLexemes line (front ++ rest) = ([.tree tree], rest)) :
    lexemesFrom (fuel + 1) line (gap ++ (front ++ rest)) =
      .tree tree :: lexemesFrom fuel line rest := by
  have skipped : skipBlanks (gap ++ (front ++ rest)).length (gap ++ (front ++ rest)) =
      front ++ rest :=
    skipBlanks_gap spaces _ (by rw [List.length_append]; exact Nat.le_add_right ..) starts
  have noBreakInGap : '\n' ∉ gap := fun member => absurd (spaces _ member) (by decide)
  have some_left : (front ++ rest).isEmpty = false := by simp [nonempty]
  rw [lexemesFrom, skipped, lineAfter_of_noBreak line noBreakInGap]
  dsimp only
  rw [some_left, if_neg Bool.false_ne_true, next, lineAfter_of_noBreak line noBreak]
  rfl

theorem nextLexemes_colon (line : Nat) {kind : TokenKind} {text : List Char}
    (follows : (if startsPunct text then .joined else .punct) = kind) :
    ∃ whole, nextLexemes line (':' :: text) = ([.tree (.token kind ":" line whole)], text) := by
  subst follows
  exact nextLexemes_token line rfl (by decide) (by decide) rfl (frontOf_append [':'] text)

theorem lexemesFrom_word (line fuel : Nat) {name : String} (word : isWord name = true)
    (spaces : ∀ c ∈ gap, c = ' ') (stops : Stops rest) :
    ∃ whole, lexemesFrom (fuel + 1) line (gap ++ (name.toList ++ rest)) =
      .tree (.token .ident name line whole) :: lexemesFrom fuel line rest := by
  obtain ⟨c, cs, same, start, noBreak, tokens⟩ := exists_of_isWord word
  have ends := tokens rest stops
  have text : frontOf (name.toList ++ rest) rest = name := by
    rw [frontOf_append, String.ofList_toList]
  have all : (['/', '(', ')', '[', ']', '\x7b', '\x7d'].all fun mark =>
      !isIdentifierStart mark) = true := by decide
  have other : ∀ mark ∈ ['/', '(', ')', '[', ']', '\x7b', '\x7d'], c ≠ mark := by
    rintro mark member rfl
    have apart := List.all_eq_true.mp all c member
    rw [start] at apart
    cases apart
  rw [List.forall_mem_cons] at other
  have begins : blankEnd? (name.toList ++ rest) = none := by
    rw [same]
    exact blankEnd?_of_start start _
  have first : name.toList ++ rest = c :: (cs ++ rest) := by rw [same, List.cons_append]
  obtain ⟨whole, next⟩ := nextLexemes_token line first other.1
    (fun member => other.2 c member rfl) ends text
  exact ⟨whole, lexemesFrom_token line fuel spaces (by simp [same]) noBreak begins next⟩

/-- Two colons between words are two lexemes, the first of them joined to the second. -/
theorem lexemesFrom_colons (line fuel : Nat) (spaces : ∀ c ∈ gap, c = ' ')
    (apart : startsPunct rest = false) :
    ∃ first second, lexemesFrom (fuel + 2) line (gap ++ ("::".toList ++ rest)) =
      .tree (.token .joined ":" line first) :: .tree (.token .punct ":" line second) ::
        lexemesFrom fuel line rest := by
  obtain ⟨first, joined⟩ : ∃ whole, nextLexemes line (':' :: ':' :: rest) =
      ([.tree (.token .joined ":" line whole)], ':' :: rest) := nextLexemes_colon line rfl
  obtain ⟨second, alone⟩ : ∃ whole, nextLexemes line (':' :: rest) =
      ([.tree (.token .punct ":" line whole)], rest) := nextLexemes_colon line (by rw [apart]; rfl)
  have noBreak : '\n' ∉ [':'] := by decide
  have early : lexemesFrom (fuel + 2) line (gap ++ ([':'] ++ ':' :: rest)) = _ :=
    lexemesFrom_token line (fuel + 1) spaces (List.cons_ne_nil _ _) noBreak rfl joined
  have late : lexemesFrom (fuel + 1) line ([] ++ ([':'] ++ rest)) = _ :=
    lexemesFrom_token line fuel (List.forall_mem_nil _) (List.cons_ne_nil _ _) noBreak rfl alone
  exact ⟨first, second, early.trans (congrArg _ late)⟩

theorem stops_colons (spaces : ∀ c ∈ gap, c = ' ') (text : List Char) :
    Stops (gap ++ ("::".toList ++ text)) := by
  intro c head
  cases gap with
  | nil =>
      obtain rfl : ':' = c := Option.some.inj head
      exact .inl rfl
  | cons blank gap =>
      obtain rfl : blank = c := Option.some.inj head
      exact .inr (spaces blank List.mem_cons_self)

theorem spell_cons (gap : List Char) (name : String) {rest : List String} (nonempty : rest ≠ []) :
    spell gap (name :: rest) =
      name.toList ++ (gap ++ ("::".toList ++ (gap ++ spell gap rest))) := by
  cases rest with
  | nil => exact absurd rfl nonempty
  | cons second rest => simp only [spell, List.append_assoc]

theorem exists_of_spell {names : List String} (nonempty : names ≠ [])
    (words : ∀ name ∈ names, isWord name = true) (gap : List Char) :
    ∃ c cs, spell gap names = c :: cs ∧ isIdentifierStart c = true := by
  obtain ⟨name, rest, rfl⟩ := List.exists_cons_of_ne_nil nonempty
  obtain ⟨c, cs, same, start, -⟩ := exists_of_isWord (words name List.mem_cons_self)
  by_cases last : rest = []
  · subst last
    exact ⟨c, cs, same, start⟩
  · rw [spell_cons gap name last, same]
    exact ⟨c, _, rfl, start⟩

theorem not_startsPunct_spell (spaces : ∀ c ∈ gap, c = ' ') {names : List String}
    (nonempty : names ≠ []) (words : ∀ name ∈ names, isWord name = true) :
    startsPunct (gap ++ spell gap names) = false := by
  cases same : gap with
  | nil =>
      obtain ⟨c, cs, text, start⟩ := exists_of_spell nonempty words []
      rw [List.nil_append, text]
      exact not_startsPunct_of_start start cs
  | cons blank more =>
      obtain rfl := spaces blank (by rw [same]; exact List.mem_cons_self)
      rfl

theorem lexemesFrom_nil (fuel line : Nat) : lexemesFrom fuel line [] = [] := by
  cases fuel <;> rfl

theorem exists_lexemesFrom_spell (line : Nat) (spaces : ∀ c ∈ gap, c = ' ') {names : List String}
    (nonempty : names ≠ []) (words : ∀ name ∈ names, isWord name = true) {lead : List Char}
    (leading : ∀ c ∈ lead, c = ' ') {fuel : Nat}
    (enough : (lead ++ spell gap names).length < fuel) :
    ∃ tokens, Spelled line names tokens ∧
      lexemesFrom fuel line (lead ++ spell gap names) = tokens.map .tree := by
  induction names generalizing lead fuel with
  | nil => exact absurd rfl nonempty
  | cons name rest ih =>
      rw [List.forall_mem_cons] at words
      by_cases last : rest = []
      · subst last
        obtain ⟨less, rfl⟩ := Nat.exists_eq_add_one_of_ne_zero (Nat.ne_zero_of_lt enough)
        have stops : Stops [] := fun _ head => by cases head
        obtain ⟨whole, lexed⟩ := lexemesFrom_word line less words.1 leading stops
        rw [List.append_nil, lexemesFrom_nil] at lexed
        exact ⟨_, .last name whole, lexed⟩
      · rw [spell_cons gap name last] at enough ⊢
        have two : "::".toList.length = 2 := rfl
        obtain ⟨less, rfl⟩ : ∃ less, fuel = less + 3 :=
          Nat.exists_eq_add_of_le' (by simp only [List.length_append, two] at enough; omega)
        have shorter : (gap ++ spell gap rest).length < less := by
          obtain ⟨c, cs, same, -⟩ := exists_of_isWord words.1
          simp only [List.length_append, two, same, List.length_cons] at enough ⊢
          omega
        obtain ⟨whole, word⟩ := lexemesFrom_word line (less + 2) words.1 leading
          (stops_colons spaces (gap ++ spell gap rest))
        obtain ⟨first, second, colons⟩ := lexemesFrom_colons line less spaces
          (not_startsPunct_spell spaces last words.2)
        obtain ⟨tokens, spelled, lexed⟩ := ih last words.2 spaces shorter
        exact ⟨_, .more name whole first second spelled, by rw [word, colons, lexed]; rfl⟩

theorem assemble_trees (done tokens : List SyntaxTree) :
    assemble [] done (tokens.map .tree) = .ok (done.reverse ++ tokens) := by
  induction tokens generalizing done with
  | nil => rw [List.map_nil, assemble, List.append_nil]
  | cons tree tokens ih =>
      rw [List.map_cons, assemble, ih, List.reverse_cons, List.append_assoc, List.singleton_append]

theorem exists_lexemesFrom_spellPath (line : Nat) (spaces : ∀ c ∈ gap, c = ' ')
    {names : List String} (nonempty : names ≠ []) (words : ∀ name ∈ names, isWord name = true)
    (rooted : Bool) {fuel : Nat} (enough : (spellPath gap rooted names).length + 1 ≤ fuel) :
    ∃ tokens, SpelledPath line rooted names tokens ∧
      lexemesFrom fuel line (spellPath gap rooted names) = tokens.map .tree := by
  cases rooted with
  | false =>
      obtain ⟨tokens, spelled, lexed⟩ :=
        exists_lexemesFrom_spell line spaces nonempty words (List.forall_mem_nil _) enough
      exact ⟨tokens, .plain spelled, lexed⟩
  | true =>
      have two : "::".toList.length = 2 := rfl
      rw [spellPath, if_pos rfl] at enough ⊢
      obtain ⟨less, rfl⟩ : ∃ less, fuel = less + 2 :=
        Nat.exists_eq_add_of_le' (by simp only [List.length_append, two] at enough; omega)
      have shorter : (gap ++ spell gap names).length < less := by
        simp only [List.length_append, two] at enough ⊢
        omega
      obtain ⟨first, second, colons⟩ := lexemesFrom_colons line less (List.forall_mem_nil _)
        (not_startsPunct_spell spaces nonempty words)
      obtain ⟨tokens, spelled, lexed⟩ :=
        exists_lexemesFrom_spell line spaces nonempty words spaces shorter
      rw [List.nil_append] at colons
      exact ⟨_, .rooted first second spelled, by rw [colons, lexed]; rfl⟩

/-- The text of a path lexes to its words and colons, with spaces around them or without. -/
theorem exists_lex_spelled (spaces : ∀ c ∈ gap, c = ' ') {names : List String}
    (nonempty : names ≠ []) (words : ∀ name ∈ names, isWord name = true) {rooted : Bool}
    {text : String} (spells : text.toList = spellPath gap rooted names) :
    ∃ tokens, SpelledPath 1 rooted names tokens ∧ lex text = .ok tokens := by
  have noMark : dropByteOrderMark text.toList = text.toList := by
    obtain ⟨c, cs, same, other⟩ : ∃ c cs, text.toList = c :: cs ∧ c.toNat ≠ 0xfeff := by
      rw [spells]
      cases rooted with
      | true => exact ⟨':', _, rfl, by decide⟩
      | false =>
          obtain ⟨c, cs, same, start⟩ := exists_of_spell nonempty words gap
          exact ⟨c, cs, same, (not_isBlank_of_start start).2⟩
    rw [same, dropByteOrderMark, beq_false_of_ne other, if_neg Bool.false_ne_true]
  obtain ⟨tokens, spelled, lexed⟩ :=
    exists_lexemesFrom_spellPath 1 spaces nonempty words rooted (Nat.le_refl _)
  refine ⟨tokens, spelled, ?_⟩
  rw [lex, lexFrom, noMark, spells, lexed, assemble_trees]
  rfl

end Lexemes

end Wiring.Grammar
