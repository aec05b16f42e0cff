import Mathlib.Data.List.Forall2
import Wiring.Proofs.Grammar.Spacing
import Wiring.Proofs.Grammar.StringLiteral

/-!
# Decoders

Readers of generated text.  They follow what is written character by character; where they meet
code that they do not know, they get over it by its quotes and brackets alone.
-/

set_option autoImplicit false

namespace Wiring.Generated

open Wiring.Grammar

/-! ## Getting over code -/

/-- What follows the bracket that closes the one that a reader stands in. -/
def closing? : Place → Nat → List Char → Option (List Char)
  | _, _, [] => none
  | place, depth, c :: rest =>
      if place.isOutside && Place.opens c then closing? (place.step c) (depth + 1) rest
      else if place.isOutside && Place.closes c then
        match depth with
        | 0 => some rest
        | depth + 1 => closing? (place.step c) depth rest
      else closing? (place.step c) depth rest

/-- What follows the last brace that opens outside all brackets, or else `found`. -/
def lastBrace : Place → Nat → List Char → Option (List Char) → Option (List Char)
  | _, _, [], found => found
  | place, depth, c :: rest, found =>
      if place.isOutside && Place.opens c then
        lastBrace (place.step c) (depth + 1) rest
          (if depth == 0 && c == '\x7b' then some rest else found)
      else if place.isOutside && Place.closes c then
        lastBrace (place.step c) (depth - 1) rest found
      else lastBrace (place.step c) depth rest found

section Over

variable {place there : Place} {depth left : Nat} {front : List Char} (rest : List Char)

theorem closing?_append (reads : place.after? depth front = some (there, left)) :
    closing? place depth (front ++ rest) = closing? there left rest := by
  refine Place.after?_induction (motive := fun place depth front =>
    closing? place depth (front ++ rest) = closing? there left rest) rfl ?_ ?_ ?_ reads
  · intro place depth c front outside opens ih
    simp [closing?, outside, opens, ih]
  · intro place depth c front outside closes ih
    simp [closing?, outside, closes, Place.opens_eq_false_of_closes closes, ih]
  · intro place depth c front opens closes ih
    simp [closing?, opens, closes, ih]

/-- Inside brackets no brace counts. -/
theorem lastBrace_inside (reads : place.after? depth front = some (there, left))
    (found : Option (List Char)) :
    lastBrace place (depth + 1) (front ++ rest) found =
      lastBrace there (left + 1) rest found := by
  refine Place.after?_induction (motive := fun place depth front =>
    lastBrace place (depth + 1) (front ++ rest) found = lastBrace there (left + 1) rest found)
    rfl ?_ ?_ ?_ reads
  · intro place depth c front outside opens ih
    simp [lastBrace, outside, opens, ih]
  · intro place depth c front outside closes ih
    simp [lastBrace, outside, closes, Place.opens_eq_false_of_closes closes, ih]
  · intro place depth c front opens closes ih
    simp [lastBrace, opens, closes, ih]

theorem lastBrace_append (reads : place.after? depth front = some (there, left))
    (found : Option (List Char)) :
    ∃ before, lastBrace place depth (front ++ rest) found = lastBrace there left rest before := by
  refine Place.after?_induction (motive := fun place depth front => ∀ found,
    ∃ before, lastBrace place depth (front ++ rest) found = lastBrace there left rest before)
    (fun found => ⟨found, rfl⟩) ?_ ?_ ?_ reads found
  · intro place depth c front outside opens ih found
    simpa [lastBrace, outside, opens] using ih _
  · intro place depth c front outside closes ih found
    simpa [lastBrace, outside, closes, Place.opens_eq_false_of_closes closes] using ih found
  · intro place depth c front opens closes ih found
    simpa [lastBrace, opens, closes] using ih found

end Over

theorem closing?_readsOver {cs : List Char} (reads : ReadsOver cs) {c : Char}
    (closes : Place.closes c = true) (rest : List Char) :
    closing? .apart 0 (cs ++ c :: rest) = some rest := by
  obtain ⟨place, reads, outside⟩ := reads
  rw [closing?_append _ reads]
  simp [closing?, outside, closes, Place.opens_eq_false_of_closes closes]

/-- The last braces of a text are found whatever stands in front of them and in them. -/
theorem lastBrace_group {front body : List Char}
    (before : Place.apart.after? 0 front = some (.apart, 0)) (inside : ReadsOver body) :
    lastBrace .apart 0 (front ++ '\x7b' :: (body ++ ['\x7d', '\n'])) none =
      some (body ++ ['\x7d', '\n']) := by
  obtain ⟨found, past⟩ := lastBrace_append ('\x7b' :: (body ++ ['\x7d', '\n'])) before none
  obtain ⟨place, reads, outside⟩ := inside
  have closed : place.step '\x7d' = .apart := Place.step_eq_apart outside (by decide)
  have opened : lastBrace .apart 0 ('\x7b' :: (body ++ ['\x7d', '\n'])) found =
      lastBrace .apart (0 + 1) (body ++ ['\x7d', '\n']) (some (body ++ ['\x7d', '\n'])) := rfl
  rw [past, opened, lastBrace_inside _ reads]
  simp [lastBrace, closed, Place.opens, Place.closes, Place.isOutside]

/-! ## Decoders -/

abbrev Decoder (α : Type) := StateT (List Char) Option α

namespace Decoder

variable {α β : Type}

def mark (text : String) : Decoder Unit := fun cs =>
  (dropLead? text cs).map fun rest => ((), rest)

def mark? (text : String) : Decoder Bool := fun cs =>
  match dropLead? text cs with
  | some rest => some (true, rest)
  | none => some (false, cs)

def choice (table : List (String × α)) : Decoder α := fun cs =>
  table.findSome? fun (text, value) => (dropLead? text cs).map fun rest => (value, rest)

/-- Whether two texts differ at a place that both have. -/
def differ : List Char → List Char → Bool
  | c :: rest, c' :: rest' => c != c' || differ rest rest'
  | _, _ => false

def isDistinct (table : List (String × α)) : Bool :=
  decide (table.Pairwise fun one other => differ one.1.toList other.1.toList = true)

def literal : Decoder String := fun cs =>
  (dropLead? "\"" cs).map fun body =>
    let (value, rest) := quotedValue .plain body
    (String.ofList value, rest)

def skip : Decoder Unit := fun cs =>
  (closing? .apart 0 cs).map fun rest => ((), rest)

/-- Reads values with commas between them, up to a square bracket; there are at least one and at
most so many. -/
def items (item : Decoder α) : Nat → Decoder (List α)
  | 0 => fun _ => none
  | fuel + 1 => do
      let first ← item
      if ← mark? " , " then return first :: (← items item fuel)
      mark "]"
      return [first]

/-- Reads a list of values, its opening bracket already read. -/
def list (item : Decoder α) : Decoder (List α) := do
  if ← mark? "]" then return []
  items item (← get).length

/-! ## What decoders read -/

def Reads (decoder : Decoder α) (text : List Char) (value : α) : Prop :=
  ∀ rest, decoder (text ++ rest) = some (value, rest)

theorem bind_eq {first : Decoder α} {next : α → Decoder β} {cs rest : List Char} {value : α}
    (reads : first cs = some (value, rest)) : (first >>= next) cs = next value rest := by
  show (first cs).bind (fun found => next found.1 found.2) = next value rest
  rw [reads]
  rfl

theorem dropLead?_append (text : String) (rest : List Char) :
    dropLead? text (text.toList ++ rest) = some rest := by
  have leads : text.toList.isPrefixOf (text.toList ++ rest) = true :=
    List.isPrefixOf_iff_prefix.mpr (List.prefix_append _ rest)
  rw [dropLead?, if_pos leads, ← String.length_toList, List.drop_left]

theorem reads_mark (text : String) : Reads (mark text) text.toList () := by
  intro rest
  rw [mark, dropLead?_append]
  rfl

theorem mark?_append (text : String) (rest : List Char) :
    mark? text (text.toList ++ rest) = some (true, rest) := by
  rw [mark?, dropLead?_append]

theorem isPrefixOf_of_differ {lead cs : List Char} (differs : differ lead cs = true)
    (rest : List Char) : lead.isPrefixOf (cs ++ rest) = false := by
  induction lead generalizing cs with
  | nil => cases differs
  | cons c lead ih =>
      cases cs with
      | nil => cases differs
      | cons c' cs =>
          rw [differ, Bool.or_eq_true, bne_iff_ne] at differs
          rw [List.cons_append, List.isPrefixOf_cons_cons, Bool.and_eq_false_iff,
            beq_eq_false_iff_ne]
          exact differs.imp_right ih

theorem dropLead?_of_differ {text : String} {cs : List Char}
    (differs : differ text.toList cs = true) (rest : List Char) :
    dropLead? text (cs ++ rest) = none := by
  rw [dropLead?, isPrefixOf_of_differ differs]
  rfl

theorem reads_choice {table : List (String × α)} (distinct : isDistinct table = true)
    {text : String} {value : α} (member : (text, value) ∈ table) :
    Reads (choice table) text.toList value := by
  intro rest
  rw [isDistinct, decide_eq_true_eq] at distinct
  induction table with
  | nil => cases member
  | cons entry table ih =>
      rw [List.pairwise_cons] at distinct
      rcases List.mem_cons.mp member with rfl | later
      · simp [choice, dropLead?_append]
      · have other := dropLead?_of_differ (distinct.1 _ later) rest
        have next := ih distinct.2 later
        simp only [choice] at next
        simp [choice, other, next]

theorem isDistinct_singleton (entry : String × α) : isDistinct [entry] = true :=
  decide_eq_true (List.pairwise_singleton ..)

theorem reads_map {decoder : Decoder α} {text : List Char} {value : α}
    (reads : Reads decoder text value) (f : α → β) : Reads (f <$> decoder) text (f value) := by
  intro rest
  rw [map_eq_pure_bind, bind_eq (reads rest)]
  rfl

theorem reads_literal (text : String) : Reads literal (Text.stringLiteral text).toList text := by
  intro rest
  have split : (Text.stringLiteral text).toList ++ rest =
      "\"".toList ++ (Text.literalBody text.toList ++ '\"' :: rest) := by
    simp [Text.stringLiteral]
  rw [split, literal, dropLead?_append]
  simp [quotedValue_literalBody]

theorem reads_skip {cs : List Char} (reads : ReadsOver cs) {c : Char}
    (closes : Place.closes c = true) : Reads skip (cs ++ [c]) () := by
  intro rest
  rw [List.append_assoc, List.singleton_append, skip, closing?_readsOver reads closes]
  rfl

def joined : List (List Char) → List Char
  | [] => []
  | [text] => text
  | text :: rest => text ++ " , ".toList ++ joined rest

theorem joined_cons (text : List Char) {rest : List (List Char)} (more : rest ≠ []) :
    joined (text :: rest) = text ++ (" , ".toList ++ joined rest) := by
  obtain ⟨next, later, rfl⟩ := List.exists_cons_of_ne_nil more
  rw [joined, List.append_assoc]
  simp

theorem exists_joined_eq (text : List Char) (rest : List (List Char)) :
    ∃ back, joined (text :: rest) = text ++ back := by
  by_cases more : rest = []
  · exact ⟨[], by simp [more, joined]⟩
  · exact ⟨_, joined_cons text more⟩

theorem reads_items {item : Decoder α} {texts : List (List Char)} {values : List α}
    (each : List.Forall₂ (Reads item) texts values) (nonempty : texts ≠ []) {fuel : Nat}
    (enough : texts.length ≤ fuel) :
    Reads (items item fuel) (joined texts ++ [']']) values := by
  induction each generalizing fuel with
  | nil => exact absurd rfl nonempty
  | @cons text value texts values first later ih =>
      intro rest
      obtain ⟨fuel, rfl⟩ := Nat.exists_eq_add_of_lt enough
      rw [items]
      by_cases more : texts = []
      · subst more
        obtain rfl := List.forall₂_nil_left_iff.mp later
        have ends : mark? " , " (']' :: rest) = some (false, ']' :: rest) := rfl
        have closes : mark "]" (']' :: rest) = some ((), rest) := reads_mark "]" rest
        rw [joined, List.append_assoc, List.singleton_append, bind_eq (first _), bind_eq ends]
        simp only [Bool.false_eq_true, if_false]
        rw [bind_eq closes]
        rfl
      · have goesOn := mark?_append " , " (joined texts ++ ([']'] ++ rest))
        have further : items item (texts.length + fuel) _ = _ :=
          ih more (Nat.le_add_right ..) rest
        rw [List.append_assoc] at further
        simp only [joined_cons text more, List.append_assoc]
        rw [bind_eq (first _), bind_eq goesOn]
        simp only [if_true]
        rw [bind_eq further]
        rfl

theorem length_le_joined (texts : List (List Char)) :
    texts.length ≤ (joined texts).length + 1 := by
  induction texts with
  | nil => exact Nat.zero_le _
  | cons text texts ih =>
      by_cases more : texts = []
      · subst more
        simp
      · rw [joined_cons text more]
        simp only [List.length_cons, List.length_append] at ih ⊢
        have comma : " , ".toList.length = 3 := rfl
        omega

theorem reads_list {item : Decoder α} {texts : List (List Char)} {values : List α}
    (each : List.Forall₂ (Reads item) texts values)
    (starts : ∀ text ∈ texts, ∃ c more, text = c :: more ∧ c ≠ ']') :
    Reads (list item) (joined texts ++ [']']) values := by
  intro rest
  cases each with
  | nil => rfl
  | @cons text value texts values first later =>
      have nonempty := List.cons_ne_nil text texts
      have goesOn : mark? "]" (joined (text :: texts) ++ [']'] ++ rest) =
          some (false, joined (text :: texts) ++ [']'] ++ rest) := by
        obtain ⟨c, more, rfl, other⟩ := starts text (List.mem_cons_self ..)
        obtain ⟨back, begins⟩ := exists_joined_eq (c :: more) texts
        simp [begins, mark?, dropLead?, List.isPrefixOf, Ne.symm other]
      have enough : (text :: texts).length ≤ (joined (text :: texts) ++ [']'] ++ rest).length := by
        have bound := length_le_joined (text :: texts)
        simp only [List.length_append, List.length_singleton] at bound ⊢
        omega
      rw [list, bind_eq goesOn]
      simp only [Bool.false_eq_true, if_false]
      exact reads_items (.cons first later) nonempty enough rest

end Decoder

end Wiring.Generated
