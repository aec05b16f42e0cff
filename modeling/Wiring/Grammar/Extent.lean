/-!
Where code stops: a reader that knows only words, quotes and brackets follows a text character by
character. A whole text leaves no quote and no bracket open, so what it is part of can be read past
it without knowing what it says.
-/

set_option autoImplicit false

namespace Wiring.Grammar

/-- Where a text of code stands after some of its characters: outside quotes, or inside them. -/
inductive Place where
  -- outside quotes
  | apart
  | word
  | lead
  /-- A word that announces a raw text if a quote follows, with so many number signs before it. -/
  | rawLead (hashes : Nat)
  /-- After a single quote and one character: a character, if another single quote follows. -/
  | ticked
  -- inside quotes
  | tick
  | tickEscape
  | tickRest
  | quote
  | quoteEscape
  | raw (hashes : Nat)
  /-- After a quote in a raw text, where so many number signs are missing. -/
  | rawQuote (hashes missing : Nat)
deriving DecidableEq, Repr

def isWordChar (c : Char) : Bool :=
  c.isAlphanum || c == '_' || 127 < c.toNat

namespace Place

def isOutside : Place → Bool
  | .apart | .word | .lead | .rawLead _ | .ticked => true
  | _ => false

def opened (c : Char) (other : Place) : Place :=
  if c == '\"' then .quote else if c == '\'' then .tick else other

def begun (c : Char) : Place :=
  opened c <|
    if c == 'r' then .rawLead 0
    else if c == 'b' || c == 'c' then .lead
    else if isWordChar c then .word
    else .apart

def continued (c : Char) : Place :=
  opened c (if isWordChar c then .word else .apart)

def step : Place → Char → Place
  | .apart, c => begun c
  | .word, c => continued c
  | .lead, c => if c == 'r' then .rawLead 0 else continued c
  | .rawLead hashes, c =>
      if c == '\"' then .raw hashes
      else if c == '#' then .rawLead (hashes + 1)
      else continued c
  | .ticked, c => if c == '\'' then .apart else continued c
  | .tick, c => if c == '\\' then .tickEscape else .ticked
  | .tickEscape, _ => .tickRest
  | .tickRest, c => if c == '\'' then .apart else .tickRest
  | .quote, c => if c == '\"' then .apart else if c == '\\' then .quoteEscape else .quote
  | .quoteEscape, _ => .quote
  | .raw hashes, c =>
      if c == '\"' then (if hashes == 0 then .apart else .rawQuote hashes hashes) else .raw hashes
  | .rawQuote hashes missing, c =>
      if c == '#' then (if missing ≤ 1 then .apart else .rawQuote hashes (missing - 1))
      else if c == '\"' then .rawQuote hashes hashes
      else .raw hashes

def opens (c : Char) : Bool :=
  c == '(' || c == '[' || c == '\x7b'

def closes (c : Char) : Bool :=
  c == ')' || c == ']' || c == '\x7d'

/-- The place after some characters, and how many brackets are open there. Nothing follows a
bracket that closes none. -/
def after? : Place → Nat → List Char → Option (Place × Nat)
  | place, depth, [] => some (place, depth)
  | place, depth, c :: rest =>
      if place.isOutside && opens c then after? (place.step c) (depth + 1) rest
      else if place.isOutside && closes c then
        match depth with
        | 0 => none
        | depth + 1 => after? (place.step c) depth rest
      else after? (place.step c) depth rest

end Place

/-- Whether a text ends outside quotes and leaves no bracket open. A text that is joined to what
follows also leaves no word that could go on. -/
def isWhole (joined : Bool) (text : String) : Bool :=
  match Place.apart.after? 0 text.toList with
  | some (place, left) => left == 0 && place.isOutside && (!joined || place == .apart)
  | none => false

namespace Place

/-! ## Reading on -/

theorem after?_append (place : Place) (depth : Nat) (front back : List Char) :
    place.after? depth (front ++ back) =
      (place.after? depth front).bind fun (there, open?) => there.after? open? back := by
  induction front generalizing place depth with
  | nil => rfl
  | cons c front ih =>
      simp only [List.cons_append, after?]
      split
      · exact ih ..
      · split
        · cases depth with
          | zero => rfl
          | succ depth => exact ih ..
        · exact ih ..

theorem opens_eq_false_of_closes {c : Char} (closing : closes c = true) : opens c = false := by
  simp only [closes, Bool.or_eq_true, beq_iff_eq] at closing
  rcases closing with (rfl | rfl) | rfl <;> rfl

/-- What holds at the end of a text, and before each character if it holds behind it, holds where
the text begins. -/
theorem after?_induction {there : Place} {left : Nat} {motive : Place → Nat → List Char → Prop}
    (ended : motive there left [])
    (opening : ∀ {place depth c rest}, place.isOutside = true → opens c = true →
      motive (place.step c) (depth + 1) rest → motive place depth (c :: rest))
    (closing : ∀ {place depth c rest}, place.isOutside = true → closes c = true →
      motive (place.step c) depth rest → motive place (depth + 1) (c :: rest))
    (plain : ∀ {place depth c rest}, (place.isOutside && opens c) = false →
      (place.isOutside && closes c) = false →
      motive (place.step c) depth rest → motive place depth (c :: rest))
    {place : Place} {depth : Nat} {cs : List Char}
    (reads : place.after? depth cs = some (there, left)) : motive place depth cs := by
  induction cs generalizing place depth with
  | nil =>
      cases reads
      exact ended
  | cons c cs ih =>
      simp only [after?] at reads
      split at reads
      · rename_i opens
        rw [Bool.and_eq_true] at opens
        exact opening opens.1 opens.2 (ih reads)
      · rename_i closed
        split at reads
        · rename_i closes
          rw [Bool.and_eq_true] at closes
          cases depth with
          | zero => cases reads
          | succ depth => exact closing closes.1 closes.2 (ih reads)
        · rename_i other
          exact plain (Bool.eq_false_iff.mpr closed) (Bool.eq_false_iff.mpr other) (ih reads)

/-- Brackets that are open around a text do not matter to it. -/
theorem after?_add {place there : Place} {depth left : Nat} {cs : List Char} (around : Nat)
    (reads : place.after? depth cs = some (there, left)) :
    place.after? (depth + around) cs = some (there, left + around) := by
  refine after?_induction (motive := fun place depth cs =>
    place.after? (depth + around) cs = some (there, left + around)) rfl ?_ ?_ ?_ reads
  · intro place depth c rest outside opens ih
    rw [Nat.add_right_comm] at ih
    simp [after?, outside, opens, ih]
  · intro place depth c rest outside closes ih
    rw [Nat.add_right_comm]
    simp [after?, outside, closes, opens_eq_false_of_closes closes, ih]
  · intro place depth c rest opens closes ih
    simp [after?, opens, closes, ih]

end Place

theorem isWhole_iff {joined : Bool} {text : String} :
    isWhole joined text = true ↔
      ∃ place, Place.apart.after? 0 text.toList = some (place, 0) ∧ place.isOutside = true ∧
        (joined = true → place = .apart) := by
  unfold isWhole
  cases reads : Place.apart.after? 0 text.toList with
  | none => simp
  | some found =>
      obtain ⟨place, left⟩ := found
      cases joined <;> grind

end Wiring.Grammar
