import Wiring.Grammar.Extent
import Wiring.Grammar.Literal
import Wiring.Text.Quoted

/-!
Literals and names are whole: a reader that knows only quotes and brackets comes out of each of
them where it ends.
-/

set_option autoImplicit false

namespace Wiring.Grammar

open Wiring.Text

/-! ## Reaching a rest -/

/-- A reader at a place gets over the front of a text to another place, and leaves no bracket open
on the way. -/
def Place.Reaches (place : Place) (cs : List Char) (there : Place) (rest : List Char) : Prop :=
  ∃ front, cs = front ++ rest ∧ place.after? 0 front = some (there, 0)

def Place.Leaves (place : Place) (cs rest : List Char) : Prop :=
  ∃ there, place.Reaches cs there rest ∧ there.isOutside = true

namespace Place

theorem Reaches.refl (place : Place) (cs : List Char) : place.Reaches cs place cs :=
  ⟨[], rfl, rfl⟩

theorem Reaches.trans {place there far : Place} {cs rest last : List Char}
    (first : place.Reaches cs there rest) (second : there.Reaches rest far last) :
    place.Reaches cs far last := by
  obtain ⟨front, rfl, reads⟩ := first
  obtain ⟨back, rfl, further⟩ := second
  refine ⟨front ++ back, (List.append_assoc ..).symm, ?_⟩
  rw [after?_append, reads]
  exact further

theorem Reaches.leaves {place there : Place} {cs rest last : List Char}
    (first : place.Reaches cs there rest) (second : there.Leaves rest last) :
    place.Leaves cs last := by
  obtain ⟨far, further, outside⟩ := second
  exact ⟨far, first.trans further, outside⟩

theorem Leaves.refl {place : Place} (outside : place.isOutside = true) (cs : List Char) :
    place.Leaves cs cs :=
  ⟨place, .refl place cs, outside⟩

theorem reaches_inside (place : Place) (inside : place.isOutside = false) (c : Char)
    (rest : List Char) : place.Reaches (c :: rest) (place.step c) rest :=
  ⟨[c], rfl, by simp [after?, inside]⟩

theorem reaches_plain (place : Place) {c : Char} (plain : (opens c || closes c) = false)
    (rest : List Char) : place.Reaches (c :: rest) (place.step c) rest := by
  rw [Bool.or_eq_false_iff] at plain
  exact ⟨[c], rfl, by simp [after?, plain]⟩

theorem reaches_of_after? {place there : Place} {front : List Char}
    (reads : place.after? 0 front = some (there, 0)) (rest : List Char) :
    place.Reaches (front ++ rest) there rest :=
  ⟨front, rfl, reads⟩

end Place

/-! ## Characters without effect -/

def boundaries : List Char :=
  ['(', ')', '[', ']', '\x7b', '\x7d', '\"', '\'']

def isInert (c : Char) : Bool :=
  !boundaries.contains c

theorem isInert_of {p : Char → Bool} (avoids : boundaries.any p = false) {c : Char}
    (member : p c = true) : isInert c = true := by
  rw [isInert, Bool.not_eq_true', ← Bool.not_eq_true, List.contains_iff_mem]
  intro boundary
  exact absurd member (Bool.not_eq_true _ ▸ List.any_eq_false.mp avoids c boundary)

namespace Place

theorem reaches_inert {place : Place} (outside : place.isOutside = true) {c : Char}
    (inert : isInert c = true) (rest : List Char) :
    place.Reaches (c :: rest) (place.step c) rest ∧ (place.step c).isOutside = true := by
  simp only [isInert, boundaries, Bool.not_eq_true', List.contains_eq_mem, List.mem_cons,
    List.not_mem_nil, or_false, decide_eq_false_iff_not, not_or] at inert
  obtain ⟨round, round', square, square', curly, curly', double, single⟩ := inert
  constructor
  · exact ⟨[c], rfl, by simp [after?, opens, closes, *]⟩
  · cases place <;> simp [isOutside] at outside <;>
      simp only [step, begun, continued, opened, beq_iff_eq, double, single, if_false] <;>
      (repeat' split) <;> rfl

theorem leaves_inert {place : Place} (outside : place.isOutside = true) {front : List Char}
    (inert : front.all isInert = true) (rest : List Char) :
    place.Leaves (front ++ rest) rest := by
  induction front generalizing place with
  | nil => exact .refl outside rest
  | cons c front ih =>
      rw [List.all_cons, Bool.and_eq_true] at inert
      obtain ⟨reaches, beyond⟩ := reaches_inert outside inert.1 (front ++ rest)
      exact reaches.leaves (ih beyond inert.2)

end Place

/-! ## Names and leads -/

theorem isInert_identifierStart {c : Char} (start : isIdentifierStart c = true) :
    isInert c = true :=
  isInert_of (by decide) start

theorem isInert_identifierContinue {c : Char} (inside : isIdentifierContinue c = true) :
    isInert c = true :=
  isInert_of (by decide) inside

theorem all_isInert_takeWhile (cs : List Char) :
    (cs.takeWhile isIdentifierContinue).all isInert = true := by
  have inside := List.all_eq_true.mp (List.all_takeWhile (l := cs) (p := isIdentifierContinue))
  rw [List.all_eq_true]
  intro c member
  exact isInert_identifierContinue (inside c member)

section Names

variable {place : Place} (outside : place.isOutside = true)

include outside

theorem leaves_identifier {cs rest : List Char} (ends : identifierEnd? cs = some rest) :
    place.Leaves cs rest := by
  cases cs with
  | nil => cases ends
  | cons c cs =>
      simp only [identifierEnd?] at ends
      split at ends
      · rename_i start
        obtain rfl := Option.some.inj ends
        have inert : (c :: cs.takeWhile isIdentifierContinue).all isInert = true := by
          rw [List.all_cons, isInert_identifierStart start, all_isInert_takeWhile]
          rfl
        have leaves := Place.leaves_inert outside inert (cs.dropWhile isIdentifierContinue)
        rwa [List.cons_append, List.takeWhile_append_dropWhile] at leaves
      · cases ends

theorem leaves_suffix (cs : List Char) : place.Leaves cs (suffixEnd cs) := by
  unfold suffixEnd
  cases ends : identifierEnd? cs with
  | none => exact .refl outside cs
  | some rest => exact leaves_identifier outside ends

end Names

theorem eq_append_of_dropLead? {lead : String} {cs rest : List Char}
    (drops : dropLead? lead cs = some rest) : cs = lead.toList ++ rest := by
  unfold dropLead? at drops
  split at drops
  · rename_i leads
    obtain ⟨back, rfl⟩ := List.isPrefixOf_iff_prefix.mp leads
    obtain rfl := Option.some.inj drops
    rw [← String.length_toList, List.drop_left]
  · cases drops

theorem Place.reaches_lead {place there : Place} {lead : String} {cs rest : List Char}
    (drops : dropLead? lead cs = some rest)
    (reads : place.after? 0 lead.toList = some (there, 0)) : place.Reaches cs there rest := by
  rw [eq_append_of_dropLead? drops]
  exact reaches_of_after? reads rest

/-! ## Texts between quotes -/

/-- Where a reader that knows only quotes stands when a reader of a text stands somewhere. -/
def QuoteState.place : QuoteState → Place
  | .escape => .quoteEscape
  | .closed => .apart
  | _ => .quote

section Quotes

variable {form : StringForm} {state next : QuoteState} {c : Char}

theorem step_quote_of_isInert (inert : isInert c = true) (other : c ≠ '\\') :
    Place.quote.step c = .quote := by
  have apart : c ≠ '\"' := by
    rintro rfl
    exact absurd inert (by decide)
  simp [Place.step, apart, other]

theorem hexValue?_eq_some {digit : Nat} (value : hexValue? c = some digit) :
    isInert c = true ∧ c ≠ '\\' := by
  have isSome : (hexValue? c).isSome = true := by
    rw [value]
    rfl
  refine ⟨isInert_of (p := fun c => (hexValue? c).isSome) (by decide) isSome, ?_⟩
  rintro rfl
  exact absurd isSome (by decide)

theorem place_plainStep (steps : form.plainStep c = some next) :
    Place.quote.step c = next.place := by
  unfold StringForm.plainStep at steps
  by_cases ends : c = '\"'
  · subst ends
    cases steps
    rfl
  · by_cases escapes : c = '\\'
    · subst escapes
      cases steps
      rfl
    · have stays : Place.quote.step c = .quote := by simp [Place.step, ends, escapes]
      rw [stays]
      grind [QuoteState.place]

theorem place_afterBackslash (steps : form.afterBackslash c = some next) :
    next.place = .quote := by
  unfold StringForm.afterBackslash at steps
  grind [QuoteState.place]

theorem step_quote_of_hexValue? {digit : Nat} (value : hexValue? c = some digit) :
    Place.quote.step c = .quote :=
  step_quote_of_isInert (hexValue?_eq_some value).1 (hexValue?_eq_some value).2

theorem place_codeStep {value count : Nat} (steps : form.codeStep value count c = some next) :
    Place.quote.step c = next.place := by
  unfold StringForm.codeStep at steps
  cases digit : hexValue? c with
  | some found =>
      rw [step_quote_of_hexValue? digit]
      grind [QuoteState.place]
  | none => grind [QuoteState.place, Place.step]

theorem place_step (steps : form.step state c = some next) :
    state.place.step c = next.place := by
  cases state with
  | plain => exact place_plainStep steps
  | afterReturn => grind [StringForm.step, QuoteState.place, Place.step]
  | escape => exact (place_afterBackslash steps).symm
  | hexFirst =>
      cases digit : hexValue? c with
      | some found =>
          have stays : Place.quote.step c = .quote := step_quote_of_hexValue? digit
          grind [StringForm.step, QuoteState.place]
      | none => simp [StringForm.step, digit] at steps
  | hexSecond first =>
      cases digit : hexValue? c with
      | some found =>
          have stays : Place.quote.step c = .quote := step_quote_of_hexValue? digit
          grind [StringForm.step, QuoteState.place]
      | none => simp [StringForm.step, digit] at steps
  | codeOpen => grind [StringForm.step, QuoteState.place, Place.step]
  | codeDigits value count => exact place_codeStep steps
  | skip =>
      simp only [StringForm.step] at steps
      split at steps
      · grind [QuoteState.place, Place.step]
      · split at steps
        · grind [QuoteState.place, Place.step]
        · exact place_plainStep steps
  | skipReturn => grind [StringForm.step, QuoteState.place, Place.step]
  | closed => cases steps

end Quotes

theorem StringForm.leaves_quote {form : StringForm} {state : QuoteState} {cs rest : List Char}
    (ends : form.quoteEnd? state cs = some rest) : state.place.Leaves cs rest := by
  induction cs generalizing state with
  | nil => cases ends
  | cons c cs ih =>
      simp only [quoteEnd?] at ends
      cases steps : form.step state c with
      | none => simp [steps] at ends
      | some next =>
          have inside : state.place.isOutside = false := by
            cases state <;> first | rfl | cases steps
          have reaches := Place.reaches_inside _ inside c cs
          rw [place_step steps] at reaches
          refine reaches.leaves ?_
          rw [steps] at ends
          cases next with
          | closed =>
              obtain rfl := Option.some.inj ends
              exact leaves_suffix rfl cs
          | _ => exact ih ends

/-! ## Characters between single quotes -/

def QuoteState.isDigits : QuoteState → Bool
  | .hexFirst | .hexSecond _ | .codeOpen | .codeDigits _ _ => true
  | _ => false

theorem ne_tick_of_hexValue? {c : Char} {digit : Nat} (value : hexValue? c = some digit) :
    c ≠ '\'' := by
  rintro rfl
  exact absurd (hexValue?_eq_some value).1 (by decide)

theorem StringForm.step_digits {form : StringForm} {state next : QuoteState} {c : Char}
    (digits : state.isDigits = true) (steps : form.step state c = some next) :
    c ≠ '\'' ∧ (next = .plain ∨ next.isDigits = true) := by
  cases value : hexValue? c with
  | some digit =>
      have other := ne_tick_of_hexValue? value
      cases state <;> grind [StringForm.step, StringForm.codeStep, QuoteState.isDigits]
  | none => cases state <;> grind [StringForm.step, StringForm.codeStep, QuoteState.isDigits]

theorem StringForm.reaches_digits {form : StringForm} {state : QuoteState} {cs rest : List Char}
    (digits : state.isDigits = true) (ends : form.escapeEnd? state cs = some rest) :
    Place.tickRest.Reaches cs .tickRest rest := by
  induction cs generalizing state with
  | nil => cases ends
  | cons c cs ih =>
      simp only [escapeEnd?] at ends
      cases steps : form.step state c with
      | none => simp [steps] at ends
      | some next =>
          obtain ⟨other, goesOn⟩ := step_digits digits steps
          have reaches := Place.reaches_inside .tickRest rfl c cs
          have stays : Place.tickRest.step c = .tickRest := by simp [Place.step, other]
          rw [stays] at reaches
          refine reaches.trans ?_
          rw [steps] at ends
          rcases goesOn with rfl | digits
          · obtain rfl := Option.some.inj ends
            exact .refl ..
          · refine ih digits ?_
            cases next <;> first | exact ends | cases digits

theorem StringForm.reaches_escape {form : StringForm} {cs rest : List Char}
    (ends : form.escapeEnd? .escape cs = some rest) :
    Place.tickEscape.Reaches cs .tickRest rest := by
  cases cs with
  | nil => cases ends
  | cons c cs =>
      refine (Place.reaches_inside .tickEscape rfl c cs).trans ?_
      simp only [escapeEnd?] at ends
      cases steps : form.step .escape c with
      | none => simp [steps] at ends
      | some next =>
          rw [steps] at ends
          cases next with
          | plain =>
              obtain rfl := Option.some.inj ends
              exact .refl ..
          | hexFirst | hexSecond | codeOpen | codeDigits => exact reaches_digits rfl ends
          | skip | skipReturn | closed => cases ends
          | afterReturn | escape =>
              have stops : form.afterBackslash c = _ := steps
              grind [StringForm.afterBackslash]

theorem StringForm.leaves_char {form : StringForm} {cs rest : List Char}
    (ends : form.charEnd? cs = some rest) : Place.tick.Leaves cs rest := by
  -- Both ways lead to the single quote that ends the character.
  have closes : ∀ (place : Place) (body : List Char), place.step '\'' = .apart →
      place.Leaves ('\'' :: body) (suffixEnd body) := by
    intro place body apart
    have reaches := Place.reaches_plain place (c := '\'') rfl body
    rw [apart] at reaches
    exact reaches.leaves (leaves_suffix rfl body)
  simp only [charEnd?] at ends
  split at ends
  · rename_i body found
    obtain rfl := Option.some.inj ends
    split at found
    · cases found
    · rename_i escaped
      have escape := Place.reaches_inside .tick rfl '\\' escaped
      exact escape.leaves ((reaches_escape found).leaves (closes .tickRest body rfl))
    · rename_i c after other
      obtain ⟨-, same⟩ := Option.ite_none_right_eq_some.mp found
      obtain rfl := Option.some.inj same
      have different : c ≠ '\\' := other
      have tick := Place.reaches_inside .tick rfl c ('\'' :: body)
      have ticked : Place.tick.step c = .ticked := by simp [Place.step, different]
      rw [ticked] at tick
      exact tick.leaves (closes .ticked body rfl)
  · cases ends

/-! ## Raw texts -/

theorem reaches_hashes (hashes count : Nat) (rest : List Char) :
    (Place.rawLead hashes).Reaches (List.replicate count '#' ++ rest)
      (.rawLead (hashes + count)) rest := by
  induction count generalizing hashes with
  | zero => exact .refl ..
  | succ count ih =>
      rw [List.replicate_succ, List.cons_append]
      have reaches := Place.reaches_plain (.rawLead hashes) (c := '#') rfl
        (List.replicate count '#' ++ rest)
      refine reaches.trans ?_
      rw [Nat.add_comm count, ← Nat.add_assoc]
      exact ih (hashes + 1)

/-- A reader in a raw text, where a quote may wait for number signs that do not all follow. -/
inductive InRaw (hashes : Nat) (cs : List Char) : Place → Prop where
  | inside : InRaw hashes cs (.raw hashes)
  | quoted (missing : Nat) (some : 0 < missing) (bounded : missing ≤ hashes)
      (fewer : (List.replicate missing '#').isPrefixOf cs = false) :
      InRaw hashes cs (.rawQuote hashes missing)

theorem reaches_missing (hashes missing : Nat) (some : 0 < missing) (rest : List Char) :
    (Place.rawQuote hashes missing).Reaches (List.replicate missing '#' ++ rest) .apart rest := by
  induction missing with
  | zero => cases some
  | succ missing ih =>
      have reaches := Place.reaches_inside (.rawQuote hashes (missing + 1)) rfl '#'
        (List.replicate missing '#' ++ rest)
      refine reaches.trans ?_
      cases missing with
      | zero => exact .refl ..
      | succ missing => exact ih (Nat.succ_pos missing)

theorem InRaw.step {hashes : Nat} {c : Char} {cs : List Char} {place : Place}
    (inRaw : InRaw hashes (c :: cs) place)
    (goesOn : c = '\"' → (List.replicate hashes '#').isPrefixOf cs = false) :
    InRaw hashes cs (place.step c) := by
  have quotes : c = '\"' → InRaw hashes cs (.rawQuote hashes hashes) ∧ hashes ≠ 0 := by
    intro quote
    have fewer := goesOn quote
    have some : 0 < hashes := by
      rcases Nat.eq_zero_or_pos hashes with rfl | some
      · cases fewer
      · exact some
    exact ⟨.quoted hashes some (Nat.le_refl hashes) fewer, Nat.ne_of_gt some⟩
  cases inRaw with
  | inside =>
      by_cases quote : c = '\"'
      · obtain ⟨waits, nonzero⟩ := quotes quote
        simpa [Place.step, quote, nonzero] using waits
      · simpa [Place.step, quote] using InRaw.inside
  | quoted missing some bounded fewer =>
      by_cases quote : c = '\"'
      · simpa [Place.step, quote] using (quotes quote).1
      · by_cases hash : c = '#'
        · subst hash
          obtain ⟨missing, rfl⟩ := Nat.exists_eq_succ_of_ne_zero (Nat.ne_of_gt some)
          cases missing with
          | zero => cases fewer
          | succ missing =>
              exact .quoted (missing + 1) (Nat.succ_pos missing) (Nat.le_of_succ_le bounded) fewer
        · simpa [Place.step, quote, hash] using InRaw.inside

theorem InRaw.reaches {hashes : Nat} {cs : List Char} {place : Place}
    (inRaw : InRaw hashes ('\"' :: (List.replicate hashes '#' ++ cs)) place) :
    place.Reaches ('\"' :: (List.replicate hashes '#' ++ cs)) .apart cs := by
  have inside : place.isOutside = false := by cases inRaw <;> rfl
  refine (Place.reaches_inside place inside '\"' _).trans ?_
  rcases Nat.eq_zero_or_pos hashes with rfl | some
  · cases inRaw with
    | inside => exact .refl ..
    | quoted missing some bounded => omega
  · have waits : place.step '\"' = .rawQuote hashes hashes := by
      cases inRaw with
      | inside => simp [Place.step, Nat.ne_of_gt some]
      | quoted => rfl
    rw [waits]
    exact reaches_missing hashes hashes some cs

theorem StringForm.leaves_rawEnd {form : StringForm} {hashes : Nat} {cs rest : List Char}
    {place : Place} (inRaw : InRaw hashes cs place) (ends : form.rawEnd? hashes cs = some rest) :
    place.Leaves cs rest := by
  -- A character that ends nothing leads on to the rest of the text.
  have goesOn : ∀ {c : Char} {cs : List Char} {place : Place},
      InRaw hashes (c :: cs) place →
        (c = '\"' → (List.replicate hashes '#').isPrefixOf cs = false) →
      (∀ {place : Place}, InRaw hashes cs place → place.Leaves cs rest) →
      place.Leaves (c :: cs) rest := by
    intro c cs place inRaw stays onward
    have inside : place.isOutside = false := by cases inRaw <;> rfl
    exact (Place.reaches_inside place inside c cs).leaves (onward (inRaw.step stays))
  fun_induction rawEnd? form hashes cs generalizing place with
  | case1 => cases ends
  | case2 cs ih =>
      refine goesOn inRaw (fun quote => by cases quote) fun inRaw => ?_
      exact goesOn inRaw (fun quote => by cases quote) fun inRaw => ih inRaw ends
  | case3 => cases ends
  | case4 c cs _ _ closes =>
      rw [Bool.and_eq_true, beq_iff_eq] at closes
      obtain ⟨rfl, follow⟩ := closes
      obtain ⟨back, rfl⟩ := List.isPrefixOf_iff_prefix.mp follow
      rw [List.drop_left' List.length_replicate] at ends
      obtain rfl := Option.some.inj ends
      exact inRaw.reaches.leaves (leaves_suffix rfl back)
  | case5 c cs _ _ other admits ih =>
      refine goesOn inRaw (fun quote => ?_) fun inRaw => ih inRaw ends
      rwa [quote, beq_self_eq_true, Bool.true_and, Bool.not_eq_true] at other
  | case6 => cases ends

theorem hashes_append_drop (cs : List Char) :
    List.replicate (cs.takeWhile (· == '#')).length '#' ++
      cs.drop (cs.takeWhile (· == '#')).length = cs := by
  induction cs with
  | nil => rfl
  | cons c cs ih =>
      by_cases hash : c = '#'
      · subst hash
        exact congrArg ('#' :: ·) ih
      · simp [hash]

theorem StringForm.leaves_raw {form : StringForm} {cs rest : List Char}
    (ends : form.rawText? cs = some rest) : (Place.rawLead 0).Leaves cs rest := by
  have hashes := reaches_hashes 0 (cs.takeWhile (· == '#')).length
    (cs.drop (cs.takeWhile (· == '#')).length)
  rw [hashes_append_drop] at hashes
  simp only [rawText?] at ends
  split at ends
  · rename_i body opens
    rw [opens] at hashes
    rw [Option.ite_none_right_eq_some] at ends
    refine hashes.leaves ?_
    have quote := Place.reaches_plain (.rawLead (0 + (cs.takeWhile (· == '#')).length))
      (c := '\"') rfl body
    refine quote.leaves ?_
    rw [Nat.zero_add]
    exact leaves_rawEnd .inside ends.2
  · cases ends

/-! ## Numbers -/

/-- The front of a text up to a rest has no effect. -/
def Skips (cs rest : List Char) : Prop :=
  ∃ front, cs = front ++ rest ∧ front.all isInert = true

theorem Skips.refl (cs : List Char) : Skips cs cs :=
  ⟨[], rfl, rfl⟩

theorem Skips.cons {c : Char} {cs rest : List Char} (inert : isInert c = true)
    (skips : Skips cs rest) : Skips (c :: cs) rest := by
  obtain ⟨front, rfl, all⟩ := skips
  exact ⟨c :: front, rfl, by simp [inert, all]⟩

theorem Skips.leaves {place : Place} (outside : place.isOutside = true) {cs rest : List Char}
    (skips : Skips cs rest) : place.Leaves cs rest := by
  obtain ⟨front, rfl, inert⟩ := skips
  exact Place.leaves_inert outside inert rest

theorem Place.Leaves.trans {place : Place} {cs rest last : List Char}
    (first : place.Leaves cs rest)
    (second : ∀ {there : Place}, there.isOutside = true → there.Leaves rest last) :
    place.Leaves cs last := by
  obtain ⟨there, reaches, outside⟩ := first
  exact reaches.leaves (second outside)

theorem isInert_digit {c : Char} (digit : c.isDigit = true) : isInert c = true :=
  isInert_of (by decide) digit

theorem isInert_mark {c : Char}
    (mark : c = '_' ∨ c = '.' ∨ c = '+' ∨ c = '-' ∨ c = 'e' ∨ c = 'E') : isInert c = true := by
  rcases mark with rfl | rfl | rfl | rfl | rfl | rfl <;> decide

theorem isInert_hexDigit {c : Char} {digit : Nat} (value : hexValue? c = some digit) :
    isInert c = true :=
  (hexValue?_eq_some value).1

theorem skips_exponent {hasSign hasValue : Bool} {cs rest : List Char}
    (ends : exponentEnd? hasSign hasValue cs = some rest) : Skips cs rest := by
  fun_induction exponentEnd? hasSign hasValue cs <;>
    grind [Skips.refl, Skips.cons, isInert_digit, isInert_mark]

theorem skips_floatDigits {hasDot : Bool} {cs rest : List Char}
    (ends : floatDigitsEnd? hasDot cs = some rest) : Skips cs rest := by
  fun_induction floatDigitsEnd? hasDot cs <;>
    grind [Skips.refl, Skips.cons, isInert_digit, isInert_mark, skips_exponent]

theorem skips_intDigits {base : Nat} {hasDigit found : Bool} {cs rest : List Char}
    (ends : intDigitsEnd? base hasDigit cs = some (found, rest)) : Skips cs rest := by
  fun_induction intDigitsEnd? base hasDigit cs <;>
    grind [Skips.refl, Skips.cons, isInert_digit, isInert_mark, isInert_hexDigit]

theorem eq_of_wordBreak? {cs rest : List Char} (breaks : wordBreak? cs = some rest) :
    rest = cs := by
  cases cs with
  | nil => exact (Option.some.inj breaks).symm
  | cons c cs =>
      simp only [wordBreak?] at breaks
      grind

section Numbers

variable {place : Place} (outside : place.isOutside = true)

include outside

theorem leaves_number {cs rest last : List Char} (digits : Skips cs rest)
    (breaks : wordBreak? (suffixEnd rest) = some last) : place.Leaves cs last := by
  rw [eq_of_wordBreak? breaks]
  exact (digits.leaves outside).trans fun there => leaves_suffix there rest

theorem leaves_float {cs rest : List Char} (ends : floatEnd? cs = some rest) :
    place.Leaves cs rest := by
  cases cs with
  | nil => cases ends
  | cons c cs =>
      simp only [floatEnd?] at ends
      split at ends
      · rename_i digit
        split at ends
        · rename_i after digits
          exact leaves_number outside (.cons (isInert_digit digit) (skips_floatDigits digits)) ends
        · cases ends
      · cases ends

theorem leaves_int {cs rest : List Char} (ends : intEnd? cs = some rest) :
    place.Leaves cs rest := by
  simp only [intEnd?] at ends
  split at ends
  · rename_i after digits
    refine leaves_number outside ?_ ends
    split at digits
    · exact .cons rfl (.cons rfl (skips_intDigits digits))
    · exact .cons rfl (.cons rfl (skips_intDigits digits))
    · exact .cons rfl (.cons rfl (skips_intDigits digits))
    · exact skips_intDigits digits
  · cases ends

end Numbers

/-! ## Literals -/

theorem StringForm.leaves_literal {form : StringForm} {quoteLead rawLead : String}
    (quoted : Place.apart.after? 0 quoteLead.toList = some (.quote, 0))
    (raw : Place.apart.after? 0 rawLead.toList = some (.rawLead 0, 0)) {cs rest : List Char}
    (ends : form.literalEnd? quoteLead rawLead cs = some rest) :
    Place.apart.Leaves cs rest := by
  unfold literalEnd? at ends
  split at ends
  · rename_i drops
    exact (Place.reaches_lead drops quoted).leaves (leaves_quote ends)
  · split at ends
    · rename_i drops
      exact (Place.reaches_lead drops raw).leaves (leaves_raw ends)
    · cases ends

theorem some_of_orElse {α : Type} {first second : Option α} {value : α}
    (found : (first <|> second) = some value) : first = some value ∨ second = some value := by
  cases first with
  | none => exact .inr found
  | some other => exact .inl found

theorem leaves_literal {cs rest : List Char} (ends : literalEnd? cs = some rest) :
    Place.apart.Leaves cs rest := by
  rcases some_of_orElse ends with text | ends
  · exact StringForm.leaves_literal (by decide) (by decide) text
  rcases some_of_orElse ends with bytes | ends
  · exact StringForm.leaves_literal (by decide) (by decide) bytes
  rcases some_of_orElse ends with cText | ends
  · exact StringForm.leaves_literal (by decide) (by decide) cText
  rcases some_of_orElse ends with byte | ends
  · obtain ⟨body, drops, ends⟩ := Option.bind_eq_some_iff.mp byte
    exact (Place.reaches_lead drops (by decide)).leaves (StringForm.leaves_char ends)
  rcases some_of_orElse ends with char | ends
  · obtain ⟨body, drops, ends⟩ := Option.bind_eq_some_iff.mp char
    exact (Place.reaches_lead drops (by decide)).leaves (StringForm.leaves_char ends)
  rcases some_of_orElse ends with float | int
  · exact leaves_float rfl float
  · exact leaves_int rfl int

/-! ## Texts that are whole -/

def frontOf (cs rest : List Char) : String :=
  String.ofList (cs.take (cs.length - rest.length))

theorem frontOf_append (front rest : List Char) :
    frontOf (front ++ rest) rest = String.ofList front := by
  rw [frontOf, List.length_append, Nat.add_sub_cancel, List.take_left]

theorem isWhole_frontOf {cs rest : List Char} (leaves : Place.apart.Leaves cs rest) :
    isWhole false (frontOf cs rest) = true := by
  obtain ⟨there, ⟨front, rfl, reads⟩, outside⟩ := leaves
  rw [frontOf_append, isWhole_iff, String.toList_ofList]
  exact ⟨there, reads, outside, fun joined => by cases joined⟩

theorem isWhole_of_inert {text : String} (inert : text.toList.all isInert = true) :
    isWhole false text = true := by
  have leaves : Place.apart.Leaves (text.toList ++ []) [] := Place.leaves_inert rfl inert []
  have whole := isWhole_frontOf leaves
  rwa [frontOf_append, String.ofList_toList] at whole

theorem all_isInert_toString (n : Nat) : (toString n).toList.all isInert = true := by
  rw [Nat.toString_eq_ofList_toDigits, String.toList_ofList, List.all_eq_true]
  intro c member
  exact isInert_digit (Nat.isDigit_of_mem_toDigits (by decide) (by decide) member)

theorem isWhole_toString (n : Nat) : isWhole false (toString n) = true :=
  isWhole_of_inert (all_isInert_toString n)

theorem isWhole_toString_append (n : Nat) {suffix : String}
    (inert : suffix.toList.all isInert = true) : isWhole false (toString n ++ suffix) = true := by
  apply isWhole_of_inert
  rw [String.toList_append, List.all_append, all_isInert_toString, inert]
  rfl

section Written

def StaysQuoted (cs : List Char) : Prop :=
  ∀ rest, Place.quote.Reaches (cs ++ rest) .quote rest

theorem StaysQuoted.append {front back : List Char} (first : StaysQuoted front)
    (second : StaysQuoted back) : StaysQuoted (front ++ back) := by
  intro rest
  rw [List.append_assoc]
  exact (first (back ++ rest)).trans (second rest)

theorem staysQuoted_of_after? {cs : List Char}
    (reads : Place.quote.after? 0 cs = some (.quote, 0)) : StaysQuoted cs :=
  fun rest => Place.reaches_of_after? reads rest

theorem staysQuoted_plain {cs : List Char} (plain : ∀ c ∈ cs, c ≠ '\"' ∧ c ≠ '\\') :
    StaysQuoted cs := by
  intro rest
  induction cs with
  | nil => exact .refl ..
  | cons c cs ih =>
      obtain ⟨quote, escape⟩ := plain c (List.mem_cons_self ..)
      have reaches := Place.reaches_inside .quote rfl c (cs ++ rest)
      have stays : Place.quote.step c = .quote := by simp [Place.step, quote, escape]
      rw [stays] at reaches
      exact reaches.trans (ih fun d member => plain d (List.mem_cons_of_mem _ member))

theorem staysQuoted_hexDigits (n : Nat) : StaysQuoted (hexDigits n) := by
  refine staysQuoted_plain fun c member => ?_
  have plain := forall_mem_hexDigits (p := fun c => c != '\"' && c != '\\') (by decide) n c member
  simpa using plain

theorem staysQuoted_escapeChar (c : Char) : StaysQuoted (escapeChar c) := by
  unfold escapeChar
  split
  · exact staysQuoted_of_after? rfl
  · rename_i quote
    split
    · exact staysQuoted_of_after? rfl
    · rename_i escape
      have plain : StaysQuoted [c] := by
        refine staysQuoted_plain fun d member => ?_
        rw [List.mem_singleton.mp member]
        exact ⟨by simpa using quote, by simpa using escape⟩
      have hidden : StaysQuoted (['\\', 'u', '\x7b'] ++ hexDigits c.toNat ++ ['\x7d']) :=
        ((staysQuoted_of_after? rfl).append (staysQuoted_hexDigits _)).append
          (staysQuoted_of_after? rfl)
      repeat' split
      all_goals first | exact plain | exact hidden | exact staysQuoted_of_after? rfl

theorem staysQuoted_literalBody (cs : List Char) : StaysQuoted (literalBody cs) := by
  induction cs with
  | nil => exact staysQuoted_of_after? rfl
  | cons c cs ih =>
      simp only [literalBody]
      split
      · have zero : StaysQuoted ['\\', 'x', '0', '0'] := staysQuoted_of_after? rfl
        exact zero.append ih
      · exact (staysQuoted_escapeChar c).append ih

theorem isWhole_stringLiteral (text : String) : isWhole false (stringLiteral text) = true := by
  have opened := Place.reaches_plain .apart (c := '\"') rfl (literalBody text.toList ++ ['\"'])
  have body := staysQuoted_literalBody text.toList ['\"']
  have closed : Place.quote.Reaches ['\"'] .apart [] := ⟨['\"'], rfl, rfl⟩
  have leaves : Place.apart.Leaves ('\"' :: literalBody text.toList ++ ['\"'] ++ []) [] := by
    rw [List.append_nil]
    exact ⟨.apart, opened.trans (body.trans closed), rfl⟩
  have whole := isWhole_frontOf leaves
  rwa [frontOf_append] at whole

end Written

end Wiring.Grammar
