import Mathlib.Algebra.Group.Int.Defs
import Mathlib.Data.List.Forall2
import Wiring.Proofs.Json.Members

/-!
# Writing and reading

What is written of a value may be edited before it is read: members that hold the default of their
field may be left out, and members that are no fields may be added, at any depth.  Reading gives the
value back all the same.  The law is proved once for each way of putting values together: see
`Codec.optional`, `Codec.list` and `Codec.record`.
-/

set_option autoImplicit false

namespace Wiring.Json

/-! ## Edits -/

abbrev Edits := Json → Json → Prop

def Edits.fixed : Edits := fun original changed => changed = original

def Edits.optional (inner : Edits) : Edits
  | .null, changed => changed = .null
  | original, changed => inner original changed

def Edits.list (inner : Edits) : Edits := fun original changed =>
  ∃ elements edited, original = .array elements ∧ changed = .array edited ∧
    List.Forall₂ inner elements edited

/-- A field of a record, what it holds by default, and the edits of what it holds. -/
structure FieldEdits where
  name : String
  default? : Option Json
  inner : Edits

def FieldEdits.Kept (field : FieldEdits) (members edited : List (String × Json)) : Prop :=
  ∃ value, valueOf? field.name members = some value ∧
    ((valueOf? field.name edited = .none ∧ field.default? = some value) ∨
      ∃ changed, valueOf? field.name edited = some changed ∧ field.inner value changed)

theorem FieldEdits.Kept.leftOut {field : FieldEdits} {members edited : List (String × Json)}
    {value : Json} (own : valueOf? field.name members = some value)
    (missing : valueOf? field.name edited = .none) (spare : field.default? = some value) :
    field.Kept members edited :=
  ⟨value, own, .inl ⟨missing, spare⟩⟩

theorem FieldEdits.Kept.edited {field : FieldEdits} {members edited : List (String × Json)}
    {value changed : Json} (own : valueOf? field.name members = some value)
    (found : valueOf? field.name edited = some changed) (inner : field.inner value changed) :
    field.Kept members edited :=
  ⟨value, own, .inr ⟨changed, found, inner⟩⟩

/-- Edits of a record.  Names that are no fields may come and go, and the order is free. -/
def Edits.record (fields : List FieldEdits) : Edits := fun original changed =>
  ∃ members edited, original = .object members ∧ changed = .object edited ∧
    ∀ field ∈ fields, field.Kept members edited

def Edits.tagged (tag : String) (kinds : List (String × List FieldEdits)) : Edits :=
  fun original changed => ∃ kind ∈ kinds,
    (∃ members, original = .object members ∧ valueOf? tag members = some (.string kind.1)) ∧
      Edits.record (⟨tag, .none, .fixed⟩ :: kind.2) original changed

theorem Edits.optional_iff {inner : Edits} {original changed : Json} (there : original ≠ .null) :
    inner.optional original changed ↔ inner original changed := by
  cases original with
  | null => exact absurd rfl there
  | _ => rfl

theorem Edits.record_object_iff {fields : List FieldEdits} {members : List (String × Json)}
    {changed : Json} :
    Edits.record fields (.object members) changed ↔
      ∃ edited, changed = .object edited ∧ ∀ field ∈ fields, field.Kept members edited := by
  constructor
  · rintro ⟨_, edited, same, changed, kept⟩
    cases same
    exact ⟨edited, changed, kept⟩
  · rintro ⟨edited, changed, kept⟩
    exact ⟨members, edited, rfl, changed, kept⟩

section Tagged

variable {tag : String} {members edited : List (String × Json)}

theorem FieldEdits.kept_fixed_iff {value : Json} (own : valueOf? tag members = some value) :
    (⟨tag, .none, .fixed⟩ : FieldEdits).Kept members edited ↔ valueOf? tag edited = some value := by
  simp [FieldEdits.Kept, own, Edits.fixed]

theorem FieldEdits.kept_behind_iff {field : FieldEdits} (apart : field.name ≠ tag) (value : Json) :
    field.Kept ((tag, value) :: members) edited ↔
      field.Kept members (edited.filter (·.1 != tag)) := by
  unfold FieldEdits.Kept
  rw [valueOf?_cons_other apart.symm, valueOf?_filter_other apart]

theorem Edits.tagged_object_iff {kinds : List (String × List FieldEdits)} {kind : String}
    {fields : List FieldEdits} {changed : Json} (names : (kinds.map (·.1)).Nodup)
    (listed : (kind, fields) ∈ kinds) (apart : ∀ field ∈ fields, field.name ≠ tag)
    (free : valueOf? tag members = .none) :
    Edits.tagged tag kinds (.object ((tag, .string kind) :: members)) changed ↔
      ∃ edited, changed = .object edited ∧ valueOf? tag edited = some (.string kind) ∧
        Edits.record fields (.object members) (.object (edited.filter (·.1 != tag))) := by
  have own : valueOf? tag ((tag, Json.string kind) :: members) = some (.string kind) := by
    rw [← List.singleton_append, valueOf?_append, free]
    simp [valueOf?]
  have inner : ∀ edited : List (String × Json),
      (∀ field ∈ fields, field.Kept ((tag, .string kind) :: members) edited) ↔
        Edits.record fields (.object members) (.object (edited.filter (·.1 != tag))) := by
    intro edited
    rw [Edits.record_object_iff]
    constructor
    · intro kept
      refine ⟨_, rfl, ?_⟩
      intro field listed
      exact (FieldEdits.kept_behind_iff (apart field listed) _).mp (kept field listed)
    · rintro ⟨_, same, kept⟩ field listed
      cases same
      exact (FieldEdits.kept_behind_iff (apart field listed) _).mpr (kept field listed)
  unfold Edits.tagged
  constructor
  · rintro ⟨⟨other, others⟩, found, ⟨_, same, tagged⟩, edits⟩
    cases same
    obtain rfl : kind = other := by simpa [own] using tagged
    obtain rfl : fields = others := by
      have only := List.inj_on_of_nodup_map names listed found rfl
      exact congrArg Prod.snd only
    obtain ⟨edited, changed, kept⟩ := Edits.record_object_iff.mp edits
    rw [List.forall_mem_cons, FieldEdits.kept_fixed_iff own, inner] at kept
    exact ⟨edited, changed, kept⟩
  · rintro ⟨edited, changed, tagged, held⟩
    refine ⟨(kind, fields), listed, ⟨_, rfl, own⟩,
      Edits.record_object_iff.mpr ⟨edited, changed, ?_⟩⟩
    rw [List.forall_mem_cons]
    exact ⟨(FieldEdits.kept_fixed_iff own).mpr tagged, (inner edited).mpr held⟩

end Tagged

/-! ## Codecs -/

/-- Values that fit are read back from what is written of them, however it was edited, and only
values that fit are ever read. -/
structure Codec {α : Type} (encode : α → Json) (decode : Decoder α) (edits : Edits)
    (Fits : α → Prop) : Prop where
  unedited : ∀ {value : α}, Fits value → edits (encode value) (encode value)
  read : ∀ {value : α} {changed : Json}, Fits value → edits (encode value) changed →
    decode changed = .ok value
  fits : ∀ {given : Json} {value : α}, decode given = .ok value → Fits value

namespace Codec

variable {α : Type} {encode : α → Json} {decode : Decoder α} {edits : Edits} {Fits : α → Prop}

theorem read_encode (codec : Codec encode decode edits Fits) {value : α} (fits : Fits value) :
    decode (encode value) = .ok value :=
  codec.read fits (codec.unedited fits)

theorem encode_inj (codec : Codec encode decode edits Fits) {first second : α}
    (firstFits : Fits first) (secondFits : Fits second) (same : encode first = encode second) :
    first = second := by
  have read := codec.read_encode firstFits
  rw [same, codec.read_encode secondFits] at read
  exact (Except.ok.inj read).symm

theorem text : Codec .string Json.text .fixed fun _ => True where
  unedited _ := rfl
  read := by
    intro value changed _ same
    rw [show changed = .string value from same]
    rfl
  fits _ := trivial

theorem path : Codec .string pathText .fixed fun _ => True where
  unedited _ := rfl
  read := by
    intro value changed _ same
    rw [show changed = .string value from same]
    rfl
  fits _ := trivial

theorem boolean : Codec .bool Json.boolean .fixed fun _ => True where
  unedited _ := rfl
  read := by
    intro value changed _ same
    rw [show changed = .bool value from same]
    rfl
  fits _ := trivial

theorem natural : Codec (fun value : Nat => .int value) Json.natural .fixed (· < 2 ^ 64) where
  unedited _ := rfl
  read := by
    intro value changed fits same
    rw [show changed = .int value from same]
    have below : (value : Int) < 2 ^ 64 := by exact_mod_cast fits
    simpa [Json.natural] using below
  fits := by
    intro given value read
    cases given with
    | int number =>
        simp only [Json.natural, Bool.and_eq_true, decide_eq_true_eq] at read
        split at read
        · rename_i bounds
          have top : Int.pow 2 64 = 2 ^ 64 := rfl
          rw [top] at bounds
          obtain rfl := Except.ok.inj read
          omega
        · cases read
    | _ => cases read

theorem integer :
    Codec .int Json.integer .fixed fun value => -2 ^ 31 ≤ value ∧ value < 2 ^ 31 where
  unedited _ := rfl
  read := by
    intro value changed fits same
    rw [show changed = .int value from same]
    simpa [Json.integer] using fits
  fits := by
    intro given value read
    cases given with
    | int number =>
        simp only [Json.integer, Bool.and_eq_true, decide_eq_true_eq] at read
        split at read
        · rename_i bounds
          obtain rfl := Except.ok.inj read
          exact bounds
        · cases read
    | _ => cases read

/-- An enumeration is written by names that differ and read among all of its values. -/
theorem choice {all : List α} {name : α → String} (complete : ∀ value, value ∈ all)
    (apart : (all.map name).Nodup) :
    Codec (fun value => .string (name value))
      (enumeration (all.map fun value => (name value, value))) .fixed fun _ => True where
  unedited _ := rfl
  read := by
    intro value changed _ same
    rw [show changed = .string (name value) from same]
    have names : ((all.map fun value => (name value, value)).map (·.1)).Nodup := by
      rwa [List.map_map]
    have found := find?_of_mem names (List.mem_map_of_mem (complete value))
    simp only [enumeration, variant, found]
  fits _ := trivial

/-! ## Values that may be absent, and lists -/

/-- What is written of a value that is there is not null, which is not read as one. -/
theorem encode_ne_null (codec : Codec encode decode edits Fits)
    (present : ∀ value, decode .null ≠ .ok value) {value : α} (fits : Fits value) :
    encode value ≠ .null := by
  intro written
  have read := codec.read_encode fits
  rw [written] at read
  exact present value read

theorem optional (codec : Codec encode decode edits Fits)
    (present : ∀ value, decode .null ≠ .ok value) :
    Codec (ofOption encode) (Json.optional decode) edits.optional
      (fun option => ∀ value ∈ option, Fits value) where
  unedited := by
    intro option fits
    cases option with
    | none => rfl
    | some value =>
        have there := codec.encode_ne_null present (fits value rfl)
        exact (Edits.optional_iff there).mpr (codec.unedited (fits value rfl))
  read := by
    intro option changed fits edited
    cases option with
    | none =>
        rw [show changed = .null from edited]
        rfl
    | some value =>
        have there := codec.encode_ne_null present (fits value rfl)
        have read := codec.read (fits value rfl) ((Edits.optional_iff there).mp edited)
        cases changed with
        | null => exact absurd read (present value)
        | _ =>
            rw [Json.optional, read]
            · rfl
            · nofun
  fits := by
    intro given option read value same
    obtain rfl : option = some value := same
    cases given with
    | null => cases read
    | _ =>
        simp only [Json.optional, Outcome.bind_eq_ok_iff, Outcome.pure_eq_ok_iff] at read
        obtain ⟨found, inner, same⟩ := read
        obtain rfl := Option.some.inj same
        exact codec.fits inner

theorem list (codec : Codec encode decode edits Fits) :
    Codec (fun values => .array (values.map encode)) (Json.list decode) edits.list
      (fun values => ∀ value ∈ values, Fits value) where
  unedited := by
    intro values fits
    refine ⟨_, _, rfl, rfl, ?_⟩
    rw [List.forall₂_map_left_iff, List.forall₂_map_right_iff, List.forall₂_same]
    intro value member
    exact codec.unedited (fits value member)
  read := by
    rintro values changed fits ⟨elements, edited, same, rfl, each⟩
    cases same
    change elementsOf decode edited = .ok values
    induction values generalizing edited with
    | nil =>
        cases each
        rfl
    | cons value rest ih =>
        rw [List.map_cons] at each
        rcases each with _ | ⟨first, others⟩
        rw [List.forall_mem_cons] at fits
        rw [elementsOf, codec.read fits.1 first, ih fits.2 _ others]
        rfl
  fits := by
    intro given values read
    cases given with
    | array elements =>
        replace read : elementsOf decode elements = .ok values := read
        induction elements generalizing values with
        | nil =>
            obtain rfl := Except.ok.inj read
            nofun
        | cons element rest ih =>
            simp only [elementsOf, Outcome.bind_eq_ok_iff, Outcome.pure_eq_ok_iff] at read
            obtain ⟨first, one, more, others, rfl⟩ := read
            rw [List.forall_mem_cons]
            exact ⟨codec.fits one, ih others⟩
    | _ => cases read

end Codec

/-! ## Fields -/

/-- A field of a record: how it is written and checked, when it is read as what a record holds, and
the edits after which it still is. -/
structure FieldCodec (ρ : Type) where
  edits : FieldEdits
  rule : MemberRule
  entry : ρ → Json
  Fits : ρ → Prop
  Reads : Found → ρ → Prop
  unedited : ∀ {whole : ρ}, Fits whole → edits.inner (entry whole) (entry whole)
  read : ∀ {whole : ρ} {edited : List (String × Json)}, Fits whole →
    (valueOf? edits.name edited = .none ∧ edits.default? = some (entry whole) ∨
      ∃ changed, valueOf? edits.name edited = some changed ∧ edits.inner (entry whole) changed) →
    rule.Admits edited ∧ Reads (sortMembers edited) whole
  fits : ∀ {whole : ρ} {found : Found}, Reads found whole → Fits whole

namespace FieldCodec

variable {ρ α : Type} {encode : α → Json} {decode : Decoder α} {edits : Edits} {Fits : α → Prop}

theorem admits_of_valueOf? {name : String} {isRequired : Bool} {members : List (String × Json)}
    {given : Json} {value : α} (found : valueOf? name members = some given)
    (read : decode given = .ok value) :
    (MemberRule.of name isRequired decode).Admits members :=
  .inr ⟨given, found, (error?_of_eq_none_iff name isRequired decode given).mpr ⟨value, read⟩⟩

def required (name : String) (codec : Codec encode decode edits Fits) (get : ρ → α) :
    FieldCodec ρ where
  edits := ⟨name, .none, edits⟩
  rule := Json.required name decode
  entry whole := encode (get whole)
  Fits whole := Fits (get whole)
  Reads found whole := found.get name decode = .ok (get whole)
  unedited := codec.unedited
  read := by
    rintro whole edited fits (⟨-, spare⟩ | ⟨changed, found, inner⟩)
    · cases spare
    · have read := codec.read fits inner
      exact ⟨admits_of_valueOf? found read,
        (get_sortMembers name decode edited _).mpr ⟨changed, found, read⟩⟩
  fits := by
    intro whole found read
    unfold Found.get at read
    split at read
    · exact codec.fits read
    · cases read

def defaulted (name : String) (codec : Codec encode decode edits Fits) (default : α)
    (fine : Fits default) (get : ρ → α) : FieldCodec ρ where
  edits := ⟨name, some (encode default), edits⟩
  rule := Json.defaulted name decode
  entry whole := encode (get whole)
  Fits whole := Fits (get whole)
  Reads found whole := found.getD name decode default = .ok (get whole)
  unedited := codec.unedited
  read := by
    rintro whole edited fits (⟨missing, spare⟩ | ⟨changed, found, inner⟩)
    -- A field that is left out held what is written of the default, and of no other value.
    · have same : default = get whole := codec.encode_inj fine fits (Option.some.inj spare)
      exact ⟨.inl ⟨missing, rfl⟩,
        (getD_sortMembers name decode default edited _).mpr (.inl ⟨missing, same⟩)⟩
    · have read := codec.read fits inner
      exact ⟨admits_of_valueOf? found read,
        (getD_sortMembers name decode default edited _).mpr (.inr ⟨changed, found, read⟩)⟩
  fits := by
    intro whole found read
    unfold Found.getD at read
    split at read
    · exact codec.fits read
    · obtain same := Except.ok.inj read
      rwa [← same]

section Parts

variable (name : String) (codec : Codec encode decode edits Fits) (default : α)
  (fine : Fits default) (get : ρ → α) (whole : ρ) (found : Found)

@[simp] theorem required_rule : (required name codec get).rule = Json.required name decode := rfl

@[simp] theorem required_fits : (required name codec get).Fits whole ↔ Fits (get whole) := .rfl

@[simp] theorem required_reads :
    (required name codec get).Reads found whole ↔ found.get name decode = .ok (get whole) := .rfl

@[simp] theorem defaulted_rule :
    (defaulted name codec default fine get).rule = Json.defaulted name decode := rfl

@[simp] theorem defaulted_fits :
    (defaulted name codec default fine get).Fits whole ↔ Fits (get whole) := .rfl

@[simp] theorem defaulted_reads :
    (defaulted name codec default fine get).Reads found whole ↔
      found.getD name decode default = .ok (get whole) := .rfl

end Parts

end FieldCodec

/-! ## Records -/

section Records

variable {ρ : Type} {fields : List (FieldCodec ρ)}

def FieldCodec.member (field : FieldCodec ρ) (whole : ρ) : String × Json :=
  (field.edits.name, field.entry whole)

theorem valueOf?_member (apart : (fields.map (·.edits.name)).Nodup) {field : FieldCodec ρ}
    (listed : field ∈ fields) (whole : ρ) :
    valueOf? field.edits.name (fields.map (·.member whole)) = some (field.entry whole) := by
  apply valueOf?_of_mem
  · rwa [List.map_map]
  · exact List.mem_map_of_mem listed

theorem Codec.record {encode : ρ → Json} {decode : Decoder ρ} {Fits : ρ → Prop} (whole : String)
    (fields : List (FieldCodec ρ)) (apart : (fields.map (·.edits.name)).Nodup)
    (written : ∀ value, encode value = .object (fields.map (·.member value)))
    (reads : ∀ given value, decode given = .ok value ↔
      ∃ found, fieldsOf whole (fields.map (·.rule)) given = .ok found ∧
        ∀ field ∈ fields, field.Reads found value)
    (range : ∀ value, Fits value ↔ ∀ field ∈ fields, field.Fits value) :
    Codec encode decode (.record (fields.map (·.edits))) Fits where
  unedited := by
    intro value fits
    rw [written, Edits.record_object_iff]
    refine ⟨_, rfl, ?_⟩
    rw [List.forall_mem_map]
    intro field listed
    have own := valueOf?_member apart listed value
    exact .edited own own (field.unedited ((range value).mp fits field listed))
  read := by
    intro value changed fits edits
    rw [written, Edits.record_object_iff] at edits
    obtain ⟨edited, rfl, kept⟩ := edits
    rw [List.forall_mem_map] at kept
    have each : ∀ field ∈ fields,
        field.rule.Admits edited ∧ field.Reads (sortMembers edited) value := by
      intro field listed
      obtain ⟨held, own, edits⟩ := kept field listed
      rw [valueOf?_member apart listed value] at own
      obtain rfl := Option.some.inj own
      exact field.read ((range value).mp fits field listed) edits
    refine (reads _ _).mpr ⟨sortMembers edited, fieldsOf_object ?_, ?_⟩
    · rw [List.forall_mem_map]
      intro field listed
      exact (each field listed).1
    · intro field listed
      exact (each field listed).2
  fits := by
    intro given value read
    obtain ⟨found, -, read⟩ := (reads given value).mp read
    rw [range]
    intro field listed
    exact field.fits (read field listed)

end Records

end Wiring.Json
