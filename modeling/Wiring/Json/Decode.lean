import Wiring.Json.Value
import Wiring.Text.Quoted

/-!
Typed values of JSON: why a value does not have a type, and readers of the basic types, of
enumerations and of records.
-/

set_option autoImplicit false

namespace Wiring.Json

open Wiring.Text

inductive DecodeError where
  | missingField (name : String)
  | unknownVariant (found : String) (variants : List String)
  | wrongType (found expected : String)
  | wrongValue (found expected : String)
  | wrongLength (length : Nat) (expected : String)
deriving DecidableEq, Repr

def variantsText (variants : List String) : String :=
  let marked := variants.map fun name => "`" ++ name ++ "`"
  match marked with
  | [] => "there are no variants"
  | [only] => only
  | [first, second] => first ++ " or " ++ second
  | many => "one of " ++ ", ".intercalate many

def DecodeError.message : DecodeError → String
  | .missingField name => "missing field `" ++ name ++ "`"
  | .unknownVariant found variants =>
      "unknown variant `" ++ found ++ "`, expected " ++ variantsText variants
  | .wrongType found expected => "invalid type: " ++ found ++ ", expected " ++ expected
  | .wrongValue found expected => "invalid value: " ++ found ++ ", expected " ++ expected
  | .wrongLength length expected =>
      "invalid length " ++ toString length ++ ", expected " ++ expected

def describe : Json → String
  | .null => "null"
  | .bool true => "boolean `true`"
  | .bool false => "boolean `false`"
  | .int value => "integer `" ++ toString value ++ "`"
  | .float text => "floating point `" ++ text ++ "`"
  | .string text => "string " ++ quoted text
  | .array _ => "sequence"
  | .object _ => "map"

abbrev Decoder (α : Type) := Json → Except DecodeError α

def mismatch {α : Type} (value : Json) (expected : String) : Except DecodeError α :=
  .error (.wrongType (describe value) expected)

/-! ## Basic types -/

def text : Decoder String
  | .string text => .ok text
  | value => mismatch value "a string"

def pathText : Decoder String
  | .string text => .ok text
  | value => mismatch value "path string"

def boolean : Decoder Bool
  | .bool value => .ok value
  | value => mismatch value "a boolean"

def natural : Decoder Nat
  | .int value =>
      if 0 ≤ value && value < Int.pow 2 64 then .ok value.toNat
      else .error (.wrongValue ("integer `" ++ toString value ++ "`") "usize")
  | value => mismatch value "usize"

def integer : Decoder Int
  | .int value =>
      if -Int.pow 2 31 ≤ value && value < Int.pow 2 31 then .ok value
      else .error (.wrongValue ("integer `" ++ toString value ++ "`") "i32")
  | value => mismatch value "i32"

def elementsOf {α : Type} (element : Decoder α) : List Json → Except DecodeError (List α)
  | [] => .ok []
  | value :: rest => do
      let first ← element value
      let more ← elementsOf element rest
      return first :: more

def list {α : Type} (element : Decoder α) : Decoder (List α)
  | .array elements => elementsOf element elements
  | value => mismatch value "a sequence"

def optional {α : Type} (decoder : Decoder α) : Decoder (Option α)
  | .null => .ok none
  | value => do return some (← decoder value)

def variant {α : Type} (variants : List (String × α)) (name : String) : Except DecodeError α :=
  match variants.find? fun entry => entry.1 == name with
  | some (_, value) => .ok value
  | none => .error (.unknownVariant name (variants.map (·.1)))

/-- Reads a value of an enumeration: its name, or an object with the name as its only member. -/
def enumeration {α : Type} (variants : List (String × α)) : Decoder α
  | .string name => variant variants name
  | .object [(name, content)] => do
      let value ← variant variants name
      match content with
      | .null => return value
      | other => mismatch other "unit"
  | .object _ => .error (.wrongValue "map" "map with a single key")
  | value => mismatch value "string or map"

/-! ## Records -/

/-- A field of a record: its name, whether it must be there, and why a value is none for it. -/
structure MemberRule where
  name : String
  isRequired : Bool
  error? : Json → Option DecodeError

def MemberRule.of {α : Type} (name : String) (isRequired : Bool) (decoder : Decoder α) :
    MemberRule :=
  ⟨name, isRequired, fun value =>
    match decoder value with
    | .error error => some error
    | .ok _ => none⟩

def required {α : Type} (name : String) (decoder : Decoder α) : MemberRule :=
  .of name true decoder

def defaulted {α : Type} (name : String) (decoder : Decoder α) : MemberRule :=
  .of name false decoder

abbrev Found := List (String × Json)

def Found.get {α : Type} (found : Found) (name : String) (decoder : Decoder α) :
    Except DecodeError α :=
  match found.find? fun entry => entry.1 == name with
  | some (_, value) => decoder value
  | none => .error (.missingField name)

def Found.getD {α : Type} (found : Found) (name : String) (decoder : Decoder α) (default : α) :
    Except DecodeError α :=
  match found.find? fun entry => entry.1 == name with
  | some (_, value) => decoder value
  | none => .ok default

/-- Checks members in their order; names that are no fields mean nothing. -/
def checkMembers (fields : List MemberRule) : List (String × Json) → Except DecodeError Unit
  | [] => .ok ()
  | (name, value) :: rest =>
      match (fields.find? fun field => field.name == name).bind fun field => field.error? value with
      | some error => .error error
      | none => checkMembers fields rest

def nameElements (whole : String) (count : Nat) : Nat → List MemberRule → List Json →
    Except DecodeError Found
  | _, [], [] => .ok []
  | index, [], rest =>
      .error (.wrongLength (index + rest.length) "fewer elements in array")
  | index, field :: fields, [] =>
      if field.isRequired then
        .error (.wrongLength index (whole ++ " with " ++ toString count ++ " elements"))
      else nameElements whole count index fields []
  | index, field :: fields, value :: rest =>
      match field.error? value with
      | some error => .error error
      | none => do
          let found ← nameElements whole count (index + 1) fields rest
          return (field.name, value) :: found

/-- The fields of a record that is written as an object or as a list. Members are checked in the
order of their names, and fields that are missing are named in the order of the fields. -/
def fieldsOf (whole : String) (fields : List MemberRule) : Json → Except DecodeError Found
  | .object members => do
      let members := sortMembers members
      checkMembers fields members
      match fields.find? fun field => field.isRequired && !(members.any (·.1 == field.name)) with
      | some field => .error (.missingField field.name)
      | none => return members
  | .array elements => nameElements whole fields.length 0 fields elements
  | value => mismatch value whole

end Wiring.Json
