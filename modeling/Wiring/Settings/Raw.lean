import Wiring.Json.Decode
import Wiring.Settings.Basic
import Wiring.Text.Quoted
import Wiring.Toml.Value

/-!
Raw settings: values as files and variables give them, and what is wrong with one that a setting
cannot have.
-/

set_option autoImplicit false

namespace Wiring

open Wiring.Text

/-- A value that has not been given a type. Files have signed integers, and variables unsigned
ones where they can. -/
inductive RawValue where
  | text (content : String)
  | char (c : Char)
  | bool (value : Bool)
  | signed (value : Int)
  | unsigned (value : Nat)
  | float (text : String)
  | sequence
  | table (entries : List (String × RawValue))

inductive Origin where
  | file (path : String)
  | environment
deriving DecidableEq, Repr

inductive ValueFault where
  | wrongType (found expected : String)
  | unknownVariant (found : String) (variants : List String)
deriving DecidableEq, Repr

inductive SettingsError where
  | files (problems : List (String × String))
  | value (origin : Origin) (keys : List String) (fault : ValueFault)
deriving DecidableEq, Repr

def RawValue.shown : RawValue → String
  | .text content => "string " ++ quoted content
  | .char c => "string " ++ quoted (String.ofList [c])
  | .bool true => "bool true"
  | .bool false => "bool false"
  | .signed value => "signed int `" ++ toString value ++ "`"
  | .unsigned value => "unsigned int `" ++ toString value ++ "`"
  | .float decimal => "float `" ++ decimal ++ "`"
  | .sequence => "sequence"
  | .table _ => "map"

def ValueFault.message : ValueFault → String
  | .wrongType found expected => "invalid type: found " ++ found ++ ", expected " ++ expected
  | .unknownVariant found variants =>
      "unknown variant: found `" ++ found ++ "`, expected `" ++ Json.variantsText variants ++ "`"

def variableLead : String :=
  "WIREGEN_"

namespace Origin

def shown : Origin → String
  | .file path => path ++ " TOML file"
  | .environment => "`" ++ variableLead ++ "` environment variable(s)"

def keyText (keys : List String) : Origin → String
  | .file _ => ".".intercalate ("default" :: keys)
  | .environment => (".".intercalate keys).map Char.toUpper

end Origin

def SettingsError.message : SettingsError → String
  | .files problems =>
      "\n".intercalate (problems.map fun (path, reason) =>
        reason ++ " in " ++ (Origin.file path).shown)
  | .value origin keys fault =>
      fault.message ++ " for key " ++ quoted (origin.keyText keys) ++ " in " ++ origin.shown

/-! ## Typed values -/

/-- Reads a raw value as one of a type; a fault comes with the keys on the way to it. -/
abbrev RawReader (α : Type) := RawValue → Except (List String × ValueFault) α

def refuse {α : Type} (value : RawValue) (expected : String) :
    Except (List String × ValueFault) α :=
  .error ([], .wrongType value.shown expected)

namespace RawReader

def text (expected : String) : RawReader String
  | .text content => .ok content
  | .char c => .ok (String.ofList [c])
  | value => refuse value expected

def path : RawReader String :=
  text "path string"

def boolean : RawReader Bool
  | .bool value => .ok value
  | value => refuse value "a boolean"

def firstByKey? (entries : List (String × RawValue)) : Option (String × RawValue) :=
  (entries.mergeSort fun left right => left.1 ≤ right.1).head?

/-- Reads a variant of an enumeration: its name. In a table its first key is taken for the name,
but no variant has a value. -/
def variant {α : Type} (name : String) (variants : List (String × α)) :
    RawReader α := fun value =>
  let find (found : String) : Except (List String × ValueFault) α :=
    match variants.find? fun entry => entry.1 == found with
    | some entry => .ok entry.2
    | none => .error ([], .unknownVariant found (variants.map (·.1)))
  match value with
  | .text content => find content
  | .table entries =>
      match firstByKey? entries with
      | some (key, content) => do
          let _ ← find key
          throw ([key], .wrongType content.shown "unit")
      | none => refuse value "enum"
  | value => refuse value ("enum " ++ name)

def verb : RawReader Verb :=
  variant "RegistrationType" (Verb.all.map fun verb => (verb.text, verb))

def level : RawReader LogLevel :=
  variant "LogLevel" (LogLevel.all.map fun level => (level.text, level))

def given {α : Type} (reader : RawReader α) : RawReader (Option α) := fun value =>
  (reader value).map some

end RawReader

end Wiring
