/-!
JSON values and their texts: on one line, or with one member or element on each line.
-/

set_option autoImplicit false

namespace Wiring

/-- A JSON value. A number with a fraction is kept as its decimal text, and the members of an
object in their order. -/
inductive Json where
  | null
  | bool (value : Bool)
  | int (value : Int)
  | float (text : String)
  | string (text : String)
  | array (elements : List Json)
  | object (members : List (String × Json))

namespace Json

def member? (name : String) : Json → Option Json
  | .object members => (members.find? fun entry => entry.1 == name).map (·.2)
  | _ => none

def strings (texts : List String) : Json :=
  .array (texts.map .string)

def ofOption {α : Type} (encode : α → Json) : Option α → Json
  | some value => encode value
  | none => .null

/-! ## Text -/

def hexChar (digit : Nat) : Char :=
  if digit < 10 then Char.ofNat ('0'.toNat + digit) else Char.ofNat ('a'.toNat + digit - 10)

def escapeChar (c : Char) : List Char :=
  if c == '\"' then ['\\', '\"']
  else if c == '\\' then ['\\', '\\']
  else if c == '\n' then ['\\', 'n']
  else if c == '\r' then ['\\', 'r']
  else if c == '\t' then ['\\', 't']
  else if c.toNat == 8 then ['\\', 'b']
  else if c.toNat == 12 then ['\\', 'f']
  else if c.toNat < 32 then
    ['\\', 'u', '0', '0', hexChar (c.toNat / 16), hexChar (c.toNat % 16)]
  else [c]

def quote (text : String) : String :=
  "\"" ++ String.ofList (text.toList.flatMap escapeChar) ++ "\""

mutual

def compact : Json → String
  | .null => "null"
  | .bool true => "true"
  | .bool false => "false"
  | .int value => toString value
  | .float text => text
  | .string text => quote text
  | .array elements => "[" ++ ",".intercalate (compactElements elements) ++ "]"
  | .object members => "\x7b" ++ ",".intercalate (compactMembers members) ++ "\x7d"

def compactElements : List Json → List String
  | [] => []
  | value :: rest => compact value :: compactElements rest

def compactMembers : List (String × Json) → List String
  | [] => []
  | (name, value) :: rest => (quote name ++ ":" ++ compact value) :: compactMembers rest

end

/-- Lines between brackets, one level further in than the brackets; without lines the brackets
stand together. -/
def indented (level : Nat) (opened closed : String) (lines : List String) : String :=
  if lines.isEmpty then opened ++ closed
  else
    let inner := "\n" ++ String.ofList (List.replicate (2 * (level + 1)) ' ')
    let outer := "\n" ++ String.ofList (List.replicate (2 * level) ' ')
    opened ++ inner ++ ("," ++ inner).intercalate lines ++ outer ++ closed

mutual

def pretty (level : Nat) : Json → String
  | .array elements => indented level "[" "]" (prettyElements (level + 1) elements)
  | .object members => indented level "\x7b" "\x7d" (prettyMembers (level + 1) members)
  | .null => "null"
  | .bool true => "true"
  | .bool false => "false"
  | .int value => toString value
  | .float text => text
  | .string text => quote text

def prettyElements (level : Nat) : List Json → List String
  | [] => []
  | value :: rest => pretty level value :: prettyElements level rest

def prettyMembers (level : Nat) : List (String × Json) → List String
  | [] => []
  | (name, value) :: rest =>
      (quote name ++ ": " ++ pretty level value) :: prettyMembers level rest

end

/-! ## Absent members -/

mutual

def withoutNulls : Json → Json
  | .array elements => .array (elementsWithoutNulls elements)
  | .object members => .object (membersWithoutNulls members)
  | value => value

def elementsWithoutNulls : List Json → List Json
  | [] => []
  | value :: rest => withoutNulls value :: elementsWithoutNulls rest

def membersWithoutNulls : List (String × Json) → List (String × Json)
  | [] => []
  | (_, .null) :: rest => membersWithoutNulls rest
  | (name, value) :: rest => (name, withoutNulls value) :: membersWithoutNulls rest

end

/-! ## Sorted members -/

/-- Puts a member at its place among sorted ones; a later value of one name wins. -/
def insertMember (name : String) (value : Json) : List (String × Json) → List (String × Json)
  | [] => [(name, value)]
  | (other, old) :: rest =>
      if name == other then (name, value) :: rest
      else if name < other then (name, value) :: (other, old) :: rest
      else (other, old) :: insertMember name value rest

def sortMembers (members : List (String × Json)) : List (String × Json) :=
  members.foldl (fun sorted entry => insertMember entry.1 entry.2 sorted) []

mutual

def sorted : Json → Json
  | .array elements => .array (sortedElements elements)
  | .object members => .object (sortMembers (sortedMembers members))
  | value => value

def sortedElements : List Json → List Json
  | [] => []
  | value :: rest => sorted value :: sortedElements rest

def sortedMembers : List (String × Json) → List (String × Json)
  | [] => []
  | (name, value) :: rest => (name, sorted value) :: sortedMembers rest

end

end Json

end Wiring
