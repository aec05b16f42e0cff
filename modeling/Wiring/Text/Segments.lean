/-!
Texts made of segments with `::` between them.
-/

set_option autoImplicit false

namespace Wiring.Text

/-- The segments of a text, split at every `::` from the left. -/
def segmentsOfChars : List Char → List (List Char)
  | [] => [[]]
  | ':' :: ':' :: rest => [] :: segmentsOfChars rest
  | c :: rest =>
      match segmentsOfChars rest with
      | [] => [[c]]
      | first :: more => (c :: first) :: more

def segments (text : String) : List String :=
  (segmentsOfChars text.toList).map String.ofList

/-- Segments joined by `::`. -/
def joinSegments (parts : List String) : String :=
  "::".intercalate parts

/-- What stands before and after the last `::`, if there is one. -/
def splitLastChars? : List Char → Option (List Char × List Char)
  | [] => none
  | c :: rest =>
      match splitLastChars? rest with
      | some (front, last) => some (c :: front, last)
      | none =>
          match c, rest with
          | ':', ':' :: last => some ([], last)
          | _, _ => none

/-- The text before and after the last `::`, if there is one. -/
def splitLast? (text : String) : Option (String × String) :=
  (splitLastChars? text.toList).map fun (front, last) => (String.ofList front, String.ofList last)

def dropLeadChars? : List Char → List Char → Option (List Char)
  | [], cs => some cs
  | _, [] => none
  | l :: lead, c :: cs => if l == c then dropLeadChars? lead cs else none

/-- The characters after every copy of a lead at the head; each copy takes a character. -/
def dropLeads (lead : List Char) : Nat → List Char → List Char
  | 0, cs => cs
  | fuel + 1, cs =>
      match dropLeadChars? lead cs with
      | some rest => dropLeads lead fuel rest
      | none => cs

def startsWith (lead text : String) : Bool :=
  (dropLeadChars? lead.toList text.toList).isSome

def endsWith (tail text : String) : Bool :=
  (dropLeadChars? tail.toList.reverse text.toList.reverse).isSome

end Wiring.Text
