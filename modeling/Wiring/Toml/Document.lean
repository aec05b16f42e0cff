import Wiring.Toml.Number

/-!
Whole settings files: lines with a key and its value, under headers that open tables.
-/

set_option autoImplicit false

namespace Wiring.Toml

/-! ## Values -/

def word? (word : String) (cs : List Char) : Option (List Char) :=
  if word.toList.isPrefixOf cs then some (cs.drop word.length) else none

def scalar? (cs : List Char) : Option (Value × List Char) :=
  match cs with
  | [] => none
  | c :: _ =>
      if c == '\"' || c == '\'' then (text? cs).map fun (found, rest) => (.text found, rest)
      else if c == 't' then (word? "true" cs).map fun rest => (.bool true, rest)
      else if c == 'f' then (word? "false" cs).map fun rest => (.bool false, rest)
      else number? cs

mutual

/-- A value; each one inside takes a character. -/
def valueAt? : Nat → List Char → Option (Value × List Char)
  | 0, _ => none
  | fuel + 1, '[' :: rest => (elements? fuel [] rest).map fun (found, rest) => (.array found, rest)
  | fuel + 1, '\x7b' :: rest =>
      match skipSpaces rest with
      | '\x7d' :: rest => some (.table [], rest)
      | rest => (members? fuel [] rest).map fun (found, rest) => (.table (entryValues found), rest)
  | _ + 1, cs => scalar? cs

/-- The rest of an array. A comma may stand before its end. -/
def elements? : Nat → List Value → List Char → Option (List Value × List Char)
  | 0, _, _ => none
  | fuel + 1, found, cs =>
      match skipLines cs.length cs with
      | ']' :: rest => some (found.reverse, rest)
      | rest =>
          match valueAt? fuel rest with
          | none => none
          | some (value, rest) =>
              match skipLines rest.length rest with
              | ',' :: rest => elements? fuel (value :: found) rest
              | ']' :: rest => some ((value :: found).reverse, rest)
              | _ => none

def members? : Nat → Entries → List Char → Option (Entries × List Char)
  | 0, _, _ => none
  | fuel + 1, found, cs =>
      match key? cs with
      | some (path, '=' :: rest) =>
          match valueAt? fuel (skipSpaces rest) with
          | none => none
          | some (value, rest) =>
              match addValue path value found with
              | none => none
              | some found =>
                  match skipSpaces rest with
                  | ',' :: rest => members? fuel found rest
                  | '\x7d' :: rest => some (found, rest)
                  | _ => none
      | _ => none

end

/-! ## Lines -/

/-- A file that is being read: the header whose table is open, and all entries. -/
structure Document where
  header : List String
  entries : Entries

def header? (closed : List Char) (cs : List Char) : Option (List String × List Char) := do
  let (path, rest) ← key? cs
  if closed.isPrefixOf rest then
    let rest ← finishLine? (rest.drop closed.length)
    return (path, rest)
  else none

def pair? (cs : List Char) : Option ((List String × Value) × List Char) := do
  let (path, rest) ← key? cs
  let rest ← after? '=' rest
  let (value, rest) ← valueAt? (rest.length + 1) (skipSpaces rest)
  let rest ← finishLine? rest
  return ((path, value), rest)

/-- One line after another; each takes a character. -/
def lines? : Nat → Document → List Char → Option Document
  | 0, _, _ => none
  | fuel + 1, document, cs =>
      match skipLines cs.length cs with
      | [] => some document
      | '[' :: '[' :: rest => do
          let (path, rest) ← header? [']', ']'] rest
          lines? fuel ⟨path, ← openElement path document.entries⟩ rest
      | '[' :: rest => do
          let (path, rest) ← header? [']'] rest
          lines? fuel ⟨path, ← openTable path document.entries⟩ rest
      | cs => do
          let ((path, value), rest) ← pair? cs
          let entries ← changeAt false (fun _ found => addValue path value found) document.header
            false document.entries
          lines? fuel ⟨document.header, entries⟩ rest

def parse (text : String) : Option (List (String × Value)) :=
  let cs :=
    match text.toList with
    | c :: rest => if c.toNat == 0xfeff then rest else c :: rest
    | [] => []
  (lines? (cs.length + 1) ⟨[], []⟩ cs).map fun document => entryValues document.entries

end Wiring.Toml
