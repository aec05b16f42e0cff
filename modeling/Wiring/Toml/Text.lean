import Wiring.Text.Hexadecimal

/-!
Blanks, comments, keys and texts of a settings file. Each reader takes the characters that are left
and gives what it read with the rest, or nothing.
-/

set_option autoImplicit false

namespace Wiring.Toml

open Wiring.Text

/-! ## Blanks and lines -/

def isCommentChar (c : Char) : Bool :=
  c == '\t' || (0x20 ≤ c.toNat && c.toNat != 0x7f)

def skipSpaces (cs : List Char) : List Char :=
  cs.dropWhile fun c => c == ' ' || c == '\t'

def lineEnd? : List Char → Option (List Char)
  | '\n' :: rest => some rest
  | '\r' :: '\n' :: rest => some rest
  | _ => none

def skipComment (cs : List Char) : List Char :=
  match skipSpaces cs with
  | '#' :: rest => rest.dropWhile isCommentChar
  | rest => rest

def finishLine? (cs : List Char) : Option (List Char) :=
  match skipComment cs with
  | [] => some []
  | rest => lineEnd? rest

/-- The text after spaces, comments and ends of lines; each line takes a character. -/
def skipLines : Nat → List Char → List Char
  | 0, cs => cs
  | fuel + 1, cs =>
      match lineEnd? (skipComment cs) with
      | some rest => skipLines fuel rest
      | none => skipComment cs

/-! ## Texts -/

def isPlain (quote : Char) (c : Char) : Bool :=
  c != quote && isCommentChar c

def escape? : List Char → Option (Char × List Char)
  | 'b' :: rest => some (Char.ofNat 8, rest)
  | 't' :: rest => some ('\t', rest)
  | 'n' :: rest => some ('\n', rest)
  | 'f' :: rest => some (Char.ofNat 12, rest)
  | 'r' :: rest => some ('\r', rest)
  | '\"' :: rest => some ('\"', rest)
  | '\\' :: rest => some ('\\', rest)
  | 'u' :: rest => codePoint? 4 rest
  | 'U' :: rest => codePoint? 8 rest
  | _ => none

def basicRest? : Nat → List Char → List Char → Option (String × List Char)
  | 0, _, _ => none
  | _ + 1, done, '\"' :: rest => some (String.ofList done.reverse, rest)
  | fuel + 1, done, '\\' :: rest =>
      match escape? rest with
      | some (c, rest) => basicRest? fuel (c :: done) rest
      | none => none
  | fuel + 1, done, c :: rest => if isPlain '\"' c then basicRest? fuel (c :: done) rest else none
  | _ + 1, _, [] => none

def literalRest? (cs : List Char) : Option (String × List Char) :=
  match cs.dropWhile (isPlain '\'') with
  | '\'' :: rest => some (String.ofList (cs.takeWhile (isPlain '\'')), rest)
  | _ => none

def skipBlankLines : Nat → List Char → List Char
  | 0, cs => cs
  | fuel + 1, cs =>
      match lineEnd? (skipSpaces cs) with
      | some rest => skipBlankLines fuel rest
      | none => skipSpaces cs

/-- The end of a text of several lines: three quotes, before which one or two more may stand that
belong to the text. -/
def longEnd? (quote : Char) (cs : List Char) : Option (List Char × List Char) :=
  let count := (cs.takeWhile (· == quote)).length
  if 3 ≤ count then
    let kept := min (count - 3) 2
    some (List.replicate kept quote, cs.drop (kept + 3))
  else none

/-- The rest of a text of several lines. A backslash at the end of a line drops all blanks up to
the next character. -/
def longRest? (quote : Char) : Nat → List Char → List Char → Option (String × List Char)
  | 0, _, _ => none
  | fuel + 1, done, cs =>
      match longEnd? quote cs with
      | some (kept, rest) => some (String.ofList (done.reverse ++ kept), rest)
      | none =>
          match lineEnd? cs with
          | some rest => longRest? quote fuel ('\n' :: done) rest
          | none =>
              match cs with
              | [] => none
              | c :: rest =>
                  if c == '\\' && quote == '\"' then
                    match lineEnd? (skipSpaces rest) with
                    | some after => longRest? quote fuel done (skipBlankLines after.length after)
                    | none =>
                        match escape? rest with
                        | some (c, rest) => longRest? quote fuel (c :: done) rest
                        | none => none
                  else if c == quote || isPlain quote c then longRest? quote fuel (c :: done) rest
                  else none

/-- A text of several lines after its quotes; the end of a line right after them is dropped. -/
def longText? (quote : Char) (cs : List Char) : Option (String × List Char) :=
  longRest? quote (cs.length + 1) [] ((lineEnd? cs).getD cs)

def text? : List Char → Option (String × List Char)
  | '\"' :: '\"' :: '\"' :: rest => longText? '\"' rest
  | '\'' :: '\'' :: '\'' :: rest => longText? '\'' rest
  | '\"' :: rest => basicRest? (rest.length + 1) [] rest
  | '\'' :: rest => literalRest? rest
  | _ => none

/-! ## Keys -/

def isKeyChar (c : Char) : Bool :=
  c.isAlphanum || c == '_' || c == '-'

def simpleKey? : List Char → Option (String × List Char)
  | '\"' :: rest => basicRest? (rest.length + 1) [] rest
  | '\'' :: rest => literalRest? rest
  | cs =>
      let name := cs.takeWhile isKeyChar
      if name.isEmpty then none else some (String.ofList name, cs.dropWhile isKeyChar)

/-- Keys with dots between them; each takes a character. -/
def keyPath? : Nat → List Char → Option (List String × List Char)
  | 0, _ => none
  | fuel + 1, cs =>
      match simpleKey? (skipSpaces cs) with
      | none => none
      | some (key, rest) =>
          match skipSpaces rest with
          | '.' :: rest => (keyPath? fuel rest).map fun (keys, rest) => (key :: keys, rest)
          | rest => some ([key], rest)

def key? (cs : List Char) : Option (List String × List Char) :=
  keyPath? (cs.length + 1) cs

end Wiring.Toml
