import Wiring.Text.Identifier

/-!
Where a literal at the head of a text ends. Each reader answers the rest of the text after the
literal, or nothing when no literal of its form stands there.
-/

set_option autoImplicit false

namespace Wiring.Grammar

open Wiring.Text

def identifierEnd? : List Char → Option (List Char)
  | [] => none
  | c :: rest => if isIdentifierStart c then some (rest.dropWhile isIdentifierContinue) else none

def suffixEnd (cs : List Char) : List Char :=
  (identifierEnd? cs).getD cs

def dropLead? (lead : String) (cs : List Char) : Option (List Char) :=
  if lead.toList.isPrefixOf cs then some (cs.drop lead.length) else none

def hexValue? (c : Char) : Option Nat :=
  if '0' ≤ c && c ≤ '9' then some (c.toNat - '0'.toNat)
  else if 'a' ≤ c && c ≤ 'f' then some (c.toNat - 'a'.toNat + 10)
  else if 'A' ≤ c && c ≤ 'F' then some (c.toNat - 'A'.toNat + 10)
  else none

inductive StringForm where
  | text
  | bytes
  | cText
deriving DecidableEq, Repr

inductive QuoteState where
  | plain
  | afterReturn
  | escape
  | hexFirst
  | hexSecond (first : Char)
  | codeOpen
  | codeDigits (value count : Nat)
  | skip
  | skipReturn
  | closed

def StringForm.admits (form : StringForm) (c : Char) : Bool :=
  match form with
  | .text => true
  | .bytes => c.toNat < 128
  | .cText => c.toNat != 0

def StringForm.afterBackslash (form : StringForm) (c : Char) : Option QuoteState :=
  if c == 'x' then some .hexFirst
  else if c == 'n' || c == 'r' || c == 't' || c == '\\' || c == '\'' || c == '\"' then some .plain
  else if c == '0' then (if form == .cText then none else some .plain)
  else if c == 'u' then (if form == .bytes then none else some .codeOpen)
  else if c == '\n' then some .skip
  else if c == '\r' then some .skipReturn
  else none

def StringForm.plainStep (form : StringForm) (c : Char) : Option QuoteState :=
  if c == '\"' then some .closed
  else if c == '\r' then some .afterReturn
  else if c == '\\' then some .escape
  else if form.admits c then some .plain
  else none

def StringForm.codeStep (form : StringForm) (value count : Nat) (c : Char) : Option QuoteState :=
  match hexValue? c with
  | some digit => if count == 6 then none else some (.codeDigits (value * 16 + digit) (count + 1))
  | none =>
      if count == 0 then none
      else if c == '_' then some (.codeDigits value count)
      else if c == '\x7d' && value.isValidChar && !(form == .cText && value == 0) then some .plain
      else none

/-- One step of a reader of a quoted text; a carriage return stands only before a line feed, and a
backslash at the end of a line skips the blanks that follow. -/
def StringForm.step (form : StringForm) (state : QuoteState) (c : Char) : Option QuoteState :=
  match state with
  | .plain => form.plainStep c
  | .afterReturn => if c == '\n' then some .plain else none
  | .escape => form.afterBackslash c
  | .hexFirst =>
      match hexValue? c with
      | some digit => if form == .text && 7 < digit then none else some (.hexSecond c)
      | none => none
  | .hexSecond first =>
      match hexValue? c with
      | some _ => if form == .cText && first == '0' && c == '0' then none else some .plain
      | none => none
  | .codeOpen => if c == '\x7b' then some (.codeDigits 0 0) else none
  | .codeDigits value count => form.codeStep value count c
  | .skip =>
      if c == ' ' || c == '\t' || c == '\n' then some .skip
      else if c == '\r' then some .skipReturn
      else form.plainStep c
  | .skipReturn => if c == '\n' then some .skip else none
  | .closed => none

def StringForm.quoteEnd? (form : StringForm) : QuoteState → List Char → Option (List Char)
  | _, [] => none
  | state, c :: rest =>
      match form.step state c with
      | none => none
      | some .closed => some (suffixEnd rest)
      | some next => form.quoteEnd? next rest

def StringForm.rawEnd? (form : StringForm) (hashes : Nat) : List Char → Option (List Char)
  | [] => none
  | '\r' :: '\n' :: rest => form.rawEnd? hashes rest
  | '\r' :: _ => none
  | c :: rest =>
      if c == '\"' && (List.replicate hashes '#').isPrefixOf rest then
        some (suffixEnd (rest.drop hashes))
      else if form.admits c then form.rawEnd? hashes rest
      else none

def StringForm.rawText? (form : StringForm) (cs : List Char) : Option (List Char) :=
  let hashes := (cs.takeWhile (· == '#')).length
  match cs.drop hashes with
  | '\"' :: rest => if hashes ≤ 255 then form.rawEnd? hashes rest else none
  | _ => none

def StringForm.literalEnd? (form : StringForm) (quoteLead rawLead : String) (cs : List Char) :
    Option (List Char) :=
  match dropLead? quoteLead cs with
  | some rest => form.quoteEnd? .plain rest
  | none =>
      match dropLead? rawLead cs with
      | some rest => form.rawText? rest
      | none => none

/-- The rest after the escape sequence of one character, its backslash already read. -/
def StringForm.escapeEnd? (form : StringForm) : QuoteState → List Char → Option (List Char)
  | _, [] => none
  | state, c :: rest =>
      match form.step state c with
      | some .plain => some rest
      | some .skip | some .skipReturn | some .closed | none => none
      | some next => form.escapeEnd? next rest

/-- The rest after a character between single quotes, the first of them already read. -/
def StringForm.charEnd? (form : StringForm) (cs : List Char) : Option (List Char) :=
  let body :=
    match cs with
    | [] => none
    | '\\' :: rest => form.escapeEnd? .escape rest
    | c :: rest => if form.admits c then some rest else none
  match body with
  | some ('\'' :: rest) => some (suffixEnd rest)
  | _ => none

def wordBreak? : List Char → Option (List Char)
  | [] => some []
  | c :: rest => if isIdentifierContinue c then none else some (c :: rest)

def exponentEnd? : Bool → Bool → List Char → Option (List Char)
  | _, hasValue, [] => if hasValue then some [] else none
  | hasSign, hasValue, c :: rest =>
      if c == '+' || c == '-' then
        if hasValue then some (c :: rest)
        else if hasSign then none
        else exponentEnd? true false rest
      else if c.isDigit then exponentEnd? hasSign true rest
      else if c == '_' then exponentEnd? hasSign hasValue rest
      else if hasValue then some (c :: rest)
      else none

def floatDigitsEnd? : Bool → List Char → Option (List Char)
  | hasDot, [] => if hasDot then some [] else none
  | hasDot, c :: rest =>
      if c.isDigit || c == '_' then floatDigitsEnd? hasDot rest
      else if c == '.' then
        if hasDot then some (c :: rest)
        else
          match rest with
          | next :: _ =>
              if next == '.' || isIdentifierStart next then none else floatDigitsEnd? true rest
          | [] => some []
      else if c == 'e' || c == 'E' then
        match exponentEnd? false false rest with
        | some after => some after
        | none => if hasDot then some (c :: rest) else none
      else if hasDot then some (c :: rest)
      else none

def floatEnd? : List Char → Option (List Char)
  | [] => none
  | c :: rest =>
      if c.isDigit then
        match floatDigitsEnd? false rest with
        | some after => wordBreak? (suffixEnd after)
        | none => none
      else none

def intDigitsEnd? (base : Nat) : Bool → List Char → Option (Bool × List Char)
  | hasDigit, [] => some (hasDigit, [])
  | hasDigit, c :: rest =>
      if c.isDigit then
        if c.toNat - '0'.toNat < base then intDigitsEnd? base true rest else none
      else if c == '_' then
        if !hasDigit && base == 10 then none else intDigitsEnd? base hasDigit rest
      else
        match hexValue? c with
        | some digit =>
            if digit < base then intDigitsEnd? base true rest else some (hasDigit, c :: rest)
        | none => some (hasDigit, c :: rest)

def intEnd? (cs : List Char) : Option (List Char) :=
  let digits :=
    match cs with
    | '0' :: 'x' :: rest => intDigitsEnd? 16 false rest
    | '0' :: 'o' :: rest => intDigitsEnd? 8 false rest
    | '0' :: 'b' :: rest => intDigitsEnd? 2 false rest
    | _ => intDigitsEnd? 10 false cs
  match digits with
  | some (true, rest) => wordBreak? (suffixEnd rest)
  | _ => none

def literalEnd? (cs : List Char) : Option (List Char) :=
  StringForm.text.literalEnd? "\"" "r" cs
    <|> StringForm.bytes.literalEnd? "b\"" "br" cs
    <|> StringForm.cText.literalEnd? "c\"" "cr" cs
    <|> ((dropLead? "b'" cs).bind StringForm.bytes.charEnd?)
    <|> ((dropLead? "'" cs).bind StringForm.text.charEnd?)
    <|> floatEnd? cs
    <|> intEnd? cs

end Wiring.Grammar
