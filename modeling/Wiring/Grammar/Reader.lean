import Wiring.Grammar.Error
import Wiring.Grammar.LiteralValue

/-!
Readers of token trees. A reader works inside one group at a time: what it leaves over there is
remembered and refused only when everything else has been read.
-/

set_option autoImplicit false

namespace Wiring.Grammar

/-- The group that a reader stands in: the line of its closing bracket and its kind. The text as
a whole ends on line one and has no bracket. -/
structure Scope where
  closeLine : Nat
  delimiter : Option Delimiter

/-- Tokens that a finished group left over: the line of the first, and the group. -/
structure LeftOver where
  line : Nat
  inside : Option Delimiter

structure ReaderState where
  rest : List SyntaxTree
  leftOver : Option LeftOver

abbrev Reader (α : Type) := ReaderT Scope (StateT ReaderState (Except SyntaxError)) α

/-! ## Looking ahead -/

namespace Ahead

def punctChars : List Char → List SyntaxTree → Bool
  | [], _ => true
  | [c], .token kind text _ _ :: _ => (kind == .punct || kind == .joined) && text == c.toString
  | c :: more, .token .joined text _ _ :: rest => text == c.toString && punctChars more rest
  | _, _ => false

/-- Whether the punctuation stands at the head; a longer one that begins alike counts too. -/
def punct (text : String) (ahead : List SyntaxTree) : Bool :=
  punctChars text.toList ahead

/-- Punctuation that stands at the head is whole: each character but the last is joined to the
next, and leaves nothing pending. -/
theorem after?_of_punctChars {chars : List Char} {ahead : List SyntaxTree}
    (found : punctChars chars ahead = true) :
    ∃ place, Place.apart.after? 0 chars = some (place, 0) ∧ place.isOutside = true := by
  fun_induction punctChars chars ahead with
  | case1 => exact ⟨.apart, rfl, rfl⟩
  | case2 c kind text _ whole =>
      rw [Bool.and_eq_true, beq_iff_eq] at found
      obtain ⟨-, rfl⟩ := found
      obtain ⟨place, reads, outside, -⟩ := isWhole_iff.mp whole
      rw [Char.toString, String.toList_singleton] at reads
      exact ⟨place, reads, outside⟩
  | case3 c more text _ whole _ _ ih =>
      rw [Bool.and_eq_true, beq_iff_eq] at found
      obtain ⟨rfl, more⟩ := found
      obtain ⟨place, reads, -, apart⟩ := isWhole_iff.mp whole
      obtain rfl := apart rfl
      rw [Char.toString, String.toList_singleton] at reads
      obtain ⟨last, further, outside⟩ := ih more
      refine ⟨last, ?_, outside⟩
      rw [← List.singleton_append, Place.after?_append, reads]
      exact further
  | case4 => cases found

theorem isWhole_of_punct {text : String} {ahead : List SyntaxTree}
    (found : punct text ahead = true) : isWhole false text = true := by
  obtain ⟨place, reads, outside⟩ := after?_of_punctChars found
  exact isWhole_iff.mpr ⟨place, reads, outside, fun joined => by cases joined⟩

def word (text : String) : List SyntaxTree → Bool
  | .token .ident found _ _ :: _ => found == text
  | _ => false

theorem isWhole_of_word {text : String} {ahead : List SyntaxTree}
    (found : word text ahead = true) : isWhole false text = true := by
  unfold word at found
  split at found
  · rename_i whole _
    rw [beq_iff_eq] at found
    exact found ▸ whole
  · cases found

def anyWord : List SyntaxTree → Bool
  | .token .ident _ _ _ :: _ => true
  | _ => false

def keywords : List String := [
  "_", "abstract", "as", "async", "await", "become", "box", "break", "const", "continue", "crate",
  "do", "dyn", "else", "enum", "extern", "false", "final", "fn", "for", "if", "impl", "in", "let",
  "loop", "macro", "match", "mod", "move", "mut", "override", "priv", "pub", "ref", "return",
  "Self", "self", "static", "struct", "super", "trait", "true", "try", "type", "typeof", "unsafe",
  "unsized", "use", "virtual", "where", "while", "yield"]

def name : List SyntaxTree → Bool
  | .token .ident text _ _ :: _ => !keywords.contains text
  | _ => false

def lifetime : List SyntaxTree → Bool
  | .token .lifetime _ _ _ :: _ => true
  | _ => false

def group (delimiter : Delimiter) : List SyntaxTree → Bool
  | .group found _ _ _ :: _ => found == delimiter
  | _ => false

/-- Whether a literal stands at the head: a token, a truth value or a negated number. -/
def literal : List SyntaxTree → Bool
  | .token .literal _ _ _ :: _ => true
  | .token .ident text _ _ :: _ => text == "true" || text == "false"
  | .token _ "-" _ _ :: .token .literal text _ _ :: _ =>
      literalClass text == .integer || literalClass text == .float
  | _ => false

def literalOf (kind : LiteralClass) : List SyntaxTree → Bool
  | .token .literal text _ _ :: _ => literalClass text == kind
  | _ => false

def second (test : List SyntaxTree → Bool) (ahead : List SyntaxTree) : Bool :=
  test (ahead.drop 1)

def third (test : List SyntaxTree → Bool) (ahead : List SyntaxTree) : Bool :=
  test (ahead.drop 2)

end Ahead

namespace Reader

def ahead : Reader (List SyntaxTree) := do
  return (← get).rest

def peek (test : List SyntaxTree → Bool) : Reader Bool := do
  return test (← ahead)

def isEmpty : Reader Bool :=
  peek List.isEmpty

def lineAhead : Reader Nat := do
  match ← ahead with
  | [] => return (← read).closeLine
  | tree :: _ => return tree.line

def refuse {α : Type} (cause : Cause) : Reader α := do
  throw ⟨cause, ← lineAhead, ← isEmpty⟩

def expected {α : Type} (alternatives : List String) : Reader α :=
  refuse (.expected alternatives)

def refuseAt {α : Type} (line : Nat) (cause : Cause) : Reader α :=
  throw ⟨cause, line, false⟩

def quote (text : String) : String :=
  "`" ++ text ++ "`"

/-- Runs a reader and keeps what it read if it succeeds; a refusal reads nothing. -/
def attempt {α : Type} (reader : Reader α) : Reader (Option α) := fun scope state =>
  match reader scope state with
  | .ok (value, state) => .ok (some value, state)
  | .error _ => .ok (none, state)

def lookAhead {α : Type} (reader : Reader α) : Reader α := fun scope state =>
  match reader scope state with
  | .ok (value, _) => .ok (value, state)
  | .error error => .error error

def next? : Reader (Option SyntaxTree) := do
  match ← ahead with
  | [] => return none
  | tree :: rest =>
      modify fun state => { state with rest }
      return some tree

def punct (text : String) : Reader SyntaxTree := do
  let tokens ← ahead
  if found : Ahead.punct text tokens = true then
    let line ← lineAhead
    modify fun state => { state with rest := state.rest.drop text.length }
    return .token .punct text line (Ahead.isWhole_of_punct found)
  else
    refuseAt (← lineAhead) (.expected [quote text])

def keyword (text : String) : Reader SyntaxTree := do
  let tokens ← ahead
  if found : Ahead.word text tokens = true then
    let line ← lineAhead
    modify fun state => { state with rest := state.rest.drop 1 }
    return .token .ident text line (Ahead.isWhole_of_word found)
  else
    expected [quote text]

def anyWord : Reader SyntaxTree := do
  match ← ahead with
  | tree@(.token .ident _ _ _) :: rest =>
      modify fun state => { state with rest }
      return tree
  | _ => expected ["ident"]

def name : Reader SyntaxTree := do
  match ← ahead with
  | tree@(.token .ident text _ _) :: rest =>
      if Ahead.keywords.contains text then refuse (.keywordAsName text)
      else
        modify fun state => { state with rest }
        return tree
  | _ => expected ["identifier"]

def lifetime : Reader SyntaxTree := do
  match ← ahead with
  | tree@(.token .lifetime _ _ _) :: rest =>
      modify fun state => { state with rest }
      return tree
  | _ => expected ["lifetime"]

/-- Reads a literal; a negated number is its sign and its digits. -/
def literal : Reader SyntaxTree := do
  match ← ahead with
  | tree@(.token .literal _ _ _) :: rest =>
      modify fun state => { state with rest }
      return .node .literalExpr [tree]
  | tree@(.token .ident text _ _) :: rest =>
      if text == "true" || text == "false" then
        modify fun state => { state with rest }
        return .node .literalExpr [tree]
      else expected ["literal"]
  | .token _ "-" line _ :: tree@(.token .literal text _ _) :: rest =>
      if literalClass text == .integer || literalClass text == .float then
        modify fun state => { state with rest }
        return .node .literalExpr [.token .punct "-" line (by decide), tree]
      else expected ["literal"]
  | _ => expected ["literal"]

def stringLiteral : Reader SyntaxTree := do
  match ← ahead with
  | tree@(.token .literal text _ _) :: rest =>
      if literalClass text == .string then
        modify fun state => { state with rest }
        return tree
      else expected ["string literal"]
  | _ => expected ["string literal"]

def groupName : Delimiter → String
  | .parenthesis => "parentheses"
  | .bracket => "square brackets"
  | .brace => "curly braces"

/-- Notes tokens that the reader of a group left over, unless others were noted before. -/
def noteLeftOver (before : Option LeftOver) (inside : Option Delimiter) : List SyntaxTree →
    Option LeftOver
  | [] => before
  | tree :: _ => before.or (some ⟨tree.line, inside⟩)

/-- Reads a group: the reader of its body works in the group's own scope. -/
def group {α : Type} (delimiter : Delimiter) (body : Reader α) : Reader (α × Nat × Nat) := do
  match ← ahead with
  | .group found inner openLine closeLine :: rest =>
      if found == delimiter then
        let state ← get
        let inside : Scope := ⟨closeLine, some delimiter⟩
        match body inside ⟨inner, none⟩ with
        | .error error => throw error
        | .ok (value, after) =>
            let noted := state.leftOver.or after.leftOver
            set (⟨rest, noteLeftOver noted (some delimiter) after.rest⟩ : ReaderState)
            return (value, openLine, closeLine)
      else expected [groupName delimiter]
  | _ => expected [groupName delimiter]

def groupOf (delimiter : Delimiter) (body : Reader (List SyntaxTree)) : Reader SyntaxTree := do
  let (parts, openLine, closeLine) ← group delimiter body
  return .group delimiter parts openLine closeLine

def keyword? (text : String) : Reader (List SyntaxTree) := do
  if ← peek (Ahead.word text) then return [← keyword text] else return []

def punct? (text : String) : Reader (List SyntaxTree) := do
  if ← peek (Ahead.punct text) then return [← punct text] else return []

def allTokens : Reader (List SyntaxTree) := do
  let rest ← ahead
  modify fun state => { state with rest := [] }
  return rest

def since (start : List SyntaxTree) : Reader (List SyntaxTree) := do
  return start.take (start.length - (← ahead).length)

/-! ## Repetition

Each round of a list consumes a token, so the number of tokens ahead bounds the rounds. -/

def manyUntil (stop : Reader Bool) (value : Reader SyntaxTree) : Reader (List SyntaxTree) := do
  loop ((← ahead).length + 1) []
where
  loop : Nat → List SyntaxTree → Reader (List SyntaxTree)
    | 0, done => return done.reverse
    | fuel + 1, done => do
        if ← stop then return done.reverse
        else loop fuel ((← value) :: done)

/-- Reads values with separators between them until `stop` holds before or after a value. -/
def separated (stop : Reader Bool) (value : Reader SyntaxTree) (separator : Reader SyntaxTree) :
    Reader (List SyntaxTree) := do
  loop ((← ahead).length + 1) []
where
  loop : Nat → List SyntaxTree → Reader (List SyntaxTree)
    | 0, done => return done.reverse
    | fuel + 1, done => do
        if ← stop then return done.reverse
        else
          let tree ← value
          if ← stop then return (tree :: done).reverse
          else loop fuel ((← separator) :: tree :: done)

/-- Reads values joined by separators: `stop` holds before a value, or no separator follows. -/
def chained (stop : Reader Bool) (value : Reader SyntaxTree) (goesOn : Reader Bool)
    (separator : Reader SyntaxTree) : Reader (List SyntaxTree) := do
  loop ((← ahead).length + 1) []
where
  loop : Nat → List SyntaxTree → Reader (List SyntaxTree)
    | 0, done => return done.reverse
    | fuel + 1, done => do
        if ← stop then return done.reverse
        else
          let tree ← value
          if ← goesOn then loop fuel ((← separator) :: tree :: done)
          else return (tree :: done).reverse

/-- Reads values separated by commas to the end of the group; a comma may end the list. -/
def commaList (value : Reader SyntaxTree) : Reader (List SyntaxTree) :=
  separated isEmpty value (punct ",")

def run {α : Type} (reader : Reader α) (scope : Scope) (tokens : List SyntaxTree) :
    Except SyntaxError α :=
  match reader scope ⟨tokens, none⟩ with
  | .error error => .error error
  | .ok (value, state) =>
      match noteLeftOver state.leftOver none state.rest with
      | some left => .error ⟨.leftOver left.inside, left.line, false⟩
      | none => .ok value

def wholeText : Scope := ⟨1, none⟩

end Reader

end Wiring.Grammar
