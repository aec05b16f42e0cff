import Wiring.Text.Segments

/-!
The arguments of the command line. Each command knows some options; what is wrong with a value is
only noticed when the next argument is taken in, so a name that is not known is reported first.
-/

set_option autoImplicit false

namespace Wiring.CommandLine

open Wiring.Text

inductive Command where
  | generate (project : String) (out : Option String)
  /-- Show the order in which the modules below a module are applied. -/
  | graph (module project : String)
  | inspect (project : String)
deriving DecidableEq, Repr

structure Invocation where
  isVerbose : Bool
  command : Command
deriving DecidableEq, Repr

inductive UsageError where
  | unknownArgument
  | unknownCommand
  | lackingValue
  | repeatedOption
  | needlessValue
  | lackingArgument
  | lackingCommand
  /-- Help is asked for, or it is all that can be shown for want of arguments. -/
  | help
  | version
  | nothingGiven
deriving DecidableEq, Repr

inductive CommandName where
  | generate
  | graph
  | inspect
  | help
deriving DecidableEq, Repr

def CommandName.ofText? (text : String) : Option CommandName :=
  if text == "generate" then some .generate
  else if text == "graph" then some .graph
  else if text == "inspect" then some .inspect
  else if text == "help" then some .help
  else none

/-! ## Options -/

inductive OptionName where
  | verbose
  | help
  | version
  | project
  | out
deriving DecidableEq, Repr

def OptionName.hasValue : OptionName → Bool
  | .project => true
  | .out => true
  | _ => false

structure OptionForm where
  letter : Char
  name : String
  option : OptionName
deriving DecidableEq, Repr

def commonOptions : List OptionForm :=
  [⟨'v', "verbose", .verbose⟩, ⟨'h', "help", .help⟩, ⟨'V', "version", .version⟩]

def optionsOf (command : CommandName) : List OptionForm :=
  [⟨'v', "verbose", .verbose⟩, ⟨'h', "help", .help⟩, ⟨'p', "project", .project⟩] ++
    if command == .generate then [⟨'o', "out", .out⟩] else []

/-! ## State -/

structure Taken where
  isVerbose : Bool
  project : Option String
  out : Option String
  argument : Option String
  pending : Option (OptionName × Option String)
  /-- All that follows are no options. -/
  onlyArguments : Bool
deriving DecidableEq, Repr

def Taken.nothing : Taken :=
  ⟨false, none, none, none, none, false⟩

namespace Taken

/-- Gives an option its value: only once, and not an empty one. -/
def setValue (taken : Taken) (option : OptionName) (value : String) :
    Except UsageError Taken :=
  let given :=
    match option with
    | .project => taken.project
    | _ => taken.out
  if given.isSome then .error .repeatedOption
  else if value.isEmpty then .error .lackingValue
  else
    match option with
    | .project => .ok { taken with project := some value }
    | _ => .ok { taken with out := some value }

def settle (taken : Taken) : Except UsageError Taken :=
  match taken.pending with
  | none => .ok taken
  | some (_, none) => .error .lackingValue
  | some (option, some value) => { taken with pending := none }.setValue option value

def switch (taken : Taken) (option : OptionName) : Except UsageError Taken := do
  let taken ← taken.settle
  match option with
  | .help => throw .help
  | .version => throw .version
  | _ => if taken.isVerbose then throw .repeatedOption else return { taken with isVerbose := true }

def option (taken : Taken) (option : OptionName) (value : Option String) :
    Except UsageError Taken := do
  let taken ← taken.settle
  match value with
  | some value => taken.setValue option value
  | none => return { taken with pending := some (option, none) }

def long (taken : Taken) (forms : List OptionForm) (text : List Char) : Except UsageError Taken :=
  let name := String.ofList (text.takeWhile (· != '='))
  let value :=
    match text.dropWhile (· != '=') with
    | _ :: value => some (String.ofList value)
    | [] => none
  match forms.find? fun form => form.name == name with
  | none => .error .unknownArgument
  | some form =>
      if form.option.hasValue then taken.option form.option value
      else if value.isSome then .error .needlessValue
      else taken.switch form.option

/-- Takes in options by their letters. What follows the letter of an option with a value is that
value. -/
def short (taken : Taken) (forms : List OptionForm) : List Char → Except UsageError Taken
  | [] => .ok taken
  | c :: rest =>
      match forms.find? fun form => form.letter == c with
      | none => .error .unknownArgument
      | some form =>
          if form.option.hasValue then
            match rest with
            | [] => taken.option form.option none
            | '=' :: value => taken.option form.option (some (String.ofList value))
            | value => taken.option form.option (some (String.ofList value))
          else
            match taken.switch form.option with
            | .ok taken => taken.short forms rest
            | .error error => .error error

/-- Takes in an argument that is no option: the value that the last option waits for, or the one
argument of a command that has one. -/
def plain (taken : Taken) (hasArgument : Bool) (text : String) : Except UsageError Taken :=
  match taken.pending, taken.onlyArguments with
  | some (option, none), false => .ok { taken with pending := some (option, some text) }
  | _, _ =>
      if hasArgument && taken.argument.isNone then do
        let taken ← taken.settle
        return { taken with argument := some text }
      else .error .unknownArgument

def take (taken : Taken) (forms : List OptionForm) (hasArgument : Bool) (text : String) :
    Except UsageError Taken :=
  if taken.onlyArguments then taken.plain hasArgument text
  else
    match text.toList with
    | ['-', '-'] => .ok { taken with onlyArguments := true }
    | '-' :: '-' :: rest => taken.long forms rest
    | '-' :: c :: rest => taken.short forms (c :: rest)
    | _ => taken.plain hasArgument text

def takeAll (forms : List OptionForm) (hasArgument : Bool) :
    Taken → List String → Except UsageError Taken
  | taken, [] => taken.settle
  | taken, text :: rest => do takeAll forms hasArgument (← taken.take forms hasArgument text) rest

end Taken

/-! ## Commands -/

def defaultProject : String :=
  "."

def commandOf (name : CommandName) (isVerbose : Bool) (arguments : List String) :
    Except UsageError Invocation := do
  let taken ← Taken.takeAll (optionsOf name) (name == .graph) .nothing arguments
  let project := taken.project.getD defaultProject
  let isVerbose := isVerbose || taken.isVerbose
  match name, taken.argument with
  | .generate, _ => return ⟨isVerbose, .generate project taken.out⟩
  | .graph, some module => return ⟨isVerbose, .graph module project⟩
  | .graph, none => throw .lackingArgument
  | .inspect, _ => return ⟨isVerbose, .inspect project⟩
  | .help, _ => throw .help

/-- Help for a command: there are none below the commands. -/
def helpError : List String → UsageError
  | [] => .help
  | [name] => if (CommandName.ofText? name).isSome then .help else .unknownCommand
  | _ => .unknownCommand

def invocationOf : Taken → List String → Except UsageError Invocation
  | taken, [] =>
      if taken.isVerbose then .error .lackingCommand else .error .nothingGiven
  | taken, text :: rest =>
      match CommandName.ofText? text, taken.onlyArguments with
      | some .help, false => .error (helpError rest)
      | some name, false => commandOf name taken.isVerbose rest
      | some _, true => .error .unknownArgument
      | none, isOnly =>
          if isOnly || !startsWith "-" text || text == "-" then .error .unknownCommand
          else
            match taken.take commonOptions false text with
            | .ok taken => invocationOf taken rest
            | .error error => .error error

def parse (arguments : List String) : Except UsageError Invocation :=
  invocationOf .nothing arguments

end Wiring.CommandLine
