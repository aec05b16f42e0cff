/-!
Why discovering declarations or generating units failed.
-/

set_option autoImplicit false

namespace Wiring

inductive FileFault where
  | notFound
  | exists
  | notDirectory
  | isDirectory
  | directoryNotEmpty
  | notText
  | other (text : String)
deriving DecidableEq, Repr

def FileFault.text : FileFault → String
  | .notFound => "No such file or directory (os error 2)"
  | .exists => "File exists (os error 17)"
  | .notDirectory => "Not a directory (os error 20)"
  | .isDirectory => "Is a directory (os error 21)"
  | .directoryNotEmpty => "Directory not empty (os error 39)"
  | .notText => "stream did not contain valid UTF-8"
  | .other text => text

inductive Failure where
  | io (fault : FileFault)
  | walk (path : String) (fault : FileFault)
  | unreadable (path : String) (fault : FileFault)
  | parse (path message : String)
  | malformed (path : String) (line : Nat) (message : String)
  | unknownLifetime (name : String)
  | unknownVerb (message : String)
  | unknownFactory (service factory : String)
  | moduleNotFound (name : String)
  | cancelled
deriving DecidableEq, Repr

namespace Failure

def message : Failure → String
  | .io fault => "I/O error: " ++ fault.text
  | .walk path fault =>
      "I/O error: IO error for operation on " ++ path ++ ": " ++ fault.text
  | .unreadable path fault => "Failed to read " ++ path ++ ": " ++ fault.text
  | .parse path message => "Failed to parse " ++ path ++ ": " ++ message
  | .malformed path line message => path ++ ":" ++ toString line ++ ": " ++ message
  | .unknownLifetime name => "Unknown service lifetime attribute: " ++ name
  | .unknownVerb message => message
  | .unknownFactory service factory =>
      "Factory '" ++ factory ++ "' referenced by " ++ service ++ " was not found"
  | .moduleNotFound name => "Module not found: " ++ name
  | .cancelled => "Generation cancelled"

def line? : Failure → Option Nat
  | .malformed _ line _ => some line
  | _ => none

end Failure

end Wiring
