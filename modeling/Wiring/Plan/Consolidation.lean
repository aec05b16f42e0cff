import Wiring.Declaration.Module
import Wiring.Settings.Basic

/-!
One descriptor for each module. A declaration of the user wins over a made-up one, and otherwise
the first wins; modules stand in the order in which they were first seen.
-/

set_option autoImplicit false

namespace Wiring.Plan

abbrev Entry := ModuleDescriptor × Settings

/-- Whether a declaration counts: a made-up module does only where the settings ask for it, and
only from the program entry. -/
def isKept (entry : Entry) : Bool :=
  !entry.1.autoGenerated ||
    (entry.2.autoGenerateModule && entry.2.isProgramEntry entry.1.sourceFile)

def keptModules (entries : List Entry) : List ModuleDescriptor :=
  (entries.filter isKept).map (·.1)

/-- Takes in a declaration: a new module goes to the end, and a declaration of the user takes the
place of a made-up one. -/
def takeIn (module : ModuleDescriptor) : List ModuleDescriptor → List ModuleDescriptor
  | [] => [module]
  | first :: rest =>
      if first.identity == module.identity then
        (if first.autoGenerated && !module.autoGenerated then module else first) :: rest
      else first :: takeIn module rest

structure Consolidated where
  modules : List ModuleDescriptor
  settings : Settings
deriving DecidableEq, Repr

/-- The one descriptor of each module that is declared. The settings are those of the first
declaration. -/
def consolidate (entries : List Entry) : Consolidated :=
  ⟨(keptModules entries).foldl (fun modules module => takeIn module modules) [],
    ((entries.head?).map (·.2)).getD .default⟩

def Consolidated.module? (found : Consolidated) (id : String) : Option ModuleDescriptor :=
  found.modules.find? fun module => module.id == id

end Wiring.Plan
