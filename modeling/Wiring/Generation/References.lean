import Wiring.Diagnostic
import Wiring.Plan.DependencyGraph

/-!
What is wrong with the references of a module. A reference that cannot construct its module is an
error; one to a module outside the compilation is only worth a warning.
-/

set_option autoImplicit false

namespace Wiring.Generation

open Wiring.Plan

def problemAt (module : ModuleDescriptor) (message : String) : Diagnostic :=
  ⟨.error, module.sourceFile, module.line, message⟩

/-- The number of arguments has to be that of the constructor. A reference without arguments needs
a constructor without parameters. -/
def argumentProblems (module : ModuleDescriptor) (reference : ModuleReference)
    (target : ModuleDescriptor) : List Diagnostic :=
  let given := reference.arguments.length
  let wanted := toString target.constructor.length
  if reference.arguments.isEmpty && target.isParameterized then
    [problemAt module ("module " ++ module.id ++ " depends on " ++ target.id ++
      " without arguments, but its constructor takes " ++ wanted)]
  else if !reference.arguments.isEmpty && given != target.constructor.length then
    [problemAt module ("module " ++ module.id ++ " passes " ++ toString given ++
      " arguments to " ++ target.id ++ ", whose constructor takes " ++ wanted)]
  else []

def propertyProblems (module : ModuleDescriptor) (reference : ModuleReference)
    (target : ModuleDescriptor) : List Diagnostic :=
  (reference.properties.filter fun override =>
      !target.properties.any fun property => property.name == override.name).map
    fun override => problemAt module ("module " ++ module.id ++ " sets unknown property " ++
      override.name ++ " on " ++ target.id)

/-- The problems of one reference. Nothing is known about modules outside the compilation. -/
def problemsOf (graph : DependencyGraph) (module : ModuleDescriptor) (reference : ModuleReference) :
    List Diagnostic :=
  match graph.get? reference.module.fullName with
  | some target =>
      argumentProblems module reference target ++ propertyProblems module reference target
  | none => []

def referenceProblems (graph : DependencyGraph) (module : ModuleDescriptor) : List Diagnostic :=
  module.references.flatMap (problemsOf graph module)

def externalWarning (module : ModuleDescriptor) (target : String) : Diagnostic :=
  ⟨.warning, module.sourceFile, module.line,
    "module " ++ module.id ++ " references " ++ target ++
      ", which is not part of this compilation"⟩

def externalWarnings (graph : DependencyGraph) : List Diagnostic :=
  graph.externalReferences.map fun (module, target) => externalWarning module target

end Wiring.Generation
