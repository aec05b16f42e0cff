import Wiring.Proofs.Expansion.Splitting

/-!
# Forms of declaration arguments

Each argument of a module or a service has one of a few forms. The form says how a declaration
attribute checks the argument and how discovery reads it.
-/

set_option autoImplicit false

namespace Wiring.Expansion

open Wiring.Grammar
open Wiring.Grammar.Reader
open Wiring.Source

/-- The forms of arguments. -/
inductive Form where
  | flag
  | truth
  | verb
  | method
  | integer
  | types
  | dependencies
  | type
  | path
  | text
  | unknown
deriving DecidableEq, Repr

def moduleForm : String → Form
  | "only_realm" | "auto_equality" | "configure" => .flag
  | "generate_attribute" => .truth
  | "registration" => .verb
  | "use_method" => .method
  | "feature_order" => .integer
  | "features" | "handles" => .types
  | "depends_on" => .dependencies
  | _ => .unknown

def serviceForm : String → Form
  | "service" => .type
  | "realm" | "factory" => .path
  | "key" => .text
  | "registration" => .verb
  | "cross_wire" => .flag
  | _ => .unknown

def moduleNames : List String := [
  "only_realm", "auto_equality", "configure", "generate_attribute", "registration", "use_method",
  "feature_order", "features", "handles", "depends_on"]

def serviceNames : List String :=
  ["service", "realm", "factory", "key", "registration", "cross_wire"]

theorem moduleForm_of_not_mem {name : String} (other : name ∉ moduleNames) :
    moduleForm name = .unknown := by
  unfold moduleForm
  split <;> first | exact absurd (by decide) other | rfl

theorem serviceForm_of_not_mem {name : String} (other : name ∉ serviceNames) :
    serviceForm name = .unknown := by
  unfold serviceForm
  split <;> first | exact absurd (by decide) other | rfl

/-! ## What declaration attributes check -/

def checkForm (nested : Nested) (form : Form) (argument : Argument) : Except String Unit :=
  match form with
  | .flag => checkFlag argument
  | .truth => checkTruth argument
  | .verb => checkVerb argument
  | .method => do
      let text ← assigned argument textForm
      if isName text then return () else throw "`use_method` must be a method name"
  | .integer => checkAssigned argument (exprForm nested)
  | .types => checkTypes nested argument
  | .dependencies => checkDependencies nested argument
  | .type => checkAssigned argument (typeForm nested)
  | .path => checkAssigned argument (pathForm nested)
  | .text => checkAssigned argument textForm
  | .unknown => .error ""

theorem checkModuleArgument_isOk (nested : Nested) (argument : Argument) :
    (checkModuleArgument nested argument).isOk =
      (checkForm nested (moduleForm argument.name) argument).isOk := by
  obtain ⟨name, value⟩ := argument
  by_cases known : name ∈ moduleNames
  · simp only [moduleNames, List.mem_cons, List.not_mem_nil, or_false] at known
    obtain rfl | rfl | rfl | rfl | rfl | rfl | rfl | rfl | rfl | rfl := known <;> rfl
  · rw [moduleForm_of_not_mem known]
    unfold checkModuleArgument
    dsimp only
    split <;> first | exact absurd (by decide) known | rfl

theorem checkServiceArgument_isOk (nested : Nested) (argument : Argument) :
    (checkServiceArgument nested argument).isOk =
      (checkForm nested (serviceForm argument.name) argument).isOk := by
  obtain ⟨name, value⟩ := argument
  by_cases known : name ∈ serviceNames
  · simp only [serviceNames, List.mem_cons, List.not_mem_nil, or_false] at known
    obtain rfl | rfl | rfl | rfl | rfl | rfl := known <;> rfl
  · rw [serviceForm_of_not_mem known]
    unfold checkServiceArgument
    dsimp only
    split <;> first | exact absurd (by decide) known | rfl

theorem checkAll_isOk (check : Argument → Except String Unit) (written : List Argument) :
    (checkAll check written).isOk = written.all fun argument => (check argument).isOk := by
  induction written with
  | nil => rfl
  | cons argument rest ih =>
      rw [checkAll, List.all_cons, ← ih]
      cases check argument <;> rfl

/-! ## What discovery reads -/

def skim (nested : Nested) : Form → Reader Unit
  | .flag | .truth => do
      let _ ← flagValue
  | .verb => do
      let _ ← verbValue
  | .method => do
      valueSign
      let (method, line) ← stringValueOf
      if isName method then return ()
      else refuseAt line (.rule ("use_method '" ++ method ++ "' is not a valid method name"))
  | .integer => do
      let _ ← integerValue nested
  | .types => do
      let _ ← pathList
  | .dependencies => do
      let _ ← group .parenthesis
        (argumentList (fun path done => return done ++ [← rawReference nested path]) [])
  | .type => do
      valueSign
      let line ← lineAhead
      let type ← nested (.type true)
      match type.typePath? with
      | some _ => return ()
      | none => refuseAt line (.rule "service must name a type or trait")
  | .path => do
      valueSign
      let _ ← pathForm nested
  | .text => do
      valueSign
      let _ ← stringValueOf
  | .unknown => refuseAt 1 (.rule "")

section Handlers

variable (nested : Nested) {path : SyntaxTree} {name : String} {scope : Scope}
  {state : ReaderState}

theorem reads_argumentName (named : path.lonePathName? = some name) :
    reads (argumentName path) scope state = some (name, state) := by
  rw [argumentName, named]
  rfl

theorem reads_argumentName_of_none (unnamed : path.lonePathName? = none) :
    reads (argumentName path) scope state = none := by
  rw [argumentName, unnamed]
  rfl

theorem map_reads_then_pure {α β : Type} (reader : Reader α) (result : α → β) :
    (reads (reader >>= fun value => pure (result value)) scope state).map (·.2) =
      (reads reader scope state).map (·.2) := by
  rw [reads_bind]
  cases reads reader scope state <;> rfl

theorem map_reads_bind_congr {α β γ : Type} (reader : Reader α) {left : α → Reader β}
    {right : α → Reader γ}
    (same : ∀ value state, (reads (left value) scope state).map (·.2) =
      (reads (right value) scope state).map (·.2)) :
    (reads (reader >>= left) scope state).map (·.2) =
      (reads (reader >>= right) scope state).map (·.2) := by
  rw [reads_bind, reads_bind]
  cases reads reader scope state with
  | none => rfl
  | some step => exact same step.1 step.2

theorem map_reads_ite {α : Type} {condition : Prop} [Decidable condition] {left right : Reader α}
    {outcome : Option ReaderState}
    (here : condition → (reads left scope state).map (·.2) = outcome)
    (later : ¬condition → (reads right scope state).map (·.2) = outcome) :
    (reads (if condition then left else right) scope state).map (·.2) = outcome := by
  split
  · exact here ‹_›
  · exact later ‹_›

theorem reads_moduleArgument (named : path.lonePathName? = some name)
    (gathered : ModuleArguments) :
    (reads (moduleArgument nested path gathered) scope state).map (·.2) =
      (reads (skim nested (moduleForm name)) scope state).map (·.2) := by
  rw [moduleArgument, reads_bind, reads_argumentName named, Option.bind_some]
  dsimp only
  refine map_reads_ite (fun here => ?_) fun other1 => ?_
  · obtain rfl := eq_of_beq here
    exact (map_reads_then_pure ..).trans (map_reads_then_pure ..).symm
  refine map_reads_ite (fun here => ?_) fun other2 => ?_
  · obtain rfl := eq_of_beq here
    exact (map_reads_then_pure ..).trans (map_reads_then_pure ..).symm
  refine map_reads_ite (fun here => ?_) fun other3 => ?_
  · obtain rfl := eq_of_beq here
    exact (map_reads_then_pure ..).trans (map_reads_then_pure ..).symm
  refine map_reads_ite (fun here => ?_) fun other4 => ?_
  · obtain rfl := eq_of_beq here
    refine map_reads_bind_congr _ fun _ _ => map_reads_bind_congr _ fun found _ => ?_
    rw [reads_ite, reads_ite]
    split <;> rfl
  refine map_reads_ite (fun here => ?_) fun other5 => ?_
  · obtain rfl := eq_of_beq here
    exact (map_reads_then_pure ..).trans (map_reads_then_pure ..).symm
  refine map_reads_ite (fun here => ?_) fun other6 => ?_
  · obtain rfl := eq_of_beq here
    exact (map_reads_then_pure ..).trans (map_reads_then_pure ..).symm
  refine map_reads_ite (fun here => ?_) fun other7 => ?_
  · obtain rfl := eq_of_beq here
    exact (map_reads_then_pure ..).trans (map_reads_then_pure ..).symm
  refine map_reads_ite (fun here => ?_) fun other8 => ?_
  · obtain rfl := eq_of_beq here
    exact (map_reads_then_pure ..).trans (map_reads_then_pure ..).symm
  refine map_reads_ite (fun here => ?_) fun other9 => ?_
  · obtain rfl := eq_of_beq here
    exact (map_reads_then_pure ..).trans (map_reads_then_pure ..).symm
  refine map_reads_ite (fun here => ?_) fun other10 => ?_
  · obtain rfl := eq_of_beq here
    exact map_reads_bind_congr _ fun _ _ => rfl
  · have other : name ∉ moduleNames := by simp_all [moduleNames]
    rw [moduleForm_of_not_mem other]
    rfl

theorem reads_serviceArgument (named : path.lonePathName? = some name)
    (gathered : ServiceArguments) :
    (reads (serviceArgument nested path gathered) scope state).map (·.2) =
      (reads (skim nested (serviceForm name)) scope state).map (·.2) := by
  rw [serviceArgument, reads_bind, reads_argumentName named, Option.bind_some]
  dsimp only
  refine map_reads_ite (fun here => ?_) fun other1 => ?_
  · obtain rfl := eq_of_beq here
    refine map_reads_bind_congr _ fun _ _ => map_reads_bind_congr _ fun _ _ =>
      map_reads_bind_congr _ fun type _ => ?_
    cases type.typePath? <;> rfl
  refine map_reads_ite (fun here => ?_) fun other2 => ?_
  · obtain rfl := eq_of_beq here
    exact map_reads_bind_congr _ fun _ _ =>
      (map_reads_then_pure ..).trans (map_reads_then_pure ..).symm
  refine map_reads_ite (fun here => ?_) fun other3 => ?_
  · obtain rfl := eq_of_beq here
    exact map_reads_bind_congr _ fun _ _ =>
      (map_reads_then_pure ..).trans (map_reads_then_pure ..).symm
  refine map_reads_ite (fun here => ?_) fun other4 => ?_
  · obtain rfl := eq_of_beq here
    exact (map_reads_then_pure ..).trans (map_reads_then_pure ..).symm
  refine map_reads_ite (fun here => ?_) fun other5 => ?_
  · obtain rfl := eq_of_beq here
    exact (map_reads_then_pure ..).trans (map_reads_then_pure ..).symm
  refine map_reads_ite (fun here => ?_) fun other6 => ?_
  · obtain rfl := eq_of_beq here
    exact map_reads_bind_congr _ fun _ _ =>
      (map_reads_then_pure ..).trans (map_reads_then_pure ..).symm
  · have other : name ∉ serviceNames := by simp_all [serviceNames]
    rw [serviceForm_of_not_mem other]
    rfl

end Handlers

end Wiring.Expansion
