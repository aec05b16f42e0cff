import Mathlib.Data.List.Induction
import Wiring.Proofs.Plan.Consolidation

/-!
# Consolidation piece by piece

Taking in the modules that some declarations consolidate to is taking in the declarations
themselves, whatever was taken in before.  So where they share their settings, a segment of
declarations may be replaced by its modules: see `consolidate_piecewise`.
-/

set_option autoImplicit false

namespace Wiring.Plan

/-! ## Which of two declarations stays -/

/-- The one of two declarations of one module that stays when the second follows the first. -/
def prevailing (first module : ModuleDescriptor) : ModuleDescriptor :=
  if first.autoGenerated && !module.autoGenerated then module else first

theorem identity_prevailing {first module : ModuleDescriptor}
    (same : first.identity = module.identity) :
    (prevailing first module).identity = first.identity := by
  unfold prevailing
  split
  · exact same.symm
  · rfl

theorem prevailing_assoc (first second third : ModuleDescriptor) :
    prevailing (prevailing first second) third = prevailing first (prevailing second third) := by
  unfold prevailing
  cases madeFirst : first.autoGenerated <;> cases madeSecond : second.autoGenerated <;>
    cases madeThird : third.autoGenerated <;> simp [madeFirst, madeSecond, madeThird]

/-! ## Taking in twice -/

theorem takeIn_cons_same {first module : ModuleDescriptor}
    (same : first.identity = module.identity) (rest : List ModuleDescriptor) :
    takeIn module (first :: rest) = prevailing first module :: rest := by
  rw [takeIn, if_pos (by simpa using same)]
  rfl

theorem takeIn_cons_other {first module : ModuleDescriptor}
    (apart : first.identity ≠ module.identity) (rest : List ModuleDescriptor) :
    takeIn module (first :: rest) = first :: takeIn module rest := by
  rw [takeIn, if_neg (by simpa using apart)]

theorem takeIn_takeIn_same {first second : ModuleDescriptor}
    (same : first.identity = second.identity) (modules : List ModuleDescriptor) :
    takeIn second (takeIn first modules) = takeIn (prevailing first second) modules := by
  have both := identity_prevailing same
  induction modules with
  | nil => exact takeIn_cons_same same []
  | cons existing rest ih =>
      by_cases here : existing.identity = first.identity
      · have keeps : (prevailing existing first).identity = second.identity :=
          (identity_prevailing here).trans (here.trans same)
        rw [takeIn_cons_same here, takeIn_cons_same keeps, takeIn_cons_same (here.trans both.symm),
          prevailing_assoc]
      · have apart : existing.identity ≠ second.identity := same ▸ here
        have apartBoth : existing.identity ≠ (prevailing first second).identity := both ▸ here
        rw [takeIn_cons_other here, takeIn_cons_other apart, takeIn_cons_other apartBoth, ih]

/-- Declarations of two modules may be taken in in either order where one of the modules has its
place already. -/
theorem takeIn_comm {module other : ModuleDescriptor} (apart : other.identity ≠ module.identity)
    {modules : List ModuleDescriptor}
    (known : module.identity ∈ modules.map ModuleDescriptor.identity) :
    takeIn module (takeIn other modules) = takeIn other (takeIn module modules) := by
  induction modules with
  | nil => simp at known
  | cons existing rest ih =>
      by_cases here : existing.identity = module.identity
      · have elsewhere : existing.identity ≠ other.identity := here ▸ apart.symm
        have elsewhere' : (prevailing existing module).identity ≠ other.identity := by
          rw [identity_prevailing here]
          exact elsewhere
        rw [takeIn_cons_other elsewhere, takeIn_cons_same here, takeIn_cons_same here,
          takeIn_cons_other elsewhere']
      · have knownRest : module.identity ∈ rest.map ModuleDescriptor.identity := by
          simpa [Ne.symm here] using known
        by_cases there : existing.identity = other.identity
        · have stays : (prevailing existing other).identity ≠ module.identity := by
            rw [identity_prevailing there]
            exact here
          rw [takeIn_cons_same there, takeIn_cons_other stays, takeIn_cons_other here,
            takeIn_cons_same there]
        · rw [takeIn_cons_other there, takeIn_cons_other here, takeIn_cons_other here,
            takeIn_cons_other there, ih knownRest]

/-! ## Taking in several declarations -/

def takeInAll (modules declared : List ModuleDescriptor) : List ModuleDescriptor :=
  declared.foldl (fun modules module => takeIn module modules) modules

theorem takeInAll_append (modules first second : List ModuleDescriptor) :
    takeInAll modules (first ++ second) = takeInAll (takeInAll modules first) second :=
  List.foldl_append

theorem consolidate_modules (entries : List Entry) :
    (consolidate entries).modules = takeInAll [] (keptModules entries) :=
  rfl

/-- A module that has its place may be taken in before declarations of other modules or after
them. -/
theorem takeIn_takeInAll_comm {module : ModuleDescriptor} {others : List ModuleDescriptor}
    (apart : module.identity ∉ others.map ModuleDescriptor.identity)
    {modules : List ModuleDescriptor}
    (known : module.identity ∈ modules.map ModuleDescriptor.identity) :
    takeIn module (takeInAll modules others) = takeInAll (takeIn module modules) others := by
  induction others generalizing modules with
  | nil => rfl
  | cons other others ih =>
      simp only [List.map_cons, List.mem_cons, not_or] at apart
      have stillKnown : module.identity ∈ (takeIn other modules).map ModuleDescriptor.identity := by
        rw [identities_takeIn]
        split
        · exact known
        · exact List.mem_append_left _ known
      calc takeIn module (takeInAll (takeIn other modules) others)
          = takeInAll (takeIn module (takeIn other modules)) others := ih apart.2 stillKnown
        _ = takeInAll (takeIn other (takeIn module modules)) others := by
            rw [takeIn_comm (Ne.symm apart.1) known]

theorem takeInAll_takeIn {settled : List ModuleDescriptor}
    (once : (settled.map ModuleDescriptor.identity).Nodup) (module : ModuleDescriptor)
    (modules : List ModuleDescriptor) :
    takeInAll modules (takeIn module settled) = takeIn module (takeInAll modules settled) := by
  induction settled generalizing modules with
  | nil => rfl
  | cons first rest ih =>
      rw [List.map_cons, List.nodup_cons] at once
      by_cases same : first.identity = module.identity
      · -- The module got its place with `first`, and none of the others is a declaration of it.
        have placed : module.identity ∈ (takeIn first modules).map ModuleDescriptor.identity := by
          rw [identities_takeIn, ← same]
          split
          · assumption
          · exact List.mem_append_right _ (List.mem_singleton_self _)
        have apart : module.identity ∉ rest.map ModuleDescriptor.identity := same ▸ once.1
        calc takeInAll modules (takeIn module (first :: rest))
            = takeInAll (takeIn (prevailing first module) modules) rest := by
              rw [takeIn_cons_same same]
              rfl
          _ = takeInAll (takeIn module (takeIn first modules)) rest := by
              rw [takeIn_takeIn_same same]
          _ = takeIn module (takeInAll modules (first :: rest)) :=
              (takeIn_takeInAll_comm apart placed).symm
      · rw [takeIn_cons_other same]
        exact ih once.2 (takeIn first modules)

theorem takeInAll_settled (modules declared : List ModuleDescriptor) :
    takeInAll modules (takeInAll [] declared) = takeInAll modules declared := by
  induction declared using List.reverseRecOn with
  | nil => rfl
  | append_singleton declared last ih =>
      have settles : Settles declared (takeInAll [] declared) := settles_nil.foldl declared
      calc takeInAll modules (takeInAll [] (declared ++ [last]))
          = takeInAll modules (takeIn last (takeInAll [] declared)) := by
            rw [takeInAll_append]
            rfl
        _ = takeIn last (takeInAll modules declared) := by
            rw [takeInAll_takeIn settles.once, ih]
        _ = takeInAll modules (declared ++ [last]) := by
            rw [takeInAll_append]
            rfl

/-! ## Segments -/

theorem keptModules_append (first second : List Entry) :
    keptModules (first ++ second) = keptModules first ++ keptModules second := by
  simp [keptModules]

theorem Chosen.mem {declared : List ModuleDescriptor} {module : ModuleDescriptor}
    (chosen : Chosen declared module) : module ∈ declared := by
  rcases chosen with found | ⟨-, found⟩
  · exact List.mem_of_find?_eq_some found
  · exact List.mem_of_find?_eq_some found

/-- With the settings that the declarations share, each of their modules counts. -/
theorem keptModules_consolidated {settings : Settings} {entries : List Entry}
    (shared : ∀ entry ∈ entries, entry.2 = settings) :
    keptModules ((consolidate entries).modules.map fun module => (module, settings)) =
      (consolidate entries).modules := by
  have kept : ∀ module ∈ (consolidate entries).modules, isKept (module, settings) = true := by
    intro module member
    have declared := ((settles_keptModules entries).chosen module member).mem
    obtain ⟨entry, counts, rfl⟩ := List.mem_map.mp declared
    obtain ⟨listed, keeps⟩ := List.mem_filter.mp counts
    rwa [← shared entry listed]
  rw [keptModules, List.filter_eq_self.mpr, List.map_map]
  · exact List.map_id _
  · intro entry member
    obtain ⟨module, listed, rfl⟩ := List.mem_map.mp member
    exact kept module listed

/-- A segment of declarations that share their settings may be replaced by the modules that it
consolidates to, with these settings: the modules of the whole stay the same, in the same order.
With nothing before and after the segment, this is idempotence. -/
theorem consolidate_piecewise {settings : Settings} (before segment after : List Entry)
    (shared : ∀ entry ∈ segment, entry.2 = settings) :
    (consolidate (before ++ (consolidate segment).modules.map (fun module => (module, settings)) ++
        after)).modules =
      (consolidate (before ++ segment ++ after)).modules := by
  have replaced := takeInAll_settled (takeInAll [] (keptModules before)) (keptModules segment)
  have kept := keptModules_consolidated shared
  rw [consolidate_modules] at kept
  simp only [consolidate_modules, keptModules_append, takeInAll_append, kept, replaced]

def madeUpSettings : Settings :=
  { Settings.default with autoGenerateModule := true }

def declaredAt (file name : String) (madeUp : Bool) : Entry :=
  ({ ModuleDescriptor.ofType (.of "shop" name) file with autoGenerated := madeUp }, madeUpSettings)

theorem consolidate_piecewise_shop :
    (∀ entry ∈ [declaredAt "src/tool.rs" "Tool" true, declaredAt "src/main.rs" "Orders" true,
        declaredAt "src/shop.rs" "Program" false], entry.2 = madeUpSettings) ∧
      (consolidate ([declaredAt "src/main.rs" "Program" true] ++
          ([declaredAt "src/main.rs" "Orders" true, declaredAt "src/shop.rs" "Program" false]) ++
          [declaredAt "src/orders.rs" "Orders" false])).modules =
        [(declaredAt "src/shop.rs" "Program" false).1,
          (declaredAt "src/orders.rs" "Orders" false).1] := by
  have shared : ∀ entry ∈ [declaredAt "src/tool.rs" "Tool" true,
      declaredAt "src/main.rs" "Orders" true, declaredAt "src/shop.rs" "Program" false],
      entry.2 = madeUpSettings := by decide
  refine ⟨shared, ?_⟩
  exact (consolidate_piecewise [declaredAt "src/main.rs" "Program" true] _
    [declaredAt "src/orders.rs" "Orders" false] shared).trans (by decide)

end Wiring.Plan
