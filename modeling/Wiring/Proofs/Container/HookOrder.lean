import Mathlib.Data.List.Forall2
import Wiring.Proofs.Container.Providers

/-!
# The hooks of one load

A load runs the hooks of each module that it applies, one module after the other as they are listed,
and then lets each of them handle its features: see `hooks_in_order`. It applies what is new to the
container when its turn comes. This need not be all that was not applied before the load, for a hook
may load modules itself, and a module that has been applied may cover one behind it. Where hooks
only change registrations and equality of modules is symmetric, it is.
-/

set_option autoImplicit false

namespace Wiring.Container.Family

variable {μ : Type} {family : Family μ}

/-- Where equality is symmetric, no module of a walk hides another one from loading. -/
theorem pairwise_of_symmetric {roots list : List μ}
    (symmetric : ∀ left right, family.covers left right = family.covers right left)
    (listed : (family.walk roots).nodes = .ok list) :
    list.Pairwise fun first later => family.covers first later = false := by
  obtain ⟨-, rfl⟩ := nodes_eq_ok_iff.mp listed
  have distinct : Walk.Distinct family.rules (family.walk roots).placed :=
    Walk.distinct_visitAll family.depth (roots.map .direct) List.Pairwise.nil
  refine distinct.imp ?_
  intro first later apart
  rw [symmetric]
  exact apart

/-! ## Handlers -/

theorem handledBy_eq_handledFeatures (modules : List μ) :
    family.handledBy modules = family.handledFeatures modules := by
  induction modules with
  | nil => rfl
  | cons module rest ih =>
      have front : ∀ modules, family.handledFeatures (module :: modules) =
          (family.handles module).map (fun feature => (module, feature)) ++
            family.handledFeatures modules := fun _ => rfl
      rw [handledBy] at ih ⊢
      cases quiet : (family.handles module).isEmpty with
      | true =>
          have silent : family.handles module = [] := List.isEmpty_iff.mp quiet
          have skipped : family.handlersAmong (module :: rest) = family.handlersAmong rest := by
            simp [handlersAmong, silent]
          rw [skipped, ih, front, silent]
          rfl
      | false =>
          have taken : family.handlersAmong (module :: rest) =
              module :: family.handlersAmong rest := by
            simp [handlersAmong, quiet]
          rw [taken, front, front, ih]

/-- A call lets a handler see the providers of a feature among some modules. -/
def Answers (family : Family μ) (modules : List μ) (asked : μ × String) (call : Call μ) : Prop :=
  ∃ seen, call = .handle asked.1 asked.2 seen ∧ family.Ranked modules asked.2 seen

theorem forall₂_answers (modules : List μ) (asked : List (μ × String)) :
    List.Forall₂ (family.Answers modules) asked (asked.map (family.handleCall modules)) := by
  rw [List.forall₂_map_right_iff, List.forall₂_same]
  intro pair _
  exact ⟨_, rfl, family.providers_ranked modules pair.2⟩

/-! ## Calls that calls make -/

/-- A call, and behind it what its hook calls itself. -/
def Begins (call : Call μ) (block : List (Call μ)) : Prop :=
  ∃ inner, block = call :: inner

/-- A session goes on with some calls, one after the other, and with what their hooks call. -/
def GoesOn (before : Session μ) (calls : List (Call μ)) (after : Session μ) : Prop :=
  ∃ blocks, List.Forall₂ Begins calls blocks ∧ after.calls = before.calls ++ blocks.flatten

theorem GoesOn.refl (session : Session μ) : GoesOn session [] session :=
  ⟨[], List.Forall₂.nil, by simp⟩

theorem GoesOn.trans {first middle last : Session μ} {calls more : List (Call μ)}
    (begins : GoesOn first calls middle) (continues : GoesOn middle more last) :
    GoesOn first (calls ++ more) last := by
  obtain ⟨blocks, front, reached⟩ := begins
  obtain ⟨further, back, ended⟩ := continues
  refine ⟨blocks ++ further, List.rel_append front back, ?_⟩
  rw [ended, reached, List.flatten_append, List.append_assoc]

theorem goesOn_perform (session : Session μ) (call : Call μ) :
    GoesOn session [call] (family.perform session call) :=
  ⟨[call :: (family.hook call ⟨session.loaded, []⟩).calls],
    List.Forall₂.cons ⟨_, rfl⟩ List.Forall₂.nil, by simp [perform]⟩

theorem goesOn_applyHooks (session : Session μ) (module : μ) :
    GoesOn session (hookCalls module) (family.applyHooks session module) :=
  (goesOn_perform session (.applyServices module)).trans (goesOn_perform _ (.configure module))

theorem goesOn_foldl_applyHooks (modules : List μ) (session : Session μ) :
    GoesOn session (modules.flatMap hookCalls) (modules.foldl family.applyHooks session) := by
  induction modules generalizing session with
  | nil => exact .refl session
  | cons module rest ih => exact (goesOn_applyHooks session module).trans (ih _)

theorem goesOn_foldl_perform (calls : List (Call μ)) (session : Session μ) :
    GoesOn session calls (calls.foldl family.perform session) := by
  induction calls generalizing session with
  | nil => exact .refl session
  | cons call rest ih => exact (goesOn_perform session call).trans (ih _)

/-! ## The calls of a load -/

theorem applyWalked_eq_foldl_perform (list : List μ) (session : Session μ) :
    family.applyWalked list session =
      ((family.handledFeatures (family.inTurn session list)).map (family.handleCall list)).foldl
        family.perform ((family.inTurn session list).foldl family.applyHooks session) := by
  rw [applyWalked_eq, handledBy_eq_handledFeatures, List.foldl_map]
  rfl

/-- A load applies some modules of a list and then has features handled. -/
structure InOrder (family : Family μ) (list : List μ) (before after : Session μ) (fresh : List μ)
    (handled : List (Call μ)) : Prop where
  turns : fresh = family.inTurn before list
  answered : List.Forall₂ (family.Answers list) (family.handledFeatures fresh) handled
  /-- The container is what these hooks make of it, one after the other. -/
  performed : after = handled.foldl family.perform (fresh.foldl family.applyHooks before)
  /-- And these are the calls, in this order. -/
  calls : GoesOn before (fresh.flatMap hookCalls ++ handled) after
  alone : family.OnlyRegisters →
    after.calls = before.calls ++ (fresh.flatMap hookCalls ++ handled)
  new : family.OnlyRegisters →
    (∀ left right, family.covers left right = family.covers right left) →
      fresh = family.unapplied before.loaded list

/-- If the walk succeeds, so does the load. Its calls are those of the walk; then the hooks of each
module that is not applied when its turn comes, in the order of the walk; and then, for each of
these modules and each of its features, one that lets it see the providers which the walk lists.
What a hook calls itself stands behind its own call, and the container is what the hooks make of it
in this order. Where hooks only change registrations there are no other calls, and where equality is
symmetric too, the modules are those that were not applied before the load. If the walk fails, no
hook runs. -/
theorem hooks_in_order (family : Family μ) (roots : List μ) (session : Session μ) :
    (∀ list, (family.walk roots).nodes = .ok list →
      (family.populate roots session).1 = .ok () ∧
        ∃ fresh handled,
          family.InOrder list (session.called ((family.walk roots).calls.map .provide))
            (family.populate roots session).2 fresh handled) ∧
    ∀ failure, (family.walk roots).nodes = .error failure →
      family.populate roots session =
        (.error failure, session.called ((family.walk roots).calls.map .provide)) := by
  constructor
  · intro list listed
    rw [family.populate_of_ok listed]
    refine ⟨rfl, _, _, rfl, forall₂_answers list _, applyWalked_eq_foldl_perform list _, ?_, ?_, ?_⟩
    · rw [applyWalked_eq_foldl_perform]
      exact (goesOn_foldl_applyHooks _ _).trans (goesOn_foldl_perform _ _)
    · intro registers
      rw [registers.calls_applyWalked, registers.inTurn_eq, handledBy_eq_handledFeatures,
        List.append_assoc]
    · intro registers symmetric
      rw [registers.inTurn_eq]
      exact family.newlyApplied_eq_unapplied (pairwise_of_symmetric symmetric listed) _
  · intro failure refused
    exact family.populate_of_error refused session

inductive Studio where
  | weather
  | sport
  | anchor
deriving DecidableEq

def Studio.name : Studio → String
  | .weather => "weather"
  | .sport => "sport"
  | .anchor => "anchor"

/-- Three providers of news. One of them refers to the others, handles news twice, and another
feature that nobody provides. -/
def studio : Family Studio where
  name := Studio.name
  covers left right := left == right
  references
    | .anchor => [.direct .sport]
    | _ => []
  extras
    | .anchor => [.called (.ok .weather)]
    | _ => []
  applyServices module session := session.add ⟨module.name, none, .type module.name, .singleton⟩
  configure _ session := session
  features _ := ["News"]
  featureOrder
    | .weather => 5
    | _ => -1
  handles
    | .anchor => ["News", "Alert", "News"]
    | _ => []
  handleFeature _ feature providers session :=
    session.applyAll (providers.map fun provider =>
      .addStandard ⟨feature, none, .type provider.name, .singleton⟩)
  members := [.weather, .sport, .anchor]

/-- The studio with a report on the weather that loads the sport itself. -/
def liveStudio : Family Studio :=
  { studio with
    applyServices := fun
      | .weather => fun session => (studio.populate [.sport] session).2
      | module => studio.applyServices module }

theorem studio_onlyRegisters : studio.OnlyRegisters :=
  onlyRegisters_of_register fun
    | .provide _ => ⟨id, fun _ => rfl⟩
    | .applyServices module =>
        ⟨fun registrations =>
          registrations.add ⟨module.name, none, .type module.name, .singleton⟩, fun _ => rfl⟩
    | .configure _ => ⟨id, fun _ => rfl⟩
    | .handle _ feature providers =>
        ⟨fun registrations => registrations.applyAll (providers.map fun provider =>
          .addStandard ⟨feature, none, .type provider.name, .singleton⟩), fun _ => rfl⟩

theorem hooks_in_order_studio :
    (studio.walk [.anchor]).nodes = .ok [.weather, .sport, .anchor] ∧
      studio.unapplied ⟨[], [.weather]⟩ [.weather, .sport, .anchor] = [.sport, .anchor] ∧
      (∃ handled,
        List.Forall₂ (studio.Answers [.weather, .sport, .anchor])
          [(.anchor, "News"), (.anchor, "Alert"), (.anchor, "News")] handled ∧
        (studio.populate [.anchor] ⟨⟨[], [.weather]⟩, []⟩).2.calls =
          [.provide .weather] ++
            ([.applyServices .sport, .configure .sport, .applyServices .anchor,
              .configure .anchor] ++ handled)) ∧
      ∃ handled, liveStudio.InOrder [.weather, .sport, .anchor] ⟨.empty, [.provide .weather]⟩
        (liveStudio.populate [.anchor] (.start [])).2 [.weather, .anchor] handled := by
  have symmetric : ∀ left right, studio.covers left right = studio.covers right left := by
    rintro (_ | _ | _) (_ | _ | _) <;> rfl
  obtain ⟨-, fresh, handled, order⟩ :=
    (hooks_in_order studio [.anchor] ⟨⟨[], [.weather]⟩, []⟩).1 _ rfl
  obtain rfl : fresh = [.sport, .anchor] := order.new studio_onlyRegisters symmetric
  obtain ⟨-, applied, liveHandled, liveOrder⟩ :=
    (hooks_in_order liveStudio [.anchor] (.start [])).1 _ rfl
  obtain rfl : applied = [.weather, .anchor] := liveOrder.turns
  exact ⟨rfl, rfl, ⟨handled, order.answered, order.alone studio_onlyRegisters⟩,
    liveHandled, liveOrder⟩

-- A handler that provides its own feature sees itself in its place.
example : studio.providers [.weather, .sport, .anchor] "News" = [.sport, .anchor, .weather] := by
  cbv

-- The hooks of the sport run within the hook that loads it.
example : (liveStudio.applyHooks (.start []) .weather).calls =
    [.applyServices .weather, .applyServices .sport, .configure .sport, .configure .weather] :=
  rfl

inductive Vendor where
  | bundle
  | part
deriving DecidableEq

/-- A module that counts as another one, which does not count as it. -/
def vendors : Family Vendor where
  name
    | .bundle => "bundle"
    | .part => "part"
  covers existing found := existing == found || existing == .bundle
  references _ := []
  extras _ := []
  applyServices _ session := session
  configure _ session := session
  features _ := []
  featureOrder _ := 0
  handles _ := []
  handleFeature _ _ _ session := session
  members := [.bundle, .part]

/-- A module is passed over though it was not applied before the load: one in front of it that
counts as it has been applied by then. -/
theorem unapplied_passed_over_vendors :
    (vendors.walk [.part, .bundle]).nodes = .ok [.bundle, .part] ∧
      vendors.unapplied .empty [.bundle, .part] = [.bundle, .part] ∧
      ¬∃ handled, (vendors.populate [.part, .bundle] (.start [])).2.calls =
        [.applyServices .bundle, .configure .bundle, .applyServices .part, .configure .part] ++
          handled := by
  refine ⟨rfl, rfl, ?_⟩
  have calls : (vendors.populate [.part, .bundle] (.start [])).2.calls =
      [.applyServices .bundle, .configure .bundle] := rfl
  rw [calls]
  rintro ⟨handled, impossible⟩
  cases impossible

end Wiring.Container.Family
