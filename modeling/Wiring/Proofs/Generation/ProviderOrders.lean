import Wiring.Proofs.Container.Providers
import Wiring.Proofs.Generation.Completeness
import Wiring.Proofs.Source.FeatureOrders

/-!
# Providers stand in their declared order

The order that an attribute declares is a number in the unit of its module, and containers rank the
providers of a feature by that number. The unit is right about all numbers of thirty-two bits, and
an attribute cannot declare the least of them. See `Wiring.Generation.orders_kept`.
-/

set_option autoImplicit false

namespace Wiring.Generated

open Wiring.Grammar
open Wiring.Source

/-! ## Numbers in code -/

/-- Whether a number is one of thirty-two bits. -/
def InRange (n : Int) : Prop :=
  -(integerLimit : Int) ≤ n ∧ n < integerLimit

instance decidableInRange (n : Int) : Decidable (InRange n) :=
  inferInstanceAs (Decidable (_ ∧ _))

def magnitude? (text : String) : Option Int :=
  (integerLiteral? text).bind fun literal =>
    if literal.suffix = "i32" then some (literal.value : Int) else none

/-- The number of thirty-two bits that an expression denotes: a literal, or one behind a minus
sign. -/
def denotedNumber? (expression : List SyntaxTree) : Option Int :=
  let signed : Option Int :=
    match expression with
    | [.token .literal text _ _] => magnitude? text
    | [.token .punct "-" _ _, .token .literal text _ _] => (magnitude? text).map (- ·)
    | _ => none
  signed.filter fun n => InRange n

theorem magnitude?_toString (n : Nat) : magnitude? (toString n ++ "i32") = some (n : Int) := by
  have plain : ∀ c ∈ "i32".toList, c ∉ ['x', 'o', 'b'] := by simp
  rw [magnitude?, integerLiteral?_toString_append n plain]
  rfl

/-- The code of a number denotes it if it has thirty-two bits, and nothing otherwise. -/
theorem denotedNumber?_numberCode (n : Int) :
    denotedNumber? (numberCode n) = if InRange n then some n else none := by
  have digits := magnitude?_toString n.natAbs
  have whole : denotedNumber? (numberCode n) = (some n).filter fun n => InRange n := by
    unfold numberCode
    split
    · have negated : -(n.natAbs : Int) = n := by omega
      show ((magnitude? (toString n.natAbs ++ "i32")).map (- ·)).filter _ = _
      rw [digits, Option.map_some, negated]
    · have plain : (n.natAbs : Int) = n := by omega
      show (magnitude? (toString n.natAbs ++ "i32")).filter _ = _
      rw [digits, plain]
  rw [whole, Option.filter_some]
  simp only [decide_eq_true_eq]

/-! ## The order in a facade -/

/-- The order that a facade gives its module. One that has no such method leaves it at zero. -/
def Facade.order? (facade : Facade) : Option Int :=
  match methodBody? "feature_order" facade.methodsCode with
  | some body => denotedNumber? body
  | none => some 0

theorem methodBody?_providerCode {features : List String} (provides : features ≠ []) (order : Int)
    (back : List SyntaxTree) :
    methodBody? "feature_order" (Facade.providerCode features order ++ back) =
      some (numberCode order) := by
  rw [Facade.providerCode, if_neg (by simpa using provides), List.append_assoc,
    methodBody?_append rfl]
  rfl

theorem Facade.order?_of_features {facade : Facade} (provides : facade.features ≠ []) :
    facade.order? = if InRange facade.featureOrder then some facade.featureOrder else none := by
  have body : methodBody? "feature_order" facade.methodsCode =
      some (numberCode facade.featureOrder) := by
    simp only [Facade.methodsCode, List.append_assoc]
    rw [methodBody?_append rfl, methodBody?_referencesCode rfl, methodBody?_referencesCode rfl,
      methodBody?_append (by cases facade.hasRegistrations <;> rfl),
      methodBody?_append (by cases facade.configure <;> rfl),
      methodBody?_append (by cases facade.autoEquality <;> rfl), methodBody?_providerCode provides]
  rw [Facade.order?, body]
  exact denotedNumber?_numberCode _

theorem provides_of_facadeOf {module : ModuleDescriptor} {hasRegistrations : Bool} {facade : Facade}
    (made : facadeOf module hasRegistrations = .ok facade) :
    facade.features = module.features.map TypeName.key ∧
      facade.featureOrder = module.featureOrder := by
  simp only [facadeOf, Outcome.bind_eq_ok_iff, Outcome.pure_eq_ok_iff] at made
  obtain ⟨type, -, declared, -, references, -, extras, -, marker, -, extension, -, rfl⟩ := made
  exact ⟨rfl, rfl⟩

/-- A facade of a provider gives it the declared order if that has thirty-two bits. -/
theorem order?_of_facadeOf {module : ModuleDescriptor} {hasRegistrations : Bool} {facade : Facade}
    (made : facadeOf module hasRegistrations = .ok facade) (provides : module.features ≠ []) :
    facade.order? = if InRange module.featureOrder then some module.featureOrder else none := by
  obtain ⟨features, order⟩ := provides_of_facadeOf made
  rw [← order]
  exact Facade.order?_of_features (by rwa [features, ne_eq, List.map_eq_nil_iff])

end Wiring.Generated

namespace Wiring.Container.Family

variable {μ : Type} {family : Family μ}

/-! ## Other orders -/

/-- Modules are ranked alike by orders in which the providers of the feature agree. -/
theorem Ranked.congr {order : μ → Int} {modules seen : List μ} {feature : String}
    (ranked : family.Ranked modules feature seen)
    (same : ∀ module, feature ∈ family.features module →
      order module = family.featureOrder module) :
    { family with featureOrder := order }.Ranked modules feature seen := by
  have provides : ∀ module ∈ seen, feature ∈ family.features module := fun module member =>
    List.contains_iff_mem.mp (List.mem_filter.mp (ranked.perm.subset member)).2
  refine ⟨ranked.perm, ?_, fun value => ?_⟩
  · refine ranked.ordered.imp_of_mem fun first later le => ?_
    show order _ ≤ order _
    rwa [same _ (provides _ first), same _ (provides _ later)]
  · show seen.filter (fun module => order module == value) = modules.filter fun module =>
      order module == value && (family.features module).contains feature
    have left : seen.filter (fun module => order module == value) =
        seen.filter fun module => family.featureOrder module == value :=
      List.filter_congr fun module member => by rw [same module (provides module member)]
    rw [left, ranked.ties value]
    refine List.filter_congr fun module _ => ?_
    cases provider : (family.features module).contains feature with
    | false => rw [Bool.and_false, Bool.and_false]
    | true => rw [same module (List.contains_iff_mem.mp provider)]

end Wiring.Container.Family

namespace Wiring.Generation

open Wiring.Container
open Wiring.Expansion
open Wiring.Generated
open Wiring.Grammar
open Wiring.Source

/-! ## From attributes to containers -/

/-- What discovery makes of tokens that write a number as the order of a module. The minus sign is
no part of the literal, so the bound is the same on both sides. -/
structure OrderRead (n : Int) (order : List SyntaxTree) : Prop where
  /-- Alone they are accepted exactly if the literal fits, as the number that they write. -/
  alone : ∀ marker, Carries marker order → ∀ given, moduleArguments marker = .ok given ↔
    n.natAbs < integerLimit ∧ given = { ModuleArguments.none with featureOrder := n }
  /-- Among other arguments they are accepted only if the literal fits, and if the order is written
  once then as the number that they write. -/
  among : ∀ marker front back, Carries marker (front ++ (order ++ back)) → Unordered front →
    ¬Astray back → ∀ given, moduleArguments marker = .ok given →
      n.natAbs < integerLimit ∧ (Unordered back → given.featureOrder = n)
  /-- A descriptor has the order that its attribute writes. -/
  recorded : ∀ {index settings file item} {found : FoundAttribute} {module front back},
    Carries found.tree (front ++ (order ++ back)) → Unordered front → Unordered back →
      ¬Astray back → moduleOf index settings file item found = .ok module →
        module.featureOrder = n

theorem orderRead_of_writesOrder {n : Int} {order : List SyntaxTree}
    (writes : WritesOrder n order) : OrderRead n order where
  alone _ carries given := moduleArguments_order carries writes given
  among _ _ _ carries before ends _ accepted :=
    featureOrder_of_moduleArguments carries writes before ends accepted
  recorded carries before behind ends made := by
    obtain ⟨given, accepted, same⟩ := exists_featureOrder_of_moduleOf made
    rw [same]
    exact (featureOrder_of_moduleArguments carries writes before ends accepted).2 behind

section Containers

variable {μ : Type}

/-- The modules of a container are the ones that units make of descriptors: what a module provides
and its order are what its unit says. -/
def MadeFrom (family : Family μ) (declared : μ → ModuleDescriptor) : Prop :=
  ∀ module, ∃ hasRegistrations facade, facadeOf (declared module) hasRegistrations = .ok facade ∧
    family.features module = facade.features ∧ facade.order? = some (family.featureOrder module)

def declaredFamily (family : Family μ) (declared : μ → ModuleDescriptor) : Family μ :=
  { family with featureOrder := fun module => (declared module).featureOrder }

theorem MadeFrom.featureOrder_eq {family : Family μ} {declared : μ → ModuleDescriptor}
    (made : MadeFrom family declared) {module : μ} (provides : family.features module ≠ []) :
    (declared module).featureOrder = family.featureOrder module := by
  obtain ⟨hasRegistrations, facade, faced, features, order⟩ := made module
  rw [features, (provides_of_facadeOf faced).1] at provides
  rw [order?_of_facadeOf faced (by simpa using provides)] at order
  exact Option.some.inj (Option.ite_none_right_eq_some.mp order).2

theorem MadeFrom.ranked {family : Family μ} {declared : μ → ModuleDescriptor}
    (made : MadeFrom family declared) (modules : List μ) (feature : String) :
    (declaredFamily family declared).Ranked modules feature (family.providers modules feature) :=
  (family.providers_ranked modules feature).congr fun _ provides =>
    made.featureOrder_eq (List.ne_nil_of_mem provides)

end Containers

/-- The text of any number in decimal is read as that number if its digits fit without the sign,
which shuts out the least number of thirty-two bits, and no literal that does not fit is accepted,
so no module that discovery finds has such an order. The facade of a provider denotes the order of
its module whenever that has thirty-two bits, and containers rank the providers of a feature by the
orders of their descriptors. -/
theorem orders_kept (n : Int) :
    (∃ order, lex ("feature_order = " ++ toString n) = .ok order ∧ WritesOrder n order) ∧
    (∀ order, WritesOrder n order → OrderRead n order) ∧
    (∀ settings sources module, (module, settings) ∈ (discover settings sources).modules →
      module.featureOrder = n → n.natAbs < integerLimit) ∧
    (∀ module hasRegistrations facade, facadeOf module hasRegistrations = .ok facade →
      module.featureOrder = n → module.features ≠ [] →
        facade.order? = if InRange n then some n else none) ∧
    ∀ (μ : Type) (family : Family μ) declared, MadeFrom family declared → ∀ modules feature,
      (declaredFamily family declared).Ranked modules feature
        (family.providers modules feature) := by
  refine ⟨exists_lex_order n, fun _ => orderRead_of_writesOrder, ?_, ?_,
    fun _ _ _ made => made.ranked⟩
  · rintro settings sources module member rfl
    exact featureOrder_lt_of_mem_modules member
  · rintro module hasRegistrations facade made rfl provides
    exact order?_of_facadeOf made provides

/-! ## Desks at both ends -/

section Desks

open Family

def farDesks : Family Desk :=
  { desks with featureOrder := fun
    | .weather => 2147483647
    | .sport => -2147483647
    | .reader => 0 }

def deskDeclared (desk : Desk) : ModuleDescriptor :=
  { ModuleDescriptor.ofType (.of "crate" (farDesks.name desk)) "src/desks.rs" with
    features := (farDesks.features desk).map (TypeName.of "")
    featureOrder := farDesks.featureOrder desk }

theorem madeFrom_farDesks : MadeFrom farDesks deskDeclared := by
  intro desk
  have fine : (facadeOf (deskDeclared desk) false).toOption.any (fun facade =>
      facade.features == farDesks.features desk &&
        facade.order? == some (farDesks.featureOrder desk)) = true := by
    cases desk <;> decide +kernel
  cases made : facadeOf (deskDeclared desk) false with
  | error failure =>
      rw [made] at fine
      cases fine
  | ok facade =>
      rw [made] at fine
      obtain ⟨features, order⟩ := Bool.and_eq_true_iff.mp fine
      exact ⟨false, facade, made, (eq_of_beq features).symm, eq_of_beq order⟩

theorem providers_farDesks :
    farDesks.providers [.weather, .sport, .reader] "News" = [.sport, .weather] := by
  simp [providers, farDesks, desks, List.mergeSort, List.MergeSort.Internal.splitInTwo]

def sportText : SourceText :=
  ⟨"src/sport.rs", "#[module(features(News), feature_order = -2147483647)]\npub struct Sport;\n"⟩

theorem settings_of_mem_modules {settings : Settings} {sources : List SourceText}
    {entry : ModuleDescriptor × Settings} (member : entry ∈ (discover settings sources).modules) :
    entry.2 = settings := by
  obtain ⟨module, -, rfl⟩ := List.mem_map.mp member
  rfl

theorem exists_sport : ∃ module, (module, .default) ∈ (discover .default [sportText]).modules ∧
    module.features ≠ [] ∧ module.featureOrder = -2147483647 ∧
    ∃ facade, facadeOf module false = .ok facade := by
  have found : (discover .default [sportText]).modules.any (fun entry =>
      entry.1.features != [] && entry.1.featureOrder == -2147483647 &&
        (facadeOf entry.1 false).isOk) = true := by decide +kernel
  obtain ⟨⟨module, settings⟩, member, fine⟩ := List.any_eq_true.mp found
  obtain rfl : settings = .default := settings_of_mem_modules member
  rw [Bool.and_eq_true_iff, Bool.and_eq_true_iff] at fine
  obtain ⟨⟨provides, order⟩, faced⟩ := fine
  exact ⟨module, member, by simpa using provides, eq_of_beq order, Outcome.exists_of_isOk faced⟩

def middleArguments (order : List SyntaxTree) : List SyntaxTree :=
  tokensOf "only_realm ," ++ (order ++ tokensOf ", configure")

theorem exists_middle :
    ∃ module, moduleOf (.ofFiles []) .default (.empty "src/desks.rs" "crate::desks") storeDeclared
      ⟨.module, marked "module" (middleArguments (tokensOf "feature_order = -7")), 1⟩ =
        .ok module :=
  Outcome.exists_of_isOk (by decide +kernel)

theorem orders_kept_desks :
    (∃ order, lex ("feature_order = " ++ toString (-2147483647 : Int)) = .ok order ∧
      moduleArguments (marked "module" order) =
        .ok { ModuleArguments.none with featureOrder := -2147483647 }) ∧
    (∃ module, moduleOf (.ofFiles []) .default (.empty "src/desks.rs" "crate::desks") storeDeclared
      ⟨.module, marked "module" (middleArguments (tokensOf "feature_order = -7")), 1⟩ =
        .ok module ∧ module.featureOrder = -7) ∧
    (∃ module facade, (module, .default) ∈ (discover .default [sportText]).modules ∧
      facadeOf module false = .ok facade ∧ (-2147483647 : Int).natAbs < integerLimit ∧
        facade.order? = some (-2147483647)) ∧
    (declaredFamily farDesks deskDeclared).Ranked [.weather, .sport, .reader] "News"
      [.sport, .weather] := by
  obtain ⟨⟨order, lexed, writes⟩, read, bounded, denoted, ranked⟩ := orders_kept (-2147483647)
  refine ⟨?_, ?_, ?_, ?_⟩
  · exact ⟨order, lexed, ((read order writes).alone _ (carries_marked "module" order) _).mpr
      ⟨by decide, rfl⟩⟩
  · obtain ⟨⟨order, lexed, writes⟩, read, -⟩ := orders_kept (-7)
    have text : "feature_order = " ++ toString (-7 : Int) = "feature_order = -7" := by decide
    have tokens : tokensOf "feature_order = -7" = order := by
      rw [tokensOf, ← text, lexed]
      rfl
    obtain ⟨module, made⟩ := exists_middle
    rw [tokens] at made ⊢
    have before : Unordered (tokensOf "only_realm ,") := by
      show ∀ tree ∈ _, _
      decide +kernel
    have behind : Unordered (tokensOf ", configure") := by
      show ∀ tree ∈ _, _
      decide +kernel
    have comma : ¬Astray (tokensOf ", configure") :=
      not_astray_iff.mpr (.inr (by decide +kernel))
    exact ⟨module, made, (read order writes).recorded
      (carries_marked "module" (middleArguments order)) before behind comma made⟩
  · obtain ⟨module, member, provides, order, facade, made⟩ := exists_sport
    have denotes := denoted _ _ _ made order provides
    rw [if_pos (by decide)] at denotes
    exact ⟨module, facade, member, made, bounded _ _ _ member order, denotes⟩
  · rw [← providers_farDesks]
    exact ranked Desk farDesks deskDeclared madeFrom_farDesks _ "News"

/-- The least number of thirty-two bits would be denoted by a facade, and its attribute is
refused. -/
theorem least_order_refused :
    InRange (-2147483648) ∧ denotedNumber? (numberCode (-2147483648)) = some (-2147483648) ∧
      ∀ given, moduleArguments (marked "module" (tokensOf "feature_order = -2147483648")) ≠
        .ok given := by
  have refused : (moduleArguments
      (marked "module" (tokensOf "feature_order = -2147483648"))).isOk = false := by
    decide +kernel
  refine ⟨by decide, by rw [denotedNumber?_numberCode]; rfl, fun given accepted => ?_⟩
  rw [accepted] at refused
  cases refused

end Desks

end Wiring.Generation
