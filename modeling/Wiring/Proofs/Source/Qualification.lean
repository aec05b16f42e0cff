import Wiring.Proofs.Generated.Lookups
import Wiring.Proofs.Source.PlainPaths
import Wiring.Proofs.Text.Segments

/-!
# Qualified types and the keys of their services

A type is qualified so that it reads the same from any module, and a service is asked for under what
its path resolves to. The two name one type unless the path stays as it is written and resolves to
another one: see `qualified_agrees` and `outside_apart`.
-/

set_option autoImplicit false

namespace Wiring.Source

open Wiring.Generated
open Wiring.Grammar
open Wiring.Text

/-! ## Qualified paths -/

section Qualified

variable {spaces : List String} {scope : Scope} {rooted : Bool} {names : List String}
  {parts : List SyntaxTree} {path : SyntaxTree}

/-- Whether a path is one that is never qualified: it begins with colons or with the type itself. -/
def StaysWritten (rooted : Bool) (names : List String) : Prop :=
  rooted = true ∨ names.head? = some "Self"

instance decidableStaysWritten (rooted : Bool) (names : List String) :
    Decidable (StaysWritten rooted names) :=
  inferInstanceAs (Decidable (_ ∨ _))

def qualifiedNames (spaces : List String) (scope : Scope) (rooted : Bool) (names : List String) :
    List String :=
  if StaysWritten rooted names ∨ resolvePath spaces scope names = joinSegments names then names
  else segments (resolvePath spaces scope names)

theorem joinSegments_qualifiedNames :
    joinSegments (qualifiedNames spaces scope rooted names) = resolvePath spaces scope names ↔
      (StaysWritten rooted names → resolvePath spaces scope names = joinSegments names) := by
  unfold qualifiedNames
  split
  · rename_i kept
    constructor
    · exact fun same _ => same.symm
    · exact fun agrees => (kept.elim agrees id).symm
  · rename_i qualified
    rw [not_or] at qualified
    exact ⟨fun _ stays => absurd stays qualified.1, fun _ => joinSegments_segments _⟩

theorem toList_joinSegments (parts : List String) :
    (joinSegments parts).toList = spell [] parts := by
  induction parts with
  | nil => decide
  | cons first rest ih =>
      cases rest with
      | nil => rw [joinSegments_singleton]; rfl
      | cons second rest =>
          rw [joinSegments_cons, String.toList_append, String.toList_append, ih,
            spell_cons _ _ (List.cons_ne_nil _ _), List.nil_append, List.nil_append,
            List.append_assoc]

theorem PlainParts.noArguments (plain : PlainParts names parts) :
    ∀ part ∈ parts, part.children.drop 1 = [] := by
  induction plain with
  | last => simp [SyntaxTree.children]
  | more _ _ _ _ _ _ ih =>
      rw [List.forall_mem_cons, List.forall_mem_cons]
      exact ⟨rfl, rfl, ih⟩

theorem PlainPath.noArguments (plain : PlainPath rooted names path) :
    ((path.segments.getLast?).map fun segment => segment.children.drop 1).getD [] = [] := by
  have each : ∀ segment ∈ path.segments, segment.children.drop 1 = [] := by
    intro segment member
    have part := List.mem_of_mem_filter member
    cases plain with
    | plain parts => exact parts.noArguments segment part
    | rooted _ _ parts =>
        rcases List.mem_cons.mp part with rfl | part
        · rfl
        · exact parts.noArguments segment part
  cases last : path.segments.getLast? with
  | none => rfl
  | some segment => exact each segment (List.mem_of_getLast? last)

theorem qualifyPath_plain (plain : PlainPath rooted names path)
    (identifiers : ∀ name ∈ segments (resolvePath spaces scope names), IsSegment name) :
    PlainPath rooted (qualifiedNames spaces scope rooted names)
      (qualifyPath spaces scope path) := by
  unfold qualifyPath qualifiedNames StaysWritten
  simp only [plain.pathNames, plain.isAbsolutePath, plain.noArguments, Bool.or_eq_true,
    beq_iff_eq]
  by_cases kept : (rooted = true ∨ names.head? = some "Self") ∨
      resolvePath spaces scope names = joinSegments names
  · rw [if_pos kept, if_pos kept]
    exact plain
  · rw [if_neg kept, if_neg kept]
    rw [not_or] at kept
    obtain rfl : rooted = false := by
      rw [← Bool.not_eq_true]
      exact fun begins => kept.1 (.inl begins)
    have spells : (resolvePath spaces scope names).toList =
        spellPath [] false (segments (resolvePath spaces scope names)) := by
      conv_lhs => rw [← joinSegments_segments (resolvePath spaces scope names)]
      exact toList_joinSegments _
    obtain ⟨found, plain, read⟩ :=
      exists_pathForm (by simp) (segments_ne_nil _) identifiers spells
    simp only [read]
    rw [plain.withLastArguments]
    exact plain

theorem fullName_resolve_plain (index : Index) (plain : PlainPath rooted names path)
    (identifiers : ∀ name ∈ segments (resolvePath index.spaces scope names), IsSegment name) :
    (index.resolve scope path).fullName = resolvePath index.spaces scope names := by
  rw [Index.resolve, resolveType, plain.pathNames]
  refine fullName_ofPath fun begins => ?_
  obtain ⟨rest, whole⟩ := begins
  -- A path that begins with colons has an empty first segment.
  have first : segments (resolvePath index.spaces scope names) =
      "" :: (segmentsOfChars rest).map String.ofList := by
    rw [segments, ← whole]
    rfl
  rw [first] at identifiers
  exact absurd (identifiers "" List.mem_cons_self) (by decide)

end Qualified

/-! ## Types and keys that glue asks for -/

/-- Code of an argument that is looked up as a type under a key: a shared instance or a copy. -/
inductive Requires (type : SyntaxTree) (key : String) : List SyntaxTree → Prop where
  | shared : Requires type key (lookupCode type key)
  | cloned : Requires type key (code ":: std :: clone :: Clone :: clone" ++
      [inParentheses (code "& *" ++ lookupCode type key)])

section Asked

variable {index : Index} {scope : Scope} {rooted : Bool} {names : List String}
  {type path : SyntaxTree}

theorem factoryParameter_of_asked (index : Index) (scope : Scope) (name : String)
    (asked : askedPath? type = some path)
    (plainly : (sharedInner? type).getD type = .node .pathType [path]) :
    ∃ parameter, factoryParameter index scope name type = .ok parameter ∧
      (parameter.source = .shared (index.text scope (.node .pathType [path]))
          (index.resolve scope path) ∨
        parameter.source = .cloned (index.text scope (.node .pathType [path]))
          (index.resolve scope path)) := by
  unfold askedPath? at asked
  unfold factoryParameter
  split at asked
  · cases asked
  · rename_i owned
    rw [Bool.or_eq_true, not_or] at owned
    rw [if_neg owned.1, if_neg owned.2]
    cases shared : sharedInner? type with
    | some inner =>
        rw [shared, Option.getD_some] at plainly
        subst plainly
        exact ⟨_, rfl, .inl rfl⟩
    | none =>
        rw [shared, Option.getD_none] at plainly
        subst plainly
        exact ⟨_, rfl, .inr rfl⟩

theorem exists_argumentCode (module : ModuleDescriptor) {source : ParameterSource} {text : String}
    {service : TypeName} {required : SyntaxTree} (closed : service.arity = 0)
    (asks : source = .shared text service ∨ source = .cloned text service)
    (read : parseText typeForm text = .ok required) :
    ∃ trees, argumentCode module source = .ok trees ∧
      Requires required service.fullName trees := by
  have part : typePart module text = .ok required := by rw [typePart, part, read]
  have key := (TypeName.key_eq_fullName_iff service).mpr closed
  rcases asks with rfl | rfl
  · refine ⟨_, by rw [argumentCode, part]; rfl, ?_⟩
    rw [← key]
    exact .shared
  · refine ⟨_, by rw [argumentCode, part]; rfl, ?_⟩
    rw [← key]
    exact .cloned

theorem arity_ofPath (path : String) : (TypeName.ofPath path).arity = 0 := by
  unfold TypeName.ofPath
  split <;> rfl

/-- For a plain path that resolves to identifiers, the type is written as a plain path, and glue
looks that type up under the full name of its service. Both name the same type exactly if the path
resolves to itself or is one that is qualified. -/
theorem qualified_agrees (index : Index) (scope : Scope) (plain : PlainPath rooted names path)
    (identifiers : ∀ name ∈ segments (resolvePath index.spaces scope names), IsSegment name) :
    ∃ written qualified,
      qualifyType index.spaces scope (.node .pathType [path]) = .node .pathType [qualified] ∧
      PlainPath rooted written qualified ∧
      (∀ module name type, askedPath? type = some path →
        (sharedInner? type).getD type = .node .pathType [path] →
        ∃ parameter trees required,
          factoryParameter index scope name type = .ok parameter ∧
          argumentCode module parameter.source = .ok trees ∧
          PlainPath rooted written required ∧
          Requires (.node .pathType [required]) (index.resolve scope path).fullName trees) ∧
      (joinSegments written = (index.resolve scope path).fullName ↔
        (StaysWritten rooted names →
          resolvePath index.spaces scope names = joinSegments names)) := by
  have qualified := qualifyPath_plain plain identifiers
  have type : qualifyType index.spaces scope (.node .pathType [path]) =
      .node .pathType [qualifyPath index.spaces scope path] := by
    simp only [qualifyType, qualifyTypes, plain.qualifyType]
  refine ⟨_, _, type, qualified, ?_, ?_⟩
  · intro module name asking asked plainly
    obtain ⟨parameter, made, source⟩ :=
      factoryParameter_of_asked index scope name asked plainly
    have text : index.text scope (.node .pathType [path]) =
        (qualifyPath index.spaces scope path).text := by
      rw [Index.text, typeText, type, SyntaxTree.text, SyntaxTree.text]
      simp only [SyntaxTree.pieces, SyntaxTree.piecesOf, List.append_nil]
    rw [text] at source
    have blank : ∀ c ∈ [' '], c = ' ' := by simp
    obtain ⟨required, again, read⟩ :=
      exists_typeForm blank qualified.ne_nil qualified.isSegment qualified.text
    obtain ⟨trees, coded, requires⟩ := exists_argumentCode module (arity_ofPath _) source read
    exact ⟨parameter, trees, required, made, coded, again, requires⟩
  · rw [fullName_resolve_plain index plain identifiers]
    exact joinSegments_qualifiedNames

end Asked

def billing : Scope :=
  (Scope.of "crate::billing").addUse (.path "crate" (.rename "outbox" "mail"))

def mailerPath : SyntaxTree :=
  .node .path [.node .segment [.token .ident "mail" 1 rfl], .token .punct "::" 1 rfl,
    .node .segment [.token .ident "Mailer" 1 rfl]]

theorem qualified_agrees_mailer :
    ∃ written qualified,
      qualifyType [] billing (.node .pathType [mailerPath]) = .node .pathType [qualified] ∧
      PlainPath false written qualified ∧ joinSegments written = "crate::outbox::Mailer" := by
  have plain : PlainPath false ["mail", "Mailer"] mailerPath :=
    .plain (.more (by decide) 1 rfl 1 rfl (.last (by decide) 1 rfl))
  obtain ⟨written, qualified, type, path, -, agrees⟩ :=
    qualified_agrees ⟨[], [], []⟩ billing plain (by decide +kernel)
  refine ⟨written, qualified, type, path, ?_⟩
  rw [agrees.mpr (by decide)]
  decide +kernel

/-- Behind colons that name is another crate, and `Self` is no type of the namespace. -/
theorem outside_apart :
    ["::mail::Mailer", "Self"].map (fun text =>
      (parseText typeForm text).toOption.bind fun type => type.typePath?.map fun path =>
        (typeText [] billing type, (resolveType [] billing path).fullName)) =
      [some (":: mail :: Mailer", "crate::outbox::Mailer"),
        some ("Self", "crate::billing::Self")] := by
  decide +kernel

end Wiring.Source
