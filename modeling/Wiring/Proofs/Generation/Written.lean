import Mathlib.Data.List.Flatten
import Wiring.Proofs.Generated.UnitNames
import Wiring.Proofs.Generation.Completeness
import Wiring.Proofs.Workspace.Listing
import Wiring.Proofs.Workspace.Writing

/-!
# Units in a directory

The units of a pass have different names and are written beside each other: none of them takes the
place of another one or of a file that is no unit, and none is a source afterwards.  See
`writeUnits_of_distinct`.
-/

set_option autoImplicit false

namespace Wiring.Workspace

open Wiring.Files
open Wiring.Text

variable {workspace after : Workspace} {directory : String} {files : List GeneratedFile}
  {fault : Option FileFault}

/-! ## Units and other files -/

/-- The path of a unit leads to a location. -/
def IsUnitAt (workspace : Workspace) (directory : String) (files : List GeneratedFile)
    (place : Location) : Prop :=
  ∃ file ∈ files, workspace.locate (join directory file.name) = .ok place

/-- What stays as it was when units are written, and what is no source then. -/
structure Spares (before after : Workspace) (directory : String) (files : List GeneratedFile) :
    Prop where
  others : ∀ place, ¬after.IsUnitAt directory files place → ∀ contents,
    after.root.get? place = some (.file contents) ↔ before.root.get? place = some (.file contents)
  unscanned : ∀ settings sources, after.sourceFiles settings = .ok sources → ∀ path ∈ sources,
    ∀ place contents, after.locate path = .ok place →
      after.root.get? place = some (.file contents) → ¬after.IsUnitAt directory files place

def HasUnit (workspace : Workspace) (directory : String) (file : GeneratedFile) : Prop :=
  ∃ place, workspace.Opens directory place ∧
    workspace.root.get? (place ++ [file.name]) = some (.file file.contents.toUTF8) ∧
    workspace.contents (join directory file.name) = .ok file.contents.toUTF8

theorem isSourcePath_of_mem_sourcesBelow {tree : Node} {root path : String}
    (member : path ∈ sourcesBelow root tree) : isSourcePath path = true := by
  induction tree using Node.induct generalizing root with
  | ofFile contents =>
      rw [sourcesBelow] at member
      split at member
      · rename_i source
        rwa [List.mem_singleton.mp member]
      · cases member
  | ofDirectory entries ih =>
      obtain ⟨entry, among, listed⟩ := mem_sourcesBelow_directory.mp member
      exact ih entry among listed

theorem isSourcePath_of_mem_sourceFiles {settings : Settings} {sources : List String}
    (listed : workspace.sourceFiles settings = .ok sources) :
    ∀ path ∈ sources, isSourcePath path = true := by
  unfold sourceFiles at listed
  split at listed
  · cases listed
    exact fun path member => isSourcePath_of_mem_sourcesBelow member
  · cases listed

theorem slash_notMem_generatedTail : '/' ∉ generatedTail.toList := by decide

/-- No path of a source leads to a file that a path with the tail of units leads to: both would end
with the name of the file. -/
theorem not_isUnitAt_of_isSourcePath {path : String} {place : Location} {contents : ByteArray}
    (tailed : ∀ file ∈ files, generatedTail.toList <:+ file.name.toList)
    (source : isSourcePath path = true) (located : workspace.locate path = .ok place)
    (stands : workspace.root.get? place = some (.file contents)) :
    ¬workspace.IsUnitAt directory files place := by
  rintro ⟨file, member, unitLocated⟩
  have here := Node.standing?_eq_file_iff.mpr stands
  obtain ⟨last, ends, inLast⟩ := pathNames_of_endsWith slash_notMem_generatedTail
    ((tailed file member).trans (suffix_join directory file.name))
  have same : (pathNames path).getLast? = some last := by
    rw [getLast?_of_locate located here, ← getLast?_of_locate unitLocated here, ends]
  exact ((isSourcePath_iff path).mp source).2 (endsWith_of_pathNames same inLast)

/-! ## Writing units -/

theorem writeUnits_cases (written : workspace.writeUnits directory files = (after, fault)) :
    (∃ failure, workspace.makeDirectories directory = (after, some failure) ∧
      fault = some failure) ∨
    ∃ made, workspace.makeDirectories directory = (made, none) ∧
      made.writeAll directory files = (after, fault) := by
  unfold writeUnits at written
  split at written
  · rename_i made failure chain
    cases written
    exact .inl ⟨failure, chain, rfl⟩
  · rename_i made chain
    exact .inr ⟨made, chain, written⟩

/-- However far it gets, writing units changes no other file and adds no source. -/
theorem spares_writeUnits (tailed : ∀ file ∈ files, generatedTail.toList <:+ file.name.toList)
    (written : workspace.writeUnits directory files = (after, fault)) :
    Spares workspace after directory files := by
  constructor
  · intro place noUnit contents
    rw [← Node.standing?_eq_file_iff, ← Node.standing?_eq_file_iff]
    have grows : Grows workspace (workspace.makeDirectories directory).1 := grows_makeChain _ _
    rcases writeUnits_cases written with ⟨failure, chain, -⟩ | ⟨made, chain, each⟩
    · rw [chain] at grows
      exact grows.file_iff
    · rw [chain] at grows
      have proper : ∀ file ∈ files, (pathNames (join directory file.name)).getLast? ≠ some "" := by
        intro file member blank
        obtain ⟨last, ends, inLast⟩ := pathNames_of_endsWith slash_notMem_generatedTail
          ((tailed file member).trans (suffix_join directory file.name))
        obtain rfl := Option.some_inj.mp (ends.symm.trans blank)
        exact absurd (List.suffix_nil.mp inLast) (by decide)
      obtain ⟨-, others⟩ : Keeps made (made.writeAll directory files).1 ∧ _ := keeps_writeAll proper
      rw [each] at others
      rw [others place fun file member located => noUnit ⟨file, member, located⟩]
      exact grows.file_iff
  · intro settings sources listed path member place contents located stands
    exact not_isUnitAt_of_isSourcePath tailed (isSourcePath_of_mem_sourceFiles listed path member)
      located stands

section Named

variable (named : ∀ file ∈ files, IsEntryName file.name)

include named

theorem writeUnits_eq_none_iff (written : workspace.writeUnits directory files = (after, fault)) :
    fault = none ↔ ∃ made, workspace.makeDirectories directory = (made, none) ∧
      ∀ file ∈ files, made.Accepts directory file.name := by
  rcases writeUnits_cases written with ⟨failure, chain, rfl⟩ | ⟨made, chain, each⟩
  · simp [chain]
  · have success : (made.writeAll directory files).2 = none ↔ _ := writeAll_eq_none_iff named
    rw [each] at success
    rw [success, chain]
    constructor
    · intro accepts
      exact ⟨made, rfl, accepts⟩
    · rintro ⟨_, same, accepts⟩
      cases same
      exact accepts

theorem hasUnit_of_writeUnits (distinct : (files.map (·.name)).Nodup)
    (written : workspace.writeUnits directory files = (after, none)) :
    ∀ file ∈ files, after.HasUnit directory file := by
  obtain ⟨made, chain, accepts⟩ := (writeUnits_eq_none_iff named written).mp rfl
  rcases writeUnits_cases written with ⟨failure, -, none⟩ | ⟨other, again, each⟩
  · cases none
  obtain rfl : made = other := congrArg Prod.fst (chain.symm.trans again)
  intro file member
  obtain ⟨place, opens, -⟩ := accepts file member
  obtain ⟨there, -⟩ := opens.standing?_writeAll named distinct each
  have stands := Node.standing?_eq_file_iff.mp (there file member)
  have proper : ∀ file ∈ files, (pathNames (join directory file.name)).getLast? ≠ some "" := by
    intro file member
    obtain ⟨front, joined, -⟩ := pathNames_join directory (named file member).1
    rw [joined, List.getLast?_concat]
    simpa using (named file member).1.1
  have keeps : Keeps made (made.writeAll directory files).1 := (keeps_writeAll proper).1
  rw [each] at keeps
  have opensAfter := keeps.opens opens
  exact ⟨place, opensAfter, stands,
    contents_eq_ok_iff.mpr (opensAfter.node_join (named file member) stands)⟩

end Named

end Wiring.Workspace

namespace Wiring.Generation

open Wiring.Files
open Wiring.Plan
open Wiring.Source
open Wiring.Workspace

/-! ## The units of a pass -/

theorem Renders.names_sublist {module : ModuleDescriptor} {resolved : ResolvedModule}
    {files : List GeneratedFile} {problems : List Diagnostic}
    (renders : Renders module resolved files problems) :
    (files.map (·.name)).Sublist module.type.unitNames := by
  cases renders with
  | plain facade => exact List.cons_sublist_cons.mpr (List.nil_sublist _)
  | registering facade unit => exact List.Sublist.refl _
  | reported problems => exact List.nil_sublist _

theorem Generator.names_sublist {generator : Generator} (made : generator.IsMade)
    {found : Discovery} {output : PassOutput}
    (success : (generator.generate found).1 = .ok output) :
    (output.files.map (·.name)).Sublist
      ((consolidate found.modules).modules.flatMap fun module => module.type.unitNames) := by
  rw [eq_ofBlocks_of_generate success]
  change (((consolidate found.modules).modules.flatMap fun module =>
    (generator.block found module).files).map (·.name)).Sublist _
  rw [List.map_flatMap]
  exact List.Sublist.flatMap_right _ fun module _ => (renders_block made found module).names_sublist

/-- Modules whose names and namespaces have no dots have units of different names. Written into a
directory, the units of a pass over such modules change no other file and are no sources; and if
there are no slashes either, then they are all in the directory with their contents, unless the
directory cannot be made or holds a directory of the name of a unit. -/
theorem writeUnits_of_distinct {modules : List ModuleDescriptor}
    (distinct : (modules.map (·.identity)).Nodup)
    (undotted : ∀ module ∈ modules, module.type.Avoids '.') :
    (modules.flatMap fun module => module.type.unitNames).Nodup ∧
      ∀ (generator : Generator) (found : Discovery) (output : PassOutput), generator.IsMade →
        (generator.generate found).1 = .ok output →
        (consolidate found.modules).modules = modules →
        ∀ (workspace after : Workspace) (directory : String) (fault : Option FileFault),
          workspace.writeUnits directory output.files = (after, fault) →
          Spares workspace after directory output.files ∧
            ((∀ module ∈ modules, module.type.Avoids '/') →
              (fault = none ↔ ∃ made, workspace.makeDirectories directory = (made, none) ∧
                ∀ file ∈ output.files, made.Accepts directory file.name) ∧
              (fault = none → ∀ file ∈ output.files, after.HasUnit directory file)) := by
  have names := TypeName.nodup_flatMap_unitNames distinct undotted
  refine ⟨names, ?_⟩
  rintro generator found output made success rfl workspace after directory fault written
  have among := Generator.names_sublist made success
  have ofModule : ∀ file ∈ output.files, ∃ module ∈ (consolidate found.modules).modules,
      file.name ∈ module.type.unitNames := fun file member =>
    List.mem_flatMap.mp (among.subset (List.mem_map_of_mem member))
  refine ⟨spares_writeUnits (fun file member => ?_) written, fun unslashed => ?_⟩
  · obtain ⟨module, -, inNames⟩ := ofModule file member
    exact TypeName.generatedTail_suffix inNames
  · have named : ∀ file ∈ output.files, IsEntryName file.name := by
      intro file member
      obtain ⟨module, listed, inNames⟩ := ofModule file member
      exact TypeName.isEntryName_of_mem_unitNames (unslashed module listed) inNames
    refine ⟨writeUnits_eq_none_iff named written, ?_⟩
    rintro rfl
    exact hasUnit_of_writeUnits named (names.sublist among) written

def generatedBefore : Workspace :=
  ⟨.directory [("target", .directory [("wiregen", .directory
    [("crate.Http.module.g.rs", .file .empty), ("main.rs", .file "fn main() {}".toUTF8)])])], []⟩

theorem writeUnits_of_distinct_uneven :
    ∃ output after, ((Generator.ofSettings .default).generate Generator.uneven).1 = .ok output ∧
      generatedBefore.writeUnits "./target/wiregen" output.files = (after, none) ∧
      output.files.length = 3 ∧ (∀ file ∈ output.files, after.HasUnit "./target/wiregen" file) ∧
      Spares generatedBefore after "./target/wiregen" output.files := by
  have made : (Generator.ofSettings .default).IsMade := ⟨.default, [], rfl⟩
  have success : ((Generator.ofSettings .default).generate Generator.uneven).1 =
      .ok (runPass .default Generator.uneven .empty).1 := rfl
  have fault : (generatedBefore.writeUnits "./target/wiregen"
      (runPass .default Generator.uneven .empty).1.files).2 = none := by decide +kernel
  have count : (runPass .default Generator.uneven .empty).1.files.length = 3 := by decide +kernel
  generalize (runPass .default Generator.uneven .empty).1 = output at success fault count
  have written :=
    (Prod.mk.eta (p := generatedBefore.writeUnits "./target/wiregen" output.files)).symm
  rw [fault] at written
  have distinct : ((consolidate Generator.uneven.modules).modules.map (·.identity)).Nodup := by
    decide +kernel
  obtain ⟨-, ofPass⟩ := writeUnits_of_distinct distinct (by decide +kernel)
  obtain ⟨spares, slashless⟩ := ofPass _ _ _ made success rfl _ _ _ _ written
  obtain ⟨-, there⟩ := slashless (by decide +kernel)
  exact ⟨_, _, success, written, count, there rfl, spares⟩

/-! ## Slashes -/

/-- Some unit of a pass over modules is not in the directory that the units are written into. -/
def LosesUnit (modules : List ModuleDescriptor) (workspace : Workspace)
    (fault : Option FileFault) : Prop :=
  ∃ output after, ((Generator.ofSettings .default).generate (discovered modules [])).1 =
      .ok output ∧
    workspace.writeUnits "./target/wiregen" output.files = (after, fault) ∧
    ∃ file ∈ output.files, ¬after.HasUnit "./target/wiregen" file

theorem losesUnit_of_contents {modules : List ModuleDescriptor} {workspace : Workspace}
    {fault : Option FileFault}
    (written : (workspace.writeUnits "./target/wiregen"
      (runPass .default (discovered modules []) .empty).1.files).2 = fault)
    (lost : ∃ file ∈ (runPass .default (discovered modules []) .empty).1.files,
      (workspace.writeUnits "./target/wiregen"
        (runPass .default (discovered modules []) .empty).1.files).1.contents
          (join "./target/wiregen" file.name) ≠ .ok file.contents.toUTF8) :
    LosesUnit modules workspace fault := by
  have success : ((Generator.ofSettings .default).generate (discovered modules [])).1 =
      .ok (runPass .default (discovered modules []) .empty).1 := rfl
  obtain ⟨file, member, other⟩ := lost
  refine ⟨_, _, success, Prod.ext rfl written, file, member, ?_⟩
  rintro ⟨-, -, -, there⟩
  exact other there

def versioned : ModuleDescriptor :=
  .ofType (.of "app/*v2*/" "App") "src/lib.rs"

def remarked : List ModuleDescriptor :=
  [.ofType (.of "crate" "Foo//x") "src/lib.rs", .ofType (.of "crate" "Foo////x") "src/lib.rs"]

/-- The name of a unit with slashes is that of a file in another directory, which may not be there,
and names that differ may be those of one file. -/
theorem losesUnit_of_slashes :
    (∀ module ∈ versioned :: remarked, module.type.Avoids '.' ∧ module.type.Avoids ':') ∧
      LosesUnit [versioned] ⟨.directory [], []⟩ (some .notFound) ∧
      (remarked.map (·.identity)).Nodup ∧
      LosesUnit remarked
        ⟨.directory [("target", .directory [("wiregen", .directory
          [("crate.Foo", .directory [])])])], []⟩ none := by
  refine ⟨by decide +kernel, ?_, by decide +kernel, ?_⟩
  · exact losesUnit_of_contents (by decide +kernel) (by decide +kernel)
  · exact losesUnit_of_contents (by decide +kernel) (by decide +kernel)

end Wiring.Generation
