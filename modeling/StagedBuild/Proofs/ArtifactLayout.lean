import StagedBuild.Pipeline
import StagedBuild.Proofs.PathParts

/-!
# Where artifacts lie

A unit is named for the last component of its source, so its name has no slash
(`slash_notMem_of_unitName`).  With an extension behind it, it is one component
(`isComponent_named`), and what is joined from the output directory and components
lies below that directory, whatever bytes the directory has (`LiesIn.of_join`).

The names of the artifacts differ in their last byte, apart from the two fixed
ones (`names_nodup`).  Those of two units differ because nothing is lost of a unit's
name in its bytes (`Layout.unitFiles_apart`).

The model checker is told the names alone.  Joined to its working directory they
are the paths again (`nameOrPath_of_liesIn`).  `artifact_layout` puts this together.
-/

namespace StagedBuild

/-! ## Names of units -/

namespace Request

variable {source output : Path} {choice : StageChoice} {request : Request} {unitName : String}

theorem make_eq_ok (made : make source output choice = .ok request) :
    ∃ unitName, unitNameOf? source = some unitName ∧
      request = ⟨source, output, unitName, choice⟩ := by
  rw [make] at made
  split at made
  · cases made
  · split at made
    · next unitName derived =>
      cases made
      exact ⟨unitName, derived, rfl⟩
    · cases made

/-- A byte of ASCII in the name of a unit is one of the source's name or the dot between
the pieces of that. -/
theorem mem_of_unitName {c : Char} (ascii : IsAscii c)
    (derived : unitNameOf? source = some unitName)
    (inside : UInt8.ofNat c.toNat ∈ Bytes.ofString unitName) :
    ∃ name, source.fileName? = some name ∧
      (UInt8.ofNat c.toNat ∈ name ∨ UInt8.ofNat c.toNat = Bytes.dot) := by
  rw [unitNameOf?, Option.filter_eq_some_iff, Option.map_eq_some_iff] at derived
  obtain ⟨⟨stem, cut, rfl⟩, _⟩ := derived
  rw [Path.fileStem?, Option.map_eq_some_iff] at cut
  obtain ⟨name, named, rfl⟩ := cut
  have inText : c ∈ (Utf8.decode (Path.stemOf name)).toList :=
    (Utf8.mem_ofString_iff ascii _).mp inside
  have inStem : UInt8.ofNat c.toNat ∈ Path.stemOf name := (Utf8.mem_decode_iff ascii _).mp inText
  exact ⟨name, named, Path.mem_stemOf inStem⟩

/-- The name of a unit has a zero only if its source has one. -/
theorem zero_mem_of_unitName (derived : unitNameOf? source = some unitName)
    (zero : 0 ∈ Bytes.ofString unitName) : 0 ∈ source := by
  have ascii : IsAscii (Char.ofNat 0) := by decide
  obtain ⟨name, named, inName | dot⟩ := mem_of_unitName ascii derived zero
  · exact Path.mem_of_fileName? named inName
  · cases dot

theorem slash_notMem_of_unitName (derived : unitNameOf? source = some unitName) :
    Bytes.slash ∉ Bytes.ofString unitName := by
  intro slash
  have ascii : IsAscii '/' := by decide
  obtain ⟨name, named, inName | dot⟩ := mem_of_unitName ascii derived slash
  · exact Path.slash_notMem_of_fileName? named inName
  · cases dot

end Request

/-! ## Files of a folder -/

namespace Path

/-- A file that lies in a folder under a name. -/
structure LiesIn (folder file : Path) (name : Bytes) : Prop where
  /-- The name is one component. -/
  component : IsComponent name
  /-- The file is the folder joined with the name. -/
  joined : file = folder.join name
  /-- The name stands behind the components of the folder, so the file is not above it. -/
  below : file.components = (folder.components.1, folder.components.2 ++ [name])

theorem LiesIn.of_join {name : Bytes} (component : IsComponent name) (folder : Path) :
    LiesIn folder (folder.join name) name :=
  ⟨component, rfl, components_join component folder⟩

end Path

/-! ## Names of artifacts -/

namespace Artifacts

variable {output : Path} {unitName other : String}

/-- The name of a unit with an extension. -/
def named (unitName extension : String) : Bytes := Bytes.ofString (unitName ++ extension)

/-- The extensions of the files that have the name of the unit. -/
def extensions : List String := [".dll", ".vcxproj", ".exe"]

/-- A unit's name with an extension is one component. -/
theorem isComponent_named {extension : String} (unit : Bytes.slash ∉ Bytes.ofString unitName)
    (mem : extension ∈ extensions) : Path.IsComponent (named unitName extension) := by
  have usual : ∀ extension ∈ extensions, Bytes.slash ∉ Bytes.ofString extension ∧
      2 < (Bytes.ofString extension).length := by decide
  obtain ⟨clean, long⟩ := usual extension mem
  rw [named, Bytes.ofString_append]
  refine .of_length ?_ ?_
  · rw [List.mem_append, not_or]
    exact ⟨unit, clean⟩
  · rw [List.length_append]
    omega

/-- The files among the artifacts. -/
def files (artifacts : Artifacts) : List Path :=
  [artifacts.model, artifacts.support, artifacts.library, artifacts.project, artifacts.binary]

/-- The files that have the name of the unit. -/
def unitFiles (artifacts : Artifacts) : List Path :=
  [artifacts.library, artifacts.project, artifacts.binary]

/-- Each file lies in the output directory, the native program in a directory there. -/
structure Layout (artifacts : Artifacts) (output : Path) (unitName : String) : Prop where
  output_eq : artifacts.output = output
  model : Path.LiesIn output artifacts.model modelName
  support : Path.LiesIn output artifacts.support supportName
  library : Path.LiesIn output artifacts.library (named unitName ".dll")
  project : Path.LiesIn output artifacts.project (named unitName ".vcxproj")
  binary : ∃ folder, Path.LiesIn output folder binaryFolder ∧
    Path.LiesIn folder artifacts.binary (named unitName ".exe")

theorem layout_ofUnit (unit : Bytes.slash ∉ Bytes.ofString unitName) (output : Path) :
    Layout (ofUnit output unitName) output unitName := by
  have fixed : ∀ name ∈ [modelName, supportName, binaryFolder], Path.IsComponent name := by decide
  have unitFile : ∀ extension ∈ extensions, Path.IsComponent (named unitName extension) :=
    fun _ mem => isComponent_named unit mem
  exact {
    output_eq := rfl
    model := .of_join (fixed modelName (by decide)) output
    support := .of_join (fixed supportName (by decide)) output
    library := .of_join (unitFile _ (by decide)) output
    project := .of_join (unitFile _ (by decide)) output
    binary := ⟨_, .of_join (fixed binaryFolder (by decide)) output,
      .of_join (unitFile _ (by decide)) _⟩ }

theorem layout_of_make {source : Path} {choice : StageChoice} {request : Request}
    (made : Request.make source output choice = .ok request) :
    Layout (ofRequest request) output request.unitName := by
  obtain ⟨unitName, derived, rfl⟩ := Request.make_eq_ok made
  exact layout_ofUnit (Request.slash_notMem_of_unitName derived) output

/-! ## Different files -/

/-- The last byte tells extensions from each other and from the fixed names. -/
theorem extensions_end :
    (∀ extension ∈ extensions, ∀ extension' ∈ extensions,
      (Bytes.ofString extension).getLast? = (Bytes.ofString extension').getLast? →
        extension = extension') ∧
    ∀ name ∈ [modelName, supportName], ∀ extension ∈ extensions,
      name.getLast? ≠ (Bytes.ofString extension).getLast? := by
  decide

theorem getLast?_named {extension : String} (mem : extension ∈ extensions) (unitName : String) :
    (named unitName extension).getLast? = (Bytes.ofString extension).getLast? := by
  have filled : ∀ extension ∈ extensions, Bytes.ofString extension ≠ [] := by decide
  rw [named, Bytes.ofString_append, List.getLast?_append_of_ne_nil _ (filled extension mem)]

theorem named_inj {extension extension' : String} (mem : extension ∈ extensions)
    (mem' : extension' ∈ extensions) (h : named unitName extension = named other extension') :
    unitName = other ∧ extension = extension' := by
  have ends := congrArg List.getLast? h
  rw [getLast?_named mem, getLast?_named mem'] at ends
  obtain rfl := extensions_end.1 extension mem extension' mem' ends
  rw [named, named, Bytes.ofString_append, Bytes.ofString_append] at h
  exact ⟨Utf8.ofString_injective (List.append_cancel_right h), rfl⟩

theorem ne_named {name : Path} {extension : String} (fixed : name ∈ [modelName, supportName])
    (mem : extension ∈ extensions) (unitName : String) : name ≠ named unitName extension := by
  rintro rfl
  exact extensions_end.2 _ fixed extension mem (getLast?_named mem unitName)

/-- The names of the files of a unit. -/
def names (unitName : String) : List Bytes :=
  modelName :: supportName :: extensions.map (named unitName)

theorem names_nodup (unitName : String) : (names unitName).Nodup := by
  have fixed : ∀ name ∈ [modelName, supportName], name ∉ extensions.map (named unitName) := by
    intro name fixed mem
    obtain ⟨extension, inside, same⟩ := List.mem_map.mp mem
    exact ne_named fixed inside unitName same.symm
  have different : modelName ≠ supportName := by decide
  have extended : (extensions.map (named unitName)).Nodup := by
    have distinct : extensions.Nodup := by decide
    refine List.pairwise_map.mpr (distinct.imp_of_mem ?_)
    intro extension extension' mem mem' ne same
    exact ne (named_inj mem mem' same).2
  rw [names, List.nodup_cons, List.nodup_cons, List.mem_cons, not_or]
  exact ⟨⟨different, fixed _ (.head _)⟩, fixed _ (.tail _ (.head _)), extended⟩

/-- A name with an extension belongs to one unit. -/
theorem unit_of_name {name : Bytes} (mem : name ∈ extensions.map (named unitName))
    (mem' : name ∈ names other) : unitName = other := by
  obtain ⟨extension, inside, rfl⟩ := List.mem_map.mp mem
  rw [names, List.mem_cons, List.mem_cons] at mem'
  rcases mem' with model | support | named
  · exact absurd model.symm (ne_named (.head _) inside unitName)
  · exact absurd support.symm (ne_named (.tail _ (.head _)) inside unitName)
  · obtain ⟨extension', inside', same⟩ := List.mem_map.mp named
    exact (named_inj inside' inside same).1.symm

/-- The last component of a path that is not skipped. -/
def lastName? (p : Path) : Option Bytes := p.components.2.getLast?

theorem lastName?_of_liesIn {folder file : Path} {name : Bytes} (h : Path.LiesIn folder file name) :
    lastName? file = some name := by
  rw [lastName?, h.below, List.getLast?_concat]

variable {artifacts artifacts' : Artifacts}

theorem Layout.unitFiles_names (h : Layout artifacts output unitName) :
    artifacts.unitFiles.map lastName? = (extensions.map (named unitName)).map some := by
  obtain ⟨folder, _, binary⟩ := h.binary
  simp only [unitFiles, extensions, List.map_cons, List.map_nil, lastName?_of_liesIn h.library,
    lastName?_of_liesIn h.project, lastName?_of_liesIn binary]

theorem Layout.files_names (h : Layout artifacts output unitName) :
    artifacts.files.map lastName? = (names unitName).map some := by
  have unit := h.unitFiles_names
  rw [files, names, List.map_cons, List.map_cons, lastName?_of_liesIn h.model,
    lastName?_of_liesIn h.support]
  rw [unitFiles] at unit
  rw [unit]
  rfl

/-- The files of a build are different, also when paths are read. -/
theorem Layout.files_nodup (h : Layout artifacts output unitName) :
    (artifacts.files.map Path.components).Nodup := by
  have lasts : (artifacts.files.map lastName?).Nodup := by
    rw [h.files_names]
    exact List.pairwise_map.mpr
      ((names_nodup unitName).imp fun ne same => ne (Option.some.inj same))
  refine List.pairwise_map.mpr ((List.pairwise_map.mp lasts).imp ?_)
  intro file file' ne same
  exact ne (by rw [lastName?, lastName?, same])

/-- What has the name of the unit is in no build of another unit in that directory. -/
theorem Layout.unitFiles_apart (h : Layout artifacts output unitName)
    (h' : Layout artifacts' output other) (differ : unitName ≠ other) :
    ∀ file ∈ artifacts.unitFiles, ∀ file' ∈ output :: artifacts'.files,
      file.components ≠ file'.components := by
  intro file mem file' mem' same
  rcases List.mem_cons.mp mem' with rfl | mem'
  · obtain ⟨folder, there, binary⟩ := h.binary
    have longer : file'.components.2.length < file.components.2.length := by
      simp only [unitFiles, List.mem_cons, List.not_mem_nil, or_false] at mem
      rcases mem with rfl | rfl | rfl
      · simp [h.library.below]
      · simp [h.project.below]
      · simp [binary.below, there.below]
    rw [same] at longer
    exact Nat.lt_irrefl _ longer
  · have last : lastName? file = lastName? file' := by rw [lastName?, lastName?, same]
    have named : lastName? file ∈ (extensions.map (named unitName)).map some :=
      h.unitFiles_names ▸ List.mem_map_of_mem mem
    have named' : lastName? file' ∈ (names other).map some :=
      h'.files_names ▸ List.mem_map_of_mem mem'
    obtain ⟨name, inside, eq⟩ := List.mem_map.mp named
    obtain ⟨name', inside', eq'⟩ := List.mem_map.mp named'
    rw [← eq, ← eq', Option.some.injEq] at last
    subst last
    exact differ (unit_of_name inside inside')

end Artifacts

/-! ## What the model checker is told -/

namespace Toolchain

theorem mem_nameOrPath {p : Path} {b : UInt8} (mem : b ∈ nameOrPath p) : b ∈ p := by
  rw [nameOrPath] at mem
  cases named : p.fileName? with
  | none =>
    rw [named] at mem
    exact mem
  | some name =>
    rw [named] at mem
    exact Path.mem_of_fileName? named mem

/-- The name of a file in a folder is cut off again. -/
theorem nameOrPath_of_liesIn {folder file : Path} {name : Bytes}
    (h : Path.LiesIn folder file name) :
    nameOrPath file = name := by
  rw [nameOrPath, h.joined, Path.fileName?_join h.component]
  rfl

theorem domainCompileCall_args (toolchain : Toolchain) (request : Request) :
    (toolchain.domainCompileCall request).args =
      [Bytes.ofString "/doNotErase", request.source, toolchain.dataFolder,
        Bytes.ofString "/outputDir:" ++ request.output] := rfl

theorem modelCheckCall_args (toolchain : Toolchain) (artifacts : Artifacts) :
    (toolchain.modelCheckCall artifacts).args =
      [Bytes.ofString "-nowarning:292", nameOrPath artifacts.model, nameOrPath artifacts.support,
        Bytes.ofString "/out:" ++ nameOrPath artifacts.library] := rfl

end Toolchain

namespace Artifacts

/-- All files lie in the output directory.  They are different, and those with the name
of the unit are in no build of another unit.  The model checker is told them by names
that lead to them from where it runs. -/
theorem artifact_layout {source output : Path} {choice : StageChoice} {request : Request}
    (made : Request.make source output choice = .ok request) :
    let artifacts := ofRequest request
    Layout artifacts output request.unitName ∧
    (artifacts.files.map Path.components).Nodup ∧
    (∀ source' choice' other, Request.make source' output choice' = .ok other →
      request.unitName ≠ other.unitName →
      ∀ file ∈ artifacts.unitFiles, ∀ file' ∈ output :: (ofRequest other).files,
        file.components ≠ file'.components) ∧
    ∀ toolchain : Toolchain, ∃ folder first model support library,
      (toolchain.modelCheckCall artifacts).folder = some folder ∧
      (toolchain.modelCheckCall artifacts).args =
        [first, model, support, Bytes.ofString "/out:" ++ library] ∧
      folder.join model = artifacts.model ∧ folder.join support = artifacts.support ∧
      folder.join library = artifacts.library := by
  intro artifacts
  have layout := layout_of_make made
  refine ⟨layout, layout.files_nodup, ?_, ?_⟩
  · intro source' choice' other made' differ
    exact layout.unitFiles_apart (layout_of_make made') differ
  · intro toolchain
    refine
      ⟨artifacts.output, _, _, _, _, rfl, Toolchain.modelCheckCall_args toolchain artifacts, ?_⟩
    rw [layout.output_eq, Toolchain.nameOrPath_of_liesIn layout.model,
      Toolchain.nameOrPath_of_liesIn layout.support, Toolchain.nameOrPath_of_liesIn layout.library]
    exact ⟨layout.model.joined.symm, layout.support.joined.symm, layout.library.joined.symm⟩

end Artifacts

namespace DotName

def output : Path := Bytes.ofString "out//"

/-- A unit whose name is a dot. -/
def request : Request := ⟨Bytes.ofString "a/..p", output, ".", ⟨true, false, false⟩⟩

def plain : Request := ⟨Bytes.ofString "a/m.p", output, "m", ⟨true, true, true⟩⟩

/-- The dots of the source and the slashes of the output directory do no harm. -/
theorem dotted_layout :
    Artifacts.Layout (Artifacts.ofRequest request) output "." ∧
      ∀ file ∈ (Artifacts.ofRequest request).unitFiles,
        ∀ file' ∈ output :: (Artifacts.ofRequest plain).files,
          file.components ≠ file'.components := by
  have made : Request.make request.source output request.choice = .ok request := by decide
  have made' : Request.make plain.source output plain.choice = .ok plain := by decide
  obtain ⟨layout, _, apart, _⟩ := Artifacts.artifact_layout made
  exact ⟨layout, apart plain.source plain.choice plain made' (by decide)⟩

end DotName

end StagedBuild
