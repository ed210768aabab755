import StagedBuild.BuildError
import StagedBuild.Disk.Walk
import StagedBuild.Environment

/-!
# Where the tools are

`Toolchain.ofRoot` lays the tools and the files they share out below one root.
`Toolchain.discoverBy` chooses the root.  One that is asked for explicitly comes
first, then the variable `PFORGE_ROOT`, then the directory above the one of the
running program if it holds `Compiler`.

The native build tool is the one named by `PFORGE_NATIVE_BUILD`.  Without that
variable it is looked up by its name, and if it is not found, it is left to be found
by its name when it is started.

How programs are looked up is not said here: a `Which` is any look-up that finds
programs only.  `Which.inPath` searches the directories of `PATH`.
-/

namespace StagedBuild

/-! ## Looking programs up -/

/-- A look-up of programs by their names. -/
structure Which where
  /-- The program of a name, in an environment and on a disk. -/
  find? : Environment → Disk → Path → Option Path
  /-- What is found may be executed. -/
  isProgram_of_find? : ∀ {env : Environment} {disk : Disk} {name program : Path},
    find? env disk name = some program → disk.isProgram program = true

/-- The look-up in the directories of `PATH`, first to last. -/
def Which.inPath : Which where
  find? env disk name := (env.get? "PATH").bind fun searchPath =>
    ((piecesAt 0x3A searchPath).map fun folder => Path.join folder name).find? disk.isProgram
  isProgram_of_find? found := by
    obtain ⟨searchPath, _, found⟩ := Option.bind_eq_some_iff.mp found
    exact List.find?_some found

/-! ## Layout -/

/-- The tools and the files they share. -/
structure Toolchain where
  /-- The directory of the tools. -/
  root : Path
  /-- The tool of the first stage. -/
  domainCompiler : Path
  /-- The tool of the second stage. -/
  modelChecker : Path
  /-- The tool of the third stage. -/
  projectGenerator : Path
  /-- The tool of the last stage. -/
  nativeBuild : Path
  /-- The directory that the domain compiler reads its data from. -/
  dataFolder : Path
  /-- The support file of the model checker. -/
  supportFile : Path
  /-- The directory of the header files. -/
  includeFolder : Path
  /-- The directory of the libraries. -/
  libraryFolder : Path
  /-- Whether the project generator adds a test harness. -/
  testHarness : Bool
deriving DecidableEq, Repr

namespace Toolchain

/-- The name of the native build tool. -/
def nativeBuildName : Path := Bytes.ofString "MSBuild.exe"

/-- The directory of the compilers, below the root. -/
def compilerName : Path := Bytes.ofString "Compiler"

/-- The directory of the files for running programs, below the root. -/
def supportFolderName : Path := Bytes.ofString "Runtime"

/-- The tools below a root. -/
def ofRoot (root : Path) : Toolchain :=
  let compilers := root.join compilerName
  let shared := root.join supportFolderName
  { root := root
    domainCompiler := compilers.join (Bytes.ofString "PCompiler")
    modelChecker := compilers.join (Bytes.ofString "zc")
    projectGenerator := compilers.join (Bytes.ofString "PrtGen")
    nativeBuild := nativeBuildName
    dataFolder := compilers
    supportFile := shared.join (Bytes.ofString "SMRuntime.zing")
    includeFolder := shared
    libraryFolder := shared
    testHarness := false }

/-! ## Discovery -/

/-- The variable that names the root. -/
def rootVariable : String := "PFORGE_ROOT"

/-- The variable that names the native build tool. -/
def nativeBuildVariable : String := "PFORGE_NATIVE_BUILD"

/-- The root around a running program: two directories up, if `Compiler` is
there. -/
def rootAround? (disk : Disk) (program : Path) : Option Path :=
  ((program.parent?).bind Path.parent?).filter fun root => disk.isFolder (root.join compilerName)

/-- The native build tool. -/
def findNativeBuild (which : Which) (env : Environment) (disk : Disk) : Path :=
  match env.get? nativeBuildVariable with
  | some tool => tool
  | none => (which.find? env disk nativeBuildName).getD nativeBuildName

/-- The native build tool is the one that the variable names, or a program, or left to
be found. -/
theorem findNativeBuild_cases (which : Which) (env : Environment) (disk : Disk) :
    env.get? nativeBuildVariable = some (findNativeBuild which env disk) ∨
      disk.isProgram (findNativeBuild which env disk) = true ∨
      findNativeBuild which env disk = nativeBuildName := by
  rw [findNativeBuild]
  split
  · next tool named => exact .inl named
  · next unnamed =>
    cases found : which.find? env disk nativeBuildName with
    | none => exact .inr (.inr rfl)
    | some tool => exact .inr (.inl (which.isProgram_of_find? found))

/-- The root, by the first of the three ways that gives one. -/
def findRoot? (explicit : Option Path) (env : Environment) (disk : Disk)
    (program : Option Path) : Option Path :=
  match explicit with
  | some root => some root
  | none =>
      match env.get? rootVariable with
      | some root => some root
      | none => program.bind (rootAround? disk)

/-- The tools for an explicit root, an environment, a disk and a running
program, with a look-up for the native build tool. -/
def discoverBy (which : Which) (explicit : Option Path) (env : Environment) (disk : Disk)
    (program : Option Path) : Except BuildError Toolchain :=
  match findRoot? explicit env disk program with
  | some root => .ok { ofRoot root with nativeBuild := findNativeBuild which env disk }
  | none =>
      .error (.toolchain
        ("toolchain root not found (use --toolchain-root or set " ++ rootVariable ++ ")"))

/-- The tools, with the look-up in the directories of `PATH`. -/
def discover : Option Path → Environment → Disk → Option Path → Except BuildError Toolchain :=
  discoverBy .inPath

end Toolchain

end StagedBuild
