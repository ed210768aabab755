import StagedBuild.Path
import StagedBuild.Stage

/-!
# Arguments of the command

The arguments name a program and an output directory and choose the stages.
They are read from left to right into a *draft*.  The first argument that does
not fit decides, and so does the first one that asks for help or for the version.
What is missing is found out at the end.

* A flag is given once at most and by its full name.  `-v` is short for
  `--verbose`, and letters may be joined behind one dash.
* The root of the tools follows its flag, joined by `=` or as the next argument,
  which does not start with a dash then.
* Behind `--` everything is an operand.  So is `-` anywhere.
* No operand is empty, and there are two of them.
-/

namespace StagedBuild

/-- The arguments of a build. -/
structure Arguments where
  /-- The program. -/
  input : Path
  /-- The output directory. -/
  output : Path
  /-- The stages to run. -/
  choice : StageChoice
  /-- The root of the tools, if it is given. -/
  root : Option Path
  /-- Whether to log more. -/
  verbose : Bool
deriving DecidableEq, Repr

namespace Arguments

/-- What the arguments ask for. -/
inductive Asked where
  /-- A build. -/
  | build (arguments : Arguments)
  /-- The help text. -/
  | help
  /-- The version. -/
  | version
  /-- Nothing, for they do not fit. -/
  | misused
deriving DecidableEq, Repr

/-- What a flag without a value stands for. -/
inductive Flag where
  /-- Run the model checker. -/
  | modelCheck
  /-- Generate a project. -/
  | generateProject
  /-- Build the project. -/
  | nativeBuild
  /-- Log more. -/
  | verbose
  /-- Show the help text. -/
  | help
  /-- Show the version. -/
  | version
deriving DecidableEq, Repr

/-- The full names of flags. -/
def longFlags : List (String × Flag) :=
  [("zc", .modelCheck), ("proj", .generateProject), ("cc", .nativeBuild), ("verbose", .verbose),
   ("help", .help), ("version", .version)]

/-- The letters of flags. -/
def shortFlags : List (Char × Flag) := [('v', .verbose), ('h', .help), ('V', .version)]

/-- The flag of a full name. -/
def longFlag? (name : Bytes) : Option Flag :=
  (longFlags.find? fun (other, _) => Bytes.ofString other == name).map (·.2)

/-- The flag of a letter. -/
def shortFlag? (letter : UInt8) : Option Flag := shortFlags.lookup (Char.ofNat letter.toNat)

/-- The name of the flag that the root follows. -/
def rootFlag : Bytes := Bytes.ofString "toolchain-root"

/-! ## Drafts -/

/-- The arguments that have been read. -/
structure Draft where
  /-- The operands. -/
  operands : List Path := []
  /-- The flags. -/
  flags : List Flag := []
  /-- The root of the tools. -/
  root : Option Path := none
deriving DecidableEq, Repr

namespace Draft

/-- A draft with one more operand. -/
def place (draft : Draft) (operand : Path) : Except Asked Draft :=
  if operand.isEmpty || 2 ≤ draft.operands.length then .error .misused
  else .ok { draft with operands := draft.operands ++ [operand] }

/-- A draft with one more flag. -/
def raise (draft : Draft) : Flag → Except Asked Draft
  | .help => .error .help
  | .version => .error .version
  | flag =>
      if draft.flags.contains flag then .error .misused
      else .ok { draft with flags := flag :: draft.flags }

/-- A draft with flags by their letters. -/
def raiseAll (draft : Draft) : List UInt8 → Except Asked Draft
  | [] => .ok draft
  | letter :: rest =>
      match shortFlag? letter with
      | none => .error .misused
      | some flag =>
          match draft.raise flag with
          | .ok draft => draft.raiseAll rest
          | .error asked => .error asked

/-- A draft with a root. -/
def atRoot (draft : Draft) (root : Path) : Except Asked Draft :=
  if root.isEmpty || draft.root.isSome then .error .misused
  else .ok { draft with root := some root }

/-- What a draft asks for when there are no more arguments. -/
def finish (draft : Draft) : Asked :=
  match draft.operands with
  | [input, output] =>
      .build ⟨input, output,
        ⟨draft.flags.contains .modelCheck, draft.flags.contains .generateProject,
          draft.flags.contains .nativeBuild⟩,
        draft.root, draft.flags.contains .verbose⟩
  | _ => .misused

end Draft

/-! ## Reading -/

/-- What an argument is by its look. -/
inductive Look where
  /-- The end of the flags. -/
  | escape
  /-- A flag by its full name, and the value joined to it. -/
  | long (name : Bytes) (value? : Option Bytes)
  /-- Flags by their letters. -/
  | short (letters : List UInt8)
  /-- An operand. -/
  | operand
deriving DecidableEq, Repr

/-- What an argument looks like. -/
def lookOf (arg : Bytes) : Look :=
  match arg with
  | [0x2D, 0x2D] => .escape
  | 0x2D :: 0x2D :: text =>
      let name := text.takeWhile (· != 0x3D)
      .long name (if name.length = text.length then none else some (text.drop (name.length + 1)))
  | 0x2D :: c :: letters => .short (c :: letters)
  | _ => .operand

/-- Read operands only. -/
def readOperands (draft : Draft) : List Bytes → Asked
  | [] => draft.finish
  | arg :: rest =>
      match draft.place arg with
      | .ok draft => readOperands draft rest
      | .error asked => asked

/-- Read arguments behind a draft. -/
def readFrom (draft : Draft) (args : List Bytes) : Asked :=
  match args with
  | [] => draft.finish
  | arg :: rest =>
      match lookOf arg with
      | .escape => readOperands draft rest
      | .operand =>
          match draft.place arg with
          | .ok draft => readFrom draft rest
          | .error asked => asked
      | .short letters =>
          match draft.raiseAll letters with
          | .ok draft => readFrom draft rest
          | .error asked => asked
      | .long name value? =>
          if name = rootFlag then
            match value? with
            | some root =>
                match draft.atRoot root with
                | .ok draft => readFrom draft rest
                | .error asked => asked
            | none =>
                match rest with
                | [] => .misused
                | root :: rest =>
                    if lookOf root = .operand then
                      match draft.atRoot root with
                      | .ok draft => readFrom draft rest
                      | .error asked => asked
                    else .misused
          else
            match longFlag? name, value? with
            | some flag, none =>
                match draft.raise flag with
                | .ok draft => readFrom draft rest
                | .error asked => asked
            | _, _ => .misused

/-- What some arguments ask for. -/
def read (args : List Bytes) : Asked := readFrom {} args

/-! ## Tests -/

section Tests

/-- What arguments given as texts ask for. -/
def readTexts (args : List String) : Asked := read (args.map Bytes.ofString)

example : readTexts ["a", "--zc", "b", "--help", "c"] = .help := by decide +kernel
example : readTexts ["a", "b", "c", "--help"] = .misused := by decide +kernel
example : readTexts ["-v", "-", "--", "--cc"] =
    .build ⟨Bytes.ofString "-", Bytes.ofString "--cc", {}, none, true⟩ := by decide +kernel
example : [["a", "b", "-vv"], ["a", "b", "--zc=1"], ["a", ""], ["a", "b", "--toolchain-root", "-x"]].map
    readTexts = List.replicate 4 .misused := by decide +kernel

end Tests

end Arguments

end StagedBuild
