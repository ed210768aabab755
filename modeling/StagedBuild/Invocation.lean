import StagedBuild.Path

/-!
# Calls of tools

An invocation is a program, its arguments and perhaps a directory to run in.  It
is built up from the program.
-/

namespace StagedBuild

/-- A call of a tool. -/
structure Invocation where
  /-- The program. -/
  program : Path
  /-- Its arguments. -/
  args : List Bytes := []
  /-- The directory it runs in, if not the caller's. -/
  folder : Option Path := none
deriving DecidableEq, Repr

namespace Invocation

/-- A call without arguments. -/
def ofProgram (program : Path) : Invocation := ⟨program, [], none⟩

/-- One more argument at the end. -/
def arg (call : Invocation) (value : Bytes) : Invocation :=
  { call with args := call.args ++ [value] }

/-- Run in a directory. -/
def inFolder (call : Invocation) (folder : Path) : Invocation :=
  { call with folder := some folder }

/-- The arguments as text. -/
def argTexts (call : Invocation) : List String := call.args.map Utf8.decode

/-- The call as text: the program and the arguments with spaces between. -/
def display (call : Invocation) : String :=
  call.argTexts.foldl (fun text arg => text ++ " " ++ arg) call.program.display

end Invocation

end StagedBuild
