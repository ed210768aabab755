import StagedBuild.Disk.Effect
import StagedBuild.Toolbox

/-!
# Scripted tools

A script answers the calls of a build one line at a time, whatever is called.
Each line says what the tool prints, how it exits and what it changes, or that
it is thrown out.  Past its end, a script answers that the tool succeeded and
printed nothing.
-/

namespace StagedBuild

/-- The answer to one call. -/
inductive ScriptLine where
  /-- The tool makes changes, prints some bytes and ends. -/
  | ended (succeeded : Bool) (printed : Bytes) (effects : List Effect)
  /-- The tool makes changes and is thrown out of its call. -/
  | thrown (effects : List Effect)
deriving DecidableEq, Repr

/-- The answers to the calls still to come. -/
abbrev Script := List ScriptLine

/-- What one line of a script does to a disk. -/
def ScriptLine.answer (disk : Disk) : ScriptLine → Reply × Disk
  | .ended succeeded printed effects =>
      (.ended (ToolOutput.ofBytes succeeded printed), Effect.applyAll disk effects)
  | .thrown effects => (.thrown, Effect.applyAll disk effects)

/-- The tools that answer from a script. -/
def Script.toolbox : Toolbox Script where
  answer _ script disk :=
    match script with
    | [] => (.ended (ToolOutput.ofBytes true []), [], disk)
    | line :: later =>
        let (reply, disk) := line.answer disk
        (reply, later, disk)

end StagedBuild
