import StagedBuild.Text.Bytes

/-!
# Environments

A program runs in an environment of variables.  The first entry of a variable is
its value.
-/

namespace StagedBuild

/-- The variables of an environment with their values. -/
abbrev Environment := List (String × Bytes)

namespace Environment

/-- The value of a variable, if it is set. -/
def get? (env : Environment) (name : String) : Option Bytes := env.lookup name

/-- An environment with a value for a variable, in place of the one it had. -/
def set (env : Environment) (name : String) (value : Bytes) : Environment :=
  (name, value) :: env.filter (·.1 != name)

end Environment

end StagedBuild
