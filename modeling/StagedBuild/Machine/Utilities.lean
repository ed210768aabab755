import StagedBuild.Machine.Utility.Files
import StagedBuild.Machine.Utility.Texts

/-!
# The small programs by their names
-/

namespace StagedBuild

namespace Machine

namespace Utility

/-- The programs by their names. -/
def all : List (String × Utility) :=
  [("[", bracket), ("basename", basename), ("cat", cat), ("chmod", chmod), ("cp", cp),
   ("dirname", dirname), ("echo", echo), ("expr", expr), ("false", fun _ => endWith 1), ("head", head),
   ("ln", ln), ("ls", ls), ("mkdir", mkdir), ("mv", mv), ("printf", printf), ("pwd", pwd),
   ("rm", rm), ("rmdir", rmdir), ("seq", seq), ("sleep", sleep), ("sort", sort),
   ("tail", tail), ("tee", tee), ("test", test), ("touch", touch), ("true", fun _ => pure ()),
   ("wc", wc)]

/-- The program of a name. -/
def ofName? (name : Bytes) : Option Utility :=
  (all.find? fun (other, _) => Bytes.ofString other == name).map (·.2)

end Utility

end Machine

end StagedBuild
