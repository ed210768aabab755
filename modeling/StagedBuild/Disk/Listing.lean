import StagedBuild.Disk.Basic

/-!
# Listings

The listing of a disk shows every entry below the working directory by its path
from there.  The path of a directory ends in a slash.  The entries are ordered by
the bytes of their paths.
-/

namespace StagedBuild

namespace Disk

/-- The path that a listing shows for an entry. -/
def listedPath (names : Location) (node : Node) : Path :=
  joinPieces Bytes.slash names ++ (if node = .folder then [Bytes.slash] else [])

/-- Whether a byte string stands before or at another. -/
def bytesLe (a b : Bytes) : Bool := decide (a ≤ b)

/-- The entries below the working directory by their paths. -/
def listing (disk : Disk) : List (Path × Node) :=
  ((disk.below disk.home).map fun (names, node) => (listedPath names node, node)).mergeSort
    fun a b => bytesLe a.1 b.1

end Disk

end StagedBuild
