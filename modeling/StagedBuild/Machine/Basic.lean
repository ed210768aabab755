import StagedBuild.Machine.Utilities

/-!
# The machine that tools run on

Programs of the system are files too.  A *program image* is a file that starts
with a fixed tag and goes on with the name of a system program.  What such a
program does is defined elsewhere.

`Machine.disk` is a disk with the system programs, the null device and an empty
working directory.
-/

namespace StagedBuild

namespace Machine

/-- What a program image starts with. -/
def imageTag : Bytes := 0x7F :: Bytes.ofString "ELF"

/-- The image of a system program. -/
def imageOf (name : String) : Bytes := imageTag ++ Bytes.ofString name

/-- The name of the system program in an image. -/
def imageName? (data : Bytes) : Option Bytes :=
  if imageTag.isPrefixOf data then some (data.drop imageTag.length) else none

/-- The shell, the program that sets variables for another, and the small
programs. -/
def systemPrograms : List String := "sh" :: "env" :: Utility.all.map (·.1)

/-- The directories of the system and its programs. -/
def systemEntries : List (Location × Node) :=
  [([Bytes.ofString "bin"], .link (Bytes.ofString "usr/bin")),
   ([Bytes.ofString "usr"], .folder),
   ([Bytes.ofString "usr", Bytes.ofString "bin"], .folder),
   ([Bytes.ofString "dev"], .folder),
   ([Bytes.ofString "dev", Bytes.ofString "null"], .device .null),
   ([Bytes.ofString "dev", Bytes.ofString "zero"], .device .zero)] ++
  systemPrograms.map fun name =>
    ([Bytes.ofString "usr", Bytes.ofString "bin", Bytes.ofString name],
      .file (imageOf name) true)

/-- The directories from the root down to a location. -/
def foldersTo (loc : Location) : List (Location × Node) :=
  (List.range loc.length).map fun n => (loc.take (n + 1), .folder)

/-- The disk of the system with an empty working directory. -/
def disk (home : Location) : Disk := ⟨foldersTo home ++ systemEntries, home⟩

end Machine

end StagedBuild
