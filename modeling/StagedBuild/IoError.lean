/-!
# Causes of failed operations on files and processes

Each constructor is one cause.  `message` is what users read.  The causes that
the operating system reports carry its number.
-/

namespace StagedBuild

/-- Why an operation on a file or a process failed. -/
inductive IoError where
  /-- There is no such entry. -/
  | notFound
  /-- A program has no execute permission or is no file. -/
  | permissionDenied
  /-- The entry to be made is there already. -/
  | alreadyExists
  /-- A component that has to be a directory is none. -/
  | notADirectory
  /-- The operation does not work on directories. -/
  | isADirectory
  /-- The directory to be removed has entries. -/
  | notEmpty
  /-- A component or a path is too long. -/
  | nameTooLong
  /-- Too many links were followed. -/
  | tooManyLinks
  /-- A program is in no format that can be run. -/
  | badProgramFormat
  /-- A path holds the byte zero. -/
  | nulInPath
  /-- A program, an argument or a working directory holds the byte zero. -/
  | nulInCommand
  /-- The source of a copy is no regular file. -/
  | notARegularFile
  /-- Any other cause, by its text. -/
  | other (text : String)
deriving DecidableEq, Repr

namespace IoError

/-- What the operating system calls a cause, with its number. -/
def numbered? : IoError → Option (String × String)
  | .notFound => some ("No such file or directory", "2")
  | .badProgramFormat => some ("Exec format error", "8")
  | .permissionDenied => some ("Permission denied", "13")
  | .alreadyExists => some ("File exists", "17")
  | .notADirectory => some ("Not a directory", "20")
  | .isADirectory => some ("Is a directory", "21")
  | .nameTooLong => some ("File name too long", "36")
  | .notEmpty => some ("Directory not empty", "39")
  | .tooManyLinks => some ("Too many levels of symbolic links", "40")
  | _ => none

/-- What the cause is called, without a number. -/
def text (error : IoError) : String :=
  match error.numbered? with
  | some (text, _) => text
  | none =>
      match error with
      | .nulInPath => "file name contained an unexpected NUL byte"
      | .nulInCommand => "nul byte found in provided data"
      | .notARegularFile =>
          "the source path is neither a regular file nor a symlink to a regular file"
      | .other text => text
      | _ => ""

/-- What users read. -/
def message (error : IoError) : String :=
  match error.numbered? with
  | some (text, number) => text ++ " (os error " ++ number ++ ")"
  | none => error.text

end IoError

end StagedBuild
