import StagedBuild.Disk.Walk
import StagedBuild.Machine.Shell.Numbers

/-!
# Conditions

`test` and `[` ask for files, texts and numbers.  A condition is an operator
between two operands, an operator before one, or a text that has to be there.
Conditions are joined by `-a` and, looser, by `-o`.
-/

namespace StagedBuild.Shell

namespace Conditions

/-- Why arguments are no condition. -/
inductive Fault where
  /-- Something follows the condition, which ends at an argument. -/
  | leftOver (last : Bytes)
  /-- An operand is missing. -/
  | noOperand (sign : Bytes)
  /-- An operand is no number. -/
  | noNumber (text : Bytes)
deriving DecidableEq, Repr

/-- What is said of a fault. -/
def Fault.text : Fault → Bytes
  | .leftOver last => last ++ Bytes.ofString ": unexpected operator"
  | .noOperand sign => sign ++ Bytes.ofString ": argument expected"
  | .noNumber text => Bytes.ofString "Illegal number: " ++ text

/-- Whether a path leads to a link that is not followed. -/
def isLink (disk : Disk) (p : Path) : Bool :=
  match disk.find p false with
  | .ok (.entry _ (.link _)) => true
  | _ => false

/-- What a condition with one operand says. -/
def unary? (disk : Disk) (sign : String) (operand : Bytes) : Option Bool :=
  match sign with
  | "-n" => some (!operand.isEmpty)
  | "-z" => some operand.isEmpty
  | "-e" => some (disk.isThere operand)
  | "-r" => some (disk.isThere operand)
  | "-w" => some (disk.isThere operand)
  | "-d" => some (disk.isFolder operand)
  | "-f" => some (match disk.stat operand with
    | .ok (_, .file ..) => true
    | _ => false)
  | "-x" => some (disk.isFolder operand || disk.isProgram operand)
  | "-s" => some (match disk.stat operand with
    | .ok (_, .file data _) => !data.isEmpty
    | .ok (_, .folder) => true
    | _ => false)
  | "-c" => some (match disk.stat operand with
    | .ok (_, .device _) => true
    | _ => false)
  | "-h" => some (isLink disk operand)
  | "-L" => some (isLink disk operand)
  | "-t" => some false
  | _ => none

/-- A relation between two operands. -/
inductive Relation where
  /-- Between texts. -/
  | texts (holds : Bytes → Bytes → Bool)
  /-- Between numbers. -/
  | numbers (holds : Int → Int → Bool)

/-- The relation of an operator. -/
def relation? : String → Option Relation
  | "=" => some (.texts fun a b => a == b)
  | "!=" => some (.texts fun a b => a != b)
  | "-eq" => some (.numbers fun a b => a == b)
  | "-ne" => some (.numbers fun a b => a != b)
  | "-lt" => some (.numbers fun a b => a < b)
  | "-le" => some (.numbers fun a b => a ≤ b)
  | "-gt" => some (.numbers fun a b => a > b)
  | "-ge" => some (.numbers fun a b => a ≥ b)
  | _ => none

/-- Whether a relation holds. -/
def Relation.holds (relation : Relation) (a b : Bytes) : Except Fault Bool :=
  match relation with
  | .texts holds => .ok (holds a b)
  | .numbers holds =>
      match intOf? a, intOf? b with
      | some a, some b => .ok (holds a b)
      | none, _ => .error (.noNumber a)
      | _, none => .error (.noNumber b)

/-- The text of an operator. -/
def signOf (bytes : Bytes) : String := String.ofList bytes.toCodes

mutual

/-- Conditions joined by `-o`. -/
def anyOf (disk : Disk) : Nat → List Bytes → Except Fault (Bool × List Bytes)
  | 0, _ => .ok (false, [])
  | fuel + 1, args => do
      let (first, rest) ← allOf disk fuel args
      match rest.map signOf with
      | "-o" :: _ => do
          let (second, rest) ← anyOf disk fuel (rest.drop 1)
          .ok (first || second, rest)
      | _ => .ok (first, rest)

/-- Conditions joined by `-a`. -/
def allOf (disk : Disk) : Nat → List Bytes → Except Fault (Bool × List Bytes)
  | 0, _ => .ok (false, [])
  | fuel + 1, args => do
      let (first, rest) ← single disk fuel args
      match rest.map signOf with
      | "-a" :: _ => do
          let (second, rest) ← allOf disk fuel (rest.drop 1)
          .ok (first && second, rest)
      | _ => .ok (first, rest)

/-- One condition. -/
def single (disk : Disk) : Nat → List Bytes → Except Fault (Bool × List Bytes)
  | 0, _ => .ok (false, [])
  | fuel + 1, args =>
      match args with
      | [] => .ok (false, [])
      | [a] => .ok (!a.isEmpty, [])
      | a :: sign :: rest =>
          match relation? (signOf sign), rest with
          | some relation, b :: rest => do .ok (← relation.holds a b, rest)
          | relation, rest =>
              if signOf a = "!" then do
                let (answer, rest) ← single disk fuel (sign :: rest)
                .ok (!answer, rest)
              else if signOf a = "(" then do
                let (answer, rest) ← anyOf disk fuel (sign :: rest)
                .ok (answer, rest.drop 1)
              else match unary? disk (signOf a) sign with
                | some answer => .ok (answer, rest)
                | none =>
                    if relation.isSome then .error (.noOperand sign)
                    else .ok (!a.isEmpty, sign :: rest)

end

/-- Whether arguments hold. -/
def evaluate (disk : Disk) (args : List Bytes) : Except Fault Bool := do
  let (answer, rest) ← anyOf disk (4 * args.length + 4) args
  if rest.isEmpty then .ok answer
  else .error (.leftOver ((args[args.length - rest.length - 1]?).getD []))

end Conditions

end StagedBuild.Shell
