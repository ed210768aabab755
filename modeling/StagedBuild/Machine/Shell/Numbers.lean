import StagedBuild.Text.Bytes

/-!
# Numbers in the shell

Integers are written in decimal.  `leadingNumber` reads one that is decimal, or
octal behind a `0`, or hexadecimal behind a `0x`.

`Arithmetic.evaluate` gives the value of an expression between double
parentheses, with the usual operators and their ranks.  Assignments in it are
results beside the value.
-/

namespace StagedBuild.Shell

/-- The value of decimal digits. -/
def natOf? (digits : Bytes) : Option Nat :=
  if digits.isEmpty then none
  else digits.foldl
    (fun n b => n.bind fun n => if 0x30 ≤ b && b ≤ 0x39 then some (n * 10 + (b.toNat - 0x30)) else none)
    (some 0)

/-- The value of a decimal integer with blanks around it. -/
def intOf? (text : Bytes) : Option Int :=
  let blank (b : UInt8) : Bool := b == 0x20 || (0x09 ≤ b && b ≤ 0x0D)
  let text := ((text.dropWhile blank).reverse.dropWhile blank).reverse
  match text with
  | 0x2D :: digits => (natOf? digits).map fun n => -(n : Int)
  | 0x2B :: digits => (natOf? digits).map fun n => (n : Int)
  | digits => (natOf? digits).map fun n => (n : Int)

/-- An integer in decimal. -/
def intText (n : Int) : Bytes := Bytes.ofString (toString n)

/-- A number in decimal. -/
def natText (n : Nat) : Bytes := Bytes.ofString (toString n)

/-- The value of a digit in any base. -/
def digitValue? (c : Char) : Option Nat :=
  if c.isDigit then some (c.toNat - '0'.toNat)
  else if c.isAlpha then some (c.toLower.toNat - 'a'.toNat + 10)
  else none

/-- The value of digits in a base, and the characters behind them. -/
def digitsFrom (base n : Nat) : List Char → Nat × List Char
  | [] => (n, [])
  | c :: rest =>
      match (digitValue? c).filter (· < base) with
      | some digit => digitsFrom base (n * base + digit) rest
      | none => (n, c :: rest)

/-- The number at the start of some characters, which are a digit at least, and
the characters behind it. -/
def leadingNumber (chars : List Char) : Nat × List Char :=
  match chars with
  | '0' :: 'x' :: rest => digitsFrom 16 0 rest
  | '0' :: rest => digitsFrom 8 0 rest
  | chars => digitsFrom 10 0 chars

namespace Arithmetic

/-- Why an expression has no value. -/
inductive Fault where
  /-- Something is divided by zero. -/
  | divisionByZero
  /-- An operand is missing. -/
  | noOperand
  /-- Something follows the expression. -/
  | more
deriving DecidableEq, Repr

/-- What is said of a fault. -/
def Fault.text : Fault → String
  | .divisionByZero => "division by zero"
  | .noOperand => "expecting primary"
  | .more => "expecting EOF"

/-- A piece of an expression. -/
inductive Token where
  /-- A number. -/
  | number (n : Int)
  /-- A name. -/
  | name (chars : List Char)
  /-- An operator or a parenthesis. -/
  | sign (text : String)
deriving DecidableEq, Repr

/-- The operators of two characters. -/
def doubleSigns : List (List Char) :=
  ["==", "!=", "<=", ">=", "&&", "||", "+=", "-=", "*=", "/=", "<<", ">>"].map (·.toList)

/-- The pieces of an expression. -/
def tokens : Nat → List Char → List Token
  | 0, _ => []
  | _, [] => []
  | fuel + 1, c :: rest =>
      if c = ' ' ∨ c = '\t' ∨ c = '\n' then tokens fuel rest
      else if c.isDigit then
        let (n, behind) := leadingNumber (c :: rest)
        .number n :: tokens fuel behind
      else if c.isAlpha ∨ c = '_' then
        let name := (c :: rest).takeWhile fun d => d.isAlphanum || d == '_'
        .name name :: tokens fuel ((c :: rest).drop name.length)
      else if doubleSigns.contains ((c :: rest).take 2) then
        .sign (String.ofList ((c :: rest).take 2)) :: tokens fuel (rest.drop 1)
      else .sign (String.ofList [c]) :: tokens fuel rest

/-- The variables while an expression is evaluated. -/
abbrev Values := List (List Char × Int)

/-- The rank of an operator.  Operators of a higher rank bind tighter. -/
def rankOf? : String → Option Nat
  | "||" => some 1
  | "&&" => some 2
  | "|" => some 3
  | "^" => some 4
  | "&" => some 5
  | "==" => some 6
  | "!=" => some 6
  | "<" => some 7
  | ">" => some 7
  | "<=" => some 7
  | ">=" => some 7
  | "<<" => some 8
  | ">>" => some 8
  | "+" => some 9
  | "-" => some 9
  | "*" => some 10
  | "/" => some 10
  | "%" => some 10
  | _ => none

/-- The value of a truth value. -/
def ofBool (b : Bool) : Int := if b then 1 else 0

/-- The word of 64 bits for a number. -/
def word (n : Int) : BitVec 64 := BitVec.ofInt 64 n

/-- What an operator gives.  Numbers are words with a sign. -/
def applied (sign : String) (a b : Int) : Except Fault Int :=
  match sign with
  | "||" => .ok (ofBool (a ≠ 0 || b ≠ 0))
  | "&&" => .ok (ofBool (a ≠ 0 && b ≠ 0))
  | "|" => .ok (word a ||| word b).toInt
  | "^" => .ok (word a ^^^ word b).toInt
  | "&" => .ok (word a &&& word b).toInt
  | "==" => .ok (ofBool (a = b))
  | "!=" => .ok (ofBool (a ≠ b))
  | "<" => .ok (ofBool (a < b))
  | ">" => .ok (ofBool (a > b))
  | "<=" => .ok (ofBool (a ≤ b))
  | ">=" => .ok (ofBool (a ≥ b))
  | "<<" => .ok ((word a).shiftLeft (b.toNat % 64)).toInt
  | ">>" => .ok ((word a).sshiftRight (b.toNat % 64)).toInt
  | "+" => .ok (word (a + b)).toInt
  | "-" => .ok (word (a - b)).toInt
  | "*" => .ok (word (a * b)).toInt
  | "/" => if b = 0 then .error .divisionByZero else .ok (a.tdiv b)
  | "%" => if b = 0 then .error .divisionByZero else .ok (a.tmod b)
  | _ => .error .more

/-- The operator of an assignment. -/
def assignedBy? : String → Option String
  | "=" => some "="
  | "+=" => some "+"
  | "-=" => some "-"
  | "*=" => some "*"
  | "/=" => some "/"
  | _ => none

/-- The value of a name. -/
def valueOf (values : Values) (name : List Char) : Int := (values.lookup name).getD 0

mutual

/-- The value of an expression with operators of at least a rank. -/
def expression : Nat → Nat → Values → List Token → Except Fault (Int × Values × List Token)
  | 0, _, _, _ => .error .more
  | fuel + 1, rank, values, todo =>
      match todo with
      | .name name :: .sign sign :: rest =>
          match (if rank = 0 then assignedBy? sign else none) with
          | some "=" => do
              let (n, values, rest) ← expression fuel 0 values rest
              .ok (n, (name, n) :: values, rest)
          | some operator => do
              let (n, values, rest) ← expression fuel 0 values rest
              let n ← applied operator (valueOf values name) n
              .ok (n, (name, n) :: values, rest)
          | none => do
              let (n, values, rest) ← operand fuel values todo
              operators fuel rank n values rest
      | todo => do
          let (n, values, rest) ← operand fuel values todo
          operators fuel rank n values rest

/-- The value of an operand. -/
def operand : Nat → Values → List Token → Except Fault (Int × Values × List Token)
  | 0, _, _ => .error .more
  | fuel + 1, values, todo =>
      match todo with
      | .number n :: rest => .ok (n, values, rest)
      | .name name :: rest => .ok (valueOf values name, values, rest)
      | .sign "(" :: rest => do
          let (n, values, rest) ← expression fuel 0 values rest
          match rest with
          | .sign ")" :: rest => .ok (n, values, rest)
          | _ => .error .more
      | .sign "-" :: rest => do
          let (n, values, rest) ← operand fuel values rest
          .ok (-n, values, rest)
      | .sign "+" :: rest => operand fuel values rest
      | .sign "!" :: rest => do
          let (n, values, rest) ← operand fuel values rest
          .ok (ofBool (n = 0), values, rest)
      | .sign "~" :: rest => do
          let (n, values, rest) ← operand fuel values rest
          .ok (-n - 1, values, rest)
      | _ => .error .noOperand

/-- The value with the operators behind it that bind at least as tight as a
rank. -/
def operators : Nat → Nat → Int → Values → List Token → Except Fault (Int × Values × List Token)
  | 0, _, _, _, _ => .error .more
  | fuel + 1, rank, left, values, todo =>
      match todo with
      | .sign "?" :: rest =>
          if rank = 0 then do
            let (yes, values, rest) ← expression fuel 0 values rest
            match rest with
            | .sign ":" :: rest => do
                let (no, values, rest) ← expression fuel 0 values rest
                .ok (if left ≠ 0 then yes else no, values, rest)
            | _ => .error .more
          else .ok (left, values, todo)
      | .sign sign :: rest =>
          match rankOf? sign with
          | some tight =>
              if tight < rank then .ok (left, values, todo)
              else do
                let (right, values, rest) ← expression fuel (tight + 1) values rest
                let n ← applied sign left right
                operators fuel rank n values rest
          | none => .ok (left, values, todo)
      | todo => .ok (left, values, todo)

end

/-- Whether an expression uses a variable. -/
def uses (text name : List Char) : Bool := (tokens (text.length + 1) text).contains (.name name)

/-- The value of an expression and the variables after it. -/
def evaluate (values : Values) (text : List Char) : Except Fault (Int × Values) :=
  let todo := tokens (text.length + 1) text
  match expression (4 * todo.length + 8) 0 values todo with
  | .ok (n, values, []) => .ok (n, values)
  | .ok _ => .error .more
  | .error fault => .error fault

example : (evaluate [("i".toList, 4)] "i+1".toList).toOption.map (·.1) = some 5 := by decide
example : (evaluate [] "2 * (3 + 4) % 5 == 4".toList).toOption.map (·.1) = some 1 := by decide

end Arithmetic

end StagedBuild.Shell
