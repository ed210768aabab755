import StagedBuild.Machine.Shell.Input

/-!
# Reading shell scripts

Every function takes a fuel that bounds how deep constructs nest and how long
lists are.  `readScript` gives it enough for any script.

A script is read command by command.  A mistake in it does not undo the commands
before, so the result is those commands and the mistake.
-/

namespace StagedBuild.Shell

mutual

/-- The parts up to a character that ends them. -/
def readParts : Nat → Quoting → (Char → Bool) → Reader Word
  | 0, _, _ => tooDeep
  | fuel + 1, quoting, stop => do
      let quoted := quoting ≠ .none
      let chars ← ahead
      match chars with
      | [] => return []
      | c :: rest =>
          if stop c then return []
          else if c = '\\' then
            match rest with
            | [] => do
                pass 1
                return [.text quoted (Bytes.ofCodes ['\\'])]
            | '\n' :: _ => do
                pass 2
                readParts fuel quoting stop
            | d :: _ =>
                if quoted && !(['$', '\x60', '\\'].contains d || (d = '"' && quoting = .double)) then do
                  pass 1
                  return .text true (Bytes.ofCodes ['\\']) :: (← readParts fuel quoting stop)
                else do
                  pass 2
                  return .text true (Bytes.ofCodes [d]) :: (← readParts fuel quoting stop)
          else if c = '\'' && !quoted then
            let inner := rest.takeWhile (· ≠ '\'')
            if rest.length = inner.length then mistake "Unterminated quoted string"
            else do
              pass (inner.length + 2)
              return .text true (Bytes.ofCodes inner) :: (← readParts fuel quoting stop)
          else if c = '"' && quoting ≠ .document then do
            pass 1
            let inner ← readParts fuel .double (· = '"')
            match ← ahead with
            | '"' :: _ => do
                pass 1
                return .text true [] :: inner ++ (← readParts fuel quoting stop)
            | _ => mistake "Unterminated quoted string"
          else if c = '$' then do
            let part ← readDollar fuel quoted
            return part :: (← readParts fuel quoting stop)
          else if c = '\x60' then
            match backquoted (quoting = .double) [] 0 rest with
            | none => mistake "EOF in backquote substitution"
            | some (inner, count) => do
                let line := (← get).line
                pass (count + 2)
                let command ← readInner fuel ⟨inner, line⟩
                return .output quoted command :: (← readParts fuel quoting stop)
          else do
            let run := (c :: rest).takeWhile fun d =>
              !stop d && !(['\'', '"', '\\', '$', '\x60'].contains d)
            let run := if run.isEmpty then [c] else run
            pass run.length
            return .text quoted (Bytes.ofCodes run) :: (← readParts fuel quoting stop)

/-- A list of commands in an input of its own. -/
def readInner : Nat → Input → Reader Command
  | 0, _ => tooDeep
  | fuel + 1, inner => do
      match (readList fuel).run inner with
      | .ok (command, left) =>
          if left.rest.isEmpty then return command else unexpected
      | .error e => throw e

/-- What a dollar sign starts. -/
def readDollar : Nat → Bool → Reader Part
  | 0, _ => tooDeep
  | fuel + 1, quoted => do
      match ← ahead with
      | '$' :: '(' :: '(' :: rest =>
          match expressionChars 0 [] rest with
          | some inner => do
              let line := (← get).line
              pass (inner.length + 5)
              match (readParts fuel .document fun _ => false).run ⟨inner, line⟩ with
              | .ok (parts, _) => return .number quoted parts
              | .error e => throw e
          | none => mistake "Missing '))'"
      | '$' :: '(' :: _ => readOutput fuel quoted
      | '$' :: '\x7b' :: rest => do
          pass 2
          readBraced fuel quoted rest
      | '$' :: rest =>
          match parameterName rest with
          | [] => do
              pass 1
              return .text quoted (Bytes.ofCodes ['$'])
          | name => do
              pass (name.length + 1)
              return .parameter quoted (Bytes.ofCodes name) .value
      | _ => unexpected

/-- What a command in parentheses prints. -/
def readOutput : Nat → Bool → Reader Part
  | 0, _ => tooDeep
  | fuel + 1, quoted => do
      pass 2
      let command ← readList fuel
      passClosing
      return .output quoted command

/-- A parameter in braces. -/
def readBraced : Nat → Bool → List Char → Reader Part
  | 0, _, _ => tooDeep
  | fuel + 1, quoted, chars => do
      let lengthOf := match chars with
        | '#' :: c :: _ => c ≠ '\x7d' && !(parameterName [c]).isEmpty
        | _ => false
      if lengthOf then pass 1
      let rest ← ahead
      let name := match rest with
        | c :: _ => if c.isDigit then rest.takeWhile Char.isDigit else parameterName rest
        | [] => []
      if name.isEmpty then badParameter
      pass name.length
      let change ← if lengthOf then pure Change.length else readChange fuel quoted
      match ← ahead with
      | '\x7d' :: _ => do
          pass 1
          return .parameter quoted (Bytes.ofCodes name) change
      | _ => badParameter

/-- What is made of the value of a parameter in braces. -/
def readChange : Nat → Bool → Reader Change
  | 0, _ => tooDeep
  | fuel + 1, quoted => do
      let quoting : Quoting := if quoted then .double else .none
      let word (count : Nat) (quoting : Quoting) : Reader Word := do
        pass count
        readParts fuel quoting (· = '\x7d')
      match ← ahead with
      | '%' :: '%' :: _ => return .trim true true (← word 2 .none)
      | '%' :: _ => return .trim true false (← word 1 .none)
      | '#' :: '#' :: _ => return .trim false true (← word 2 .none)
      | '#' :: _ => return .trim false false (← word 1 .none)
      | ':' :: c :: _ =>
          match fallbackOf? c with
          | some rule => return .orElse rule true (← word 2 quoting)
          | none => badParameter
      | c :: _ =>
          match fallbackOf? c with
          | some rule => return .orElse rule false (← word 1 quoting)
          | none => return .value
      | [] => return .value

/-- A redirection, if one stands here. -/
def readRedirection : Nat → Reader (Option Redirection)
  | 0 => tooDeep
  | fuel + 1 => do
      passBlanks
      let chars ← ahead
      match redirectionAhead chars with
      | none => return none
      | some digits => do
          let sign := chars.drop digits
          let (direction, length, strip) := signOf sign
          let number :=
            if digits = 0 then (if sign.head? = some '<' then 0 else 1)
            else numberOf (chars.take digits)
          pass (digits + length)
          passBlanks
          let target ← readParts fuel .none isMeta
          if target.isEmpty then unexpected
          else if direction = .document then do
            let text ← cutDocument (Bytes.toCodes (literalOf target)) strip
            if hasQuotes target then
              return some (.mk number .document [.text true (Bytes.ofCodes text)])
            else
              match (readParts fuel .document fun _ => false).run ⟨text, (← get).line⟩ with
              | .ok (parts, _) => return some (.mk number .document parts)
              | .error e => throw e
          else return some (.mk number direction target)

/-- The redirections here. -/
def readRedirections : Nat → Reader (List Redirection)
  | 0 => tooDeep
  | fuel + 1 => do
      match ← readRedirection fuel with
      | some redirection => return redirection :: (← readRedirections fuel)
      | none => return []

/-- The rest of a simple command behind what was read of it. -/
def readSimple : Nat → Nat → List (Bytes × Word) → List Word → List Redirection → Reader Command
  | 0, _, _, _, _ => tooDeep
  | fuel + 1, line, assignments, words, redirections => do
      match ← readRedirection fuel with
      | some redirection =>
          readSimple fuel line assignments words (redirections ++ [redirection])
      | none =>
          let chars ← ahead
          match chars with
          | [] => return .simple line assignments words redirections
          | c :: _ =>
              if isMeta c then return .simple line assignments words redirections
              else match (if words.isEmpty then assignmentAhead chars else none) with
                | some name => do
                    pass (name.length + 1)
                    let value ← readParts fuel .none isMeta
                    readSimple fuel line (assignments ++ [(Bytes.ofCodes name, value)]) words
                      redirections
                | none => do
                    let word ← readParts fuel .none isMeta
                    readSimple fuel line assignments (words ++ [word]) redirections

/-- The words up to the end of a line. -/
def readWords : Nat → Reader (List Word)
  | 0 => tooDeep
  | fuel + 1 => do
      passBlanks
      match ← ahead with
      | [] => return []
      | c :: _ =>
          if isMeta c then return []
          else do
            let word ← readParts fuel .none isMeta
            return word :: (← readWords fuel)

/-- The branches of a choice between conditions, from the first condition on. -/
def readChoice : Nat → Reader Command
  | 0 => tooDeep
  | fuel + 1 => do
      let test ← readSome fuel
      passKeyword "then"
      let yes ← readSome fuel
      match ← keyword? ["elif", "else", "fi"] with
      | some "elif" => return .choice test yes (← readChoice fuel)
      | some "else" => do
          let no ← readSome fuel
          passKeyword "fi"
          return .choice test yes no
      | some _ => return .choice test yes .skip
      | none => unexpected

/-- The body of a loop. -/
def readBody : Nat → Reader Command
  | 0 => tooDeep
  | fuel + 1 => do
      passLines fuel
      passKeyword "do"
      let body ← readSome fuel
      passKeyword "done"
      return body

/-- The patterns of a branch. -/
def readPatterns : Nat → Reader (List Word)
  | 0 => tooDeep
  | fuel + 1 => do
      passBlanks
      let pattern ← readParts fuel .none isMeta
      passBlanks
      match ← ahead with
      | '|' :: _ => do
          pass 1
          return pattern :: (← readPatterns fuel)
      | _ => do
          passClosing
          return [pattern]

/-- The branches of a selection. -/
def readBranches : Nat → Reader (List (List Word × Command))
  | 0 => tooDeep
  | fuel + 1 => do
      passLines fuel
      match ← keyword? ["esac"] with
      | some _ => return []
      | none => do
          if (← ahead).head? = some '(' then pass 1
          let patterns ← readPatterns fuel
          let body ← readList fuel
          match ← ahead with
          | ';' :: ';' :: _ => do
              pass 2
              return (patterns, body) :: (← readBranches fuel)
          | [] => unexpectedFor ";;"
          | _ => do
              passKeyword "esac"
              return [(patterns, body)]

/-- A command with what may follow it. -/
def readCommand : Nat → Reader Command
  | 0 => tooDeep
  | fuel + 1 => do
      passBlanks
      let line := (← get).line
      match ← ahead with
      | '(' :: _ => do
          pass 1
          let body ← readSome fuel
          passClosing
          readBehind fuel (.subshell body)
      | chars =>
          match ← keyword? ["if", "while", "until", "for", "case", "\x7b"] with
          | some "if" => readChoice fuel >>= readBehind fuel
          | some "while" => do
              let test ← readSome fuel
              let body ← readBody fuel
              readBehind fuel (.loop false test body)
          | some "until" => do
              let test ← readSome fuel
              let body ← readBody fuel
              readBehind fuel (.loop true test body)
          | some "for" => readForEach fuel >>= readBehind fuel
          | some "case" => do
              passBlanks
              let subject ← readParts fuel .none isMeta
              passLines fuel
              passKeyword "in"
              let branches ← readBranches fuel
              readBehind fuel (.select subject branches)
          | some _ => do
              let body ← readSome fuel
              passKeyword "\x7d"
              readBehind fuel body
          | none => do
              if (plainAhead chars).any fun word => closers.contains (String.ofList word) then
                unexpected
              let name := chars.takeWhile isNameChar
              let behind := (chars.drop name.length).dropWhile (· = ' ')
              match name, behind with
              | c :: _, '(' :: more =>
                  match more.dropWhile (· = ' ') with
                  | ')' :: body =>
                      if isNameStart c then do
                        pass (chars.length - body.length)
                        passLines fuel
                        return .define (Bytes.ofCodes name) (← readCommand fuel)
                      else mistake "Bad function name"
                  | _ => do
                      pass (chars.length - more.length)
                      passBlanks
                      unexpectedFor ")"
              | _, _ => do
                  let command ← readSimple fuel line [] [] []
                  match command with
                  | .simple _ [] [] [] => unexpected
                  | command => return command

/-- A loop over words, behind its first word. -/
def readForEach : Nat → Reader Command
  | 0 => tooDeep
  | fuel + 1 => do
      passBlanks
      let name := (← ahead).takeWhile isNameChar
      if name.isEmpty then mistake "Bad for loop variable"
      pass name.length
      passLines fuel
      let words ← match ← keyword? ["in"] with
        | some _ => do pure (some (← readWords fuel))
        | none => pure none
      passBlanks
      if (← ahead).head? = some ';' then pass 1
      let body ← readBody fuel
      return .forEach (Bytes.ofCodes name) words body

/-- A command with the redirections behind it. -/
def readBehind : Nat → Command → Reader Command
  | 0, _ => tooDeep
  | fuel + 1, command => do
      match ← readRedirections fuel with
      | [] => return command
      | redirections => return .redirected command redirections

/-- Commands joined by pipes. -/
def readPipes : Nat → Reader Command
  | 0 => tooDeep
  | fuel + 1 => do
      let first ← readCommand fuel
      passBlanks
      match ← ahead with
      | '|' :: '|' :: _ => return first
      | '|' :: _ => do
          pass 1
          passLines fuel
          return .pipe first (← readPipes fuel)
      | _ => return first

/-- Commands joined by pipes, perhaps negated. -/
def readNegated : Nat → Reader Command
  | 0 => tooDeep
  | fuel + 1 => do
      match ← keyword? ["!"] with
      | some _ => return .negated (← readPipes fuel)
      | none => readPipes fuel

/-- The rest of a chain of commands that depend on each other. -/
def readChain : Nat → Command → Reader Command
  | 0, _ => tooDeep
  | fuel + 1, first => do
      passBlanks
      match ← ahead with
      | '&' :: '&' :: _ => do
          pass 2
          passLines fuel
          readChain fuel (.both first (← readNegated fuel))
      | '|' :: '|' :: _ => do
          pass 2
          passLines fuel
          readChain fuel (.either first (← readNegated fuel))
      | _ => return first

/-- Commands up to what ends their list, at least one unless the input ends. -/
def readSome : Nat → Reader Command
  | 0 => tooDeep
  | fuel + 1 => do
      passLines fuel
      let chars ← ahead
      if !chars.isEmpty && atEnd chars then unexpected else readList fuel

/-- Commands up to what ends their list. -/
def readList : Nat → Reader Command
  | 0 => tooDeep
  | fuel + 1 => do
      passLines fuel
      if atEnd (← ahead) then return .skip
      else do
        let first ← readNegated fuel >>= readChain fuel
        passBlanks
        match ← ahead with
        | ';' :: ';' :: _ => return first
        | c :: _ =>
            if c = ';' ∨ c = '&' ∨ c = '\n' then do
              pass 1
              return .sequence first (← readList fuel)
            else return first
        | [] => return first

end

/-- The commands of a line. -/
def readLine : Nat → Reader Command
  | 0 => tooDeep
  | fuel + 1 => do
      let first ← readNegated fuel >>= readChain fuel
      passBlanks
      match ← ahead with
      | [] => return first
      | '\n' :: _ => do
          pass 1
          return first
      | c :: rest =>
          if (c = ';' && rest.head? ≠ some ';') || c = '&' then do
            pass 1
            passBlanks
            match ← ahead with
            | [] => return first
            | '\n' :: _ => do
                pass 1
                return first
            | _ => return .sequence first (← readLine fuel)
          else unexpected

/-- The lines of a script up to a mistake. -/
def readLines : Nat → Input → List Command × Option Mistake
  | 0, _ => ([], none)
  | fuel + 1, input =>
      match (passLines (input.rest.length + 1)).run input with
      | .error e => ([], some e)
      | .ok ((), input) =>
          if input.rest.isEmpty then ([], none)
          else match (readLine (4 * input.rest.length + 16)).run input with
            | .error e => ([], some e)
            | .ok (command, left) =>
                let (commands, wrong) := readLines fuel left
                (command :: commands, wrong)

/-- The commands of a script up to a mistake. -/
def readScript (script : Bytes) : List Command × Option Mistake :=
  readLines (script.length + 1) ⟨script.toCodes, 1⟩

end StagedBuild.Shell
