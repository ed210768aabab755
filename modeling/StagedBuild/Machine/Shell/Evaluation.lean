import StagedBuild.Machine.Shell.Parser
import StagedBuild.Machine.Shell.Task

/-!
# Running shell scripts

Commands are run one after the other.  The two sides of a pipe are too: the
second one reads what the first one has written.

Everything recurses on a fuel.  A script that uses it up is ended by a signal, as
one is that uses up its time.
-/

namespace StagedBuild.Shell

mutual

/-- The grains of a word. -/
def grainsOfWord : Nat → List Part → Run (List Grain)
  | 0, _ => useUp
  | _, [] => pure []
  | fuel + 1, part :: rest => do
      let first ← grainsOfPart fuel part
      return first ++ (← grainsOfWord fuel rest)

/-- The grains of a part of a word. -/
def grainsOfPart : Nat → Part → Run (List Grain)
  | 0, _ => useUp
  | fuel + 1, part =>
      match part with
      | .text quoted bytes =>
          pure ((if quoted then [.here] else []) ++ grainsOf quoted false bytes)
      | .number quoted expression => do
          return grainsOf quoted true (← arithmetic (← textOf fuel expression))
      | .output quoted command => do
          return grainsOf quoted true (← outputOf fuel command)
      | .parameter quoted name .value =>
          if name = [0x40] then argumentGrains quoted false
          else if name = [0x2A] then argumentGrains quoted true
          else do valueGrains quoted name ((← get).parameter? name)
      | .parameter quoted name .length => do
          let shell ← get
          return grainsOf quoted true (natText ((parameterText? shell name).getD []).length)
      | .parameter quoted name (.trim atEnd longest pattern) => do
          let pattern ← patternOf fuel pattern
          let value? := parameterText? (← get) name
          valueGrains quoted name (value?.map (pattern.trim atEnd longest))
      | .parameter quoted name (.orElse rule empty word) => do
          let value? := parameterText? (← get) name
          let value? := if empty then value?.filter (!·.isEmpty) else value?
          match rule, value? with
          | .use, some value => return grainsOf quoted true value
          | .use, none => return asValue (← grainsOfWord fuel word)
          | .assign, some value => return grainsOf quoted true value
          | .assign, none => do
              let value ← textOf fuel word
              assign name value
              return grainsOf quoted true value
          | .fail, some value => return grainsOf quoted true value
          | .fail, none => do
              let text ← textOf fuel word
              let usual := if empty then "parameter not set or null" else "parameter not set"
              abort (name ++ Bytes.ofString ": " ++
                (if text.isEmpty then Bytes.ofString usual else text))
          | .instead, some _ => return asValue (← grainsOfWord fuel word)
          | .instead, none => return []

/-- A word as one text. -/
def textOf : Nat → List Part → Run Bytes
  | 0, _ => useUp
  | fuel + 1, word => do return (plainOf (← grainsOfWord fuel word)).map (·.1)

/-- A word as a pattern. -/
def patternOf : Nat → List Part → Run Pattern
  | 0, _ => useUp
  | fuel + 1, word => do return Pattern.ofMarked (plainOf (← grainsOfWord fuel word))

/-- The fields of words. -/
def fieldsOf : Nat → List (List Part) → Run (List Bytes)
  | 0, _ => useUp
  | _, [] => pure []
  | fuel + 1, word :: rest => do
      let grains ← grainsOfWord fuel word
      let shell ← get
      let fields := Fields.cut shell.separators grains
      let fields := if shell.plainNames then fields.map fun field => field.map (·.1)
        else fields.flatMap (Fields.resolve shell.disk)
      return fields ++ (← fieldsOf fuel rest)

/-- What a command prints. -/
def outputOf : Nat → Command → Run Bytes
  | 0, _ => useUp
  | fuel + 1, command => do
      let stream ← newStream
      isolated do
        connect 1 (.stream stream)
        run fuel command
      modify fun shell => { shell with outputStatus := shell.status }
      return withoutLineEnds ((← get).given stream)

/-- Do some redirections, and say whether all could be done. -/
def redirect : Nat → List Redirection → Run Bool
  | 0, _ => useUp
  | _, [] => pure true
  | fuel + 1, .mk number direction target :: rest => do
      let target ← textOf fuel target
      if ← openChannel number direction target then redirect fuel rest else return false

/-- Run a command. -/
def run : Nat → Command → Run Unit
  | 0, _ => useUp
  | fuel + 1, command =>
      match command with
      | .skip => pure ()
      | .simple line assignments words redirections => do
          modify fun shell => { shell with line := line, outputStatus := 0 }
          runSimple fuel assignments words redirections
          checkFailure
      | .redirected body redirections =>
          keepingChannels do
            if ← redirect fuel redirections then run fuel body
      | .sequence first second => do
          run fuel first
          run fuel second
      | .both first second => do
          whileTested (run fuel first)
          if (← get).status = 0 then run fuel second
      | .either first second => do
          whileTested (run fuel first)
          if (← get).status ≠ 0 then run fuel second
      | .negated body => do
          whileTested (run fuel body)
          finishBy ((← get).status ≠ 0)
      | .pipe first second => do
          let stream ← newStream
          isolated do
            connect 1 (.stream stream)
            run fuel first
          let source ← newSource ((← get).given stream)
          isolated do
            connect 0 (.source source)
            run fuel second
          checkFailure
      | .subshell body => do
          isolated (run fuel body)
          checkFailure
      | .choice test yes no => do
          whileTested (run fuel test)
          if (← get).status = 0 then run fuel yes
          else match no with
            | .skip => finish 0
            | no => run fuel no
      | .loop untilTrue test body => runLoop fuel untilTrue test body 0
      | .forEach name words body => do
          let values ← match words with
            | some words => fieldsOf fuel words
            | none => do pure (← get).args
          finish 0
          runForEach fuel name values body
      | .select subject branches => do
          let subject ← textOf fuel subject
          runBranch fuel subject branches
      | .define name body => do
          modify fun shell =>
            { shell with functions := (name, body) :: shell.functions.filter (·.1 != name) }
          finish 0

/-- Run a loop.  `last` is the status of the round before. -/
def runLoop : Nat → Bool → Command → Command → Nat → Run Unit
  | 0, _, _, _, _ => useUp
  | fuel + 1, untilTrue, test, body, last => do
      let goesOn ← inLoop (whileTested (run fuel test))
      if goesOn && ((← get).status = 0) != untilTrue then
        if ← inLoop (run fuel body) then
          runLoop fuel untilTrue test body (← get).status
      else finish last

/-- Run a command for some values of a variable. -/
def runForEach : Nat → Bytes → List Bytes → Command → Run Unit
  | 0, _, _, _ => useUp
  | _, _, [], _ => pure ()
  | fuel + 1, name, value :: rest, body => do
      assign name value
      if ← inLoop (run fuel body) then runForEach fuel name rest body

/-- Run the first branch with a pattern that matches. -/
def runBranch : Nat → Bytes → List (List (List Part) × Command) → Run Unit
  | 0, _, _ => useUp
  | _, _, [] => finish 0
  | fuel + 1, subject, (patterns, body) :: rest => do
      if ← matchesAny fuel subject patterns then
        match body with
        | .skip => finish 0
        | body => run fuel body
      else runBranch fuel subject rest

/-- Whether one of some patterns matches. -/
def matchesAny : Nat → Bytes → List (List Part) → Run Bool
  | 0, _, _ => useUp
  | _, _, [] => pure false
  | fuel + 1, subject, pattern :: rest => do
      if (← patternOf fuel pattern).isMatch subject then return true
      else matchesAny fuel subject rest

/-- Run a simple command. -/
def runSimple : Nat → List (Bytes × List Part) → List (List Part) → List Redirection → Run Unit
  | 0, _, _, _ => useUp
  | fuel + 1, assignments, words, redirections => do
      match ← fieldsOf fuel words with
      | [] =>
          keepingChannels do
            if ← redirect fuel redirections then
              assignments.forM fun (name, word) => do assign name (← textOf fuel word)
              finish (← get).outputStatus
      | [[0x65, 0x78, 0x65, 0x63]] => do
          if ← redirect fuel redirections then finish 0 else throw .exit
      | name :: args =>
          keepingChannels do
            if ← redirect fuel redirections then
              let values ← assignments.mapM fun (name, word) => do
                return (name, ← textOf fuel word)
              if Builtin.isSpecial name then
                values.forM fun (name, value) => assign name value
                runNamed fuel true name args
              else if values.isEmpty then runNamed fuel true name args
              else withVariables values (runNamed fuel true name args)
            else if Builtin.isSpecial name then throw .exit

/-- Run a command by its name.  `functions` says whether it may be a function. -/
def runNamed : Nat → Bool → Bytes → List Bytes → Run Unit
  | 0, _, _, _ => useUp
  | fuel + 1, functions, name, args => do
      let shell ← get
      let body? := if functions && !Builtin.isSpecial name then shell.functions.lookup name else none
      match body?, Builtin.ofName? name with
      | some body, _ => inFunction args (run fuel body)
      | none, some builtin => builtin args
      | none, none =>
          match Builtin.nameOf name with
          | "eval" => do
              finish 0
              runText fuel (joinPieces 0x20 args)
          | "." => runFile fuel args
          | "exec" => do
              modify fun shell => { shell with traps := [] }
              match args with
              | [] => finish 0
              | name :: args => runProgram fuel "exec: " name args
              throw .exit
          | "command" =>
              match args with
              | [0x2D, 0x76] :: name :: _ => locate name
              | name :: args => runNamed fuel false name args
              | [] => finish 0
          | "trap" => Builtin.trap args
          | "type" => describe args
          | "kill" => do
              let (signal?, numbers) := Builtin.killArgs args
              match signal? with
              | some signal => sendAll fuel signal numbers
              | none => Builtin.misuse 2 "kill: invalid signal number or name"
          | _ => runProgram fuel "" name args

/-- Send a signal to processes. -/
def sendAll : Nat → Nat → List Bytes → Run Unit
  | 0, _, _ => useUp
  | _, _, [] => finish 0
  | fuel + 1, signal, target :: rest => do
      let shell ← get
      match natOf? target with
      | none => abort (Bytes.ofString "kill: Illegal number: " ++ target)
      | some number =>
          if number = shell.number || shell.waiting.contains number then
            let action? := if number = shell.number && signal ≠ 9 then shell.traps.lookup signal
              else none
            match action? with
            | some action => runText fuel action
            | none =>
                if signal = 0 || Builtin.isIgnored signal then pure ()
                else throw (.killed number signal)
            sendAll fuel signal rest
          else Builtin.misuse 1 "kill: No such process"

/-- Run the commands of a text. -/
def runText : Nat → Bytes → Run Unit
  | 0, _ => useUp
  | fuel + 1, text => do
      let (commands, wrong?) := readScript text
      modify fun shell => { shell with alone := shell.alone && isOne commands }
      commands.forM (run fuel)
      match wrong? with
      | none => pure ()
      | some wrong => do
          modify fun shell => { shell with line := wrong.line }
          abort (Bytes.ofString wrong.text)

/-- Run the commands of a file in this shell. -/
def runFile : Nat → List Bytes → Run Unit
  | 0, _ => useUp
  | _, [] => abort (Bytes.ofString ".: filename argument required")
  | fuel + 1, path :: _ => do
      let shell ← get
      let path := if path.contains Bytes.slash then path else (shell.programPath? path).getD path
      match (Disk.readFile path shell.disk).1 with
      | .ok text => do
          finish 0
          runText fuel text
      | .error cause => abort (Bytes.ofString ".: " ++ openComplaint false path cause)

/-- Run a program by its path or its name.  `place` is said before complaints. -/
def runProgram : Nat → String → Bytes → List Bytes → Run Unit
  | 0, _, _, _ => useUp
  | fuel + 1, place, name, args => do
      let shell ← get
      let searchPath := (shell.value? (Bytes.ofString "PATH")).getD []
      match Machine.Loader.find shell.disk (some searchPath) name (name :: args) with
      | .ok loaded => runLoaded fuel loaded
      | .error .badProgramFormat =>
          let path := (shell.programPath? name).getD name
          runLoaded fuel ⟨Bytes.ofString "sh", name :: path :: args⟩
      | .error cause => complainOfProgram place name cause

/-- Run a program that has been loaded. -/
def runLoaded : Nat → Machine.Loaded → Run Unit
  | 0, _ => useUp
  | fuel + 1, loaded =>
      match Builtin.nameOf loaded.name with
      | "sh" => asProcess (runShell fuel loaded.args)
      | "env" => runEnv fuel (loaded.args.drop 1)
      | _ =>
          match Machine.Utility.ofName? loaded.name with
          | some utility => runUtility utility loaded.args
          | none => finish 126

/-- Run a program with some more variables, or print the variables. -/
def runEnv : Nat → List Bytes → Run Unit
  | 0, _ => useUp
  | _, [] => do
      (← get).exports.forM fun (name, held) =>
        writeLine 1 (name ++ 0x3D :: held.value)
      finish 0
  | fuel + 1, arg :: rest =>
      match Builtin.splitAssignment arg with
      | (name, some value) => withVariables [(name, value)] (runEnv fuel rest)
      | _ => runProgram fuel "" arg rest

/-- Run a shell with its arguments, and at its end what is to be done then. -/
def runShell : Nat → List Bytes → Run Unit
  | 0, _ => useUp
  | fuel + 1, args => do
      let task := Task.ofArgs {} (args.drop 1)
      modify fun shell => { shell with name := args.head?.getD [], alone := task.inline }
      try
        let text ← task.text
        runText fuel text
      catch
        | .killed number signal => throw (.killed number signal)
        | _ => pure ()
      match (← get).traps.lookup 0 with
      | none => pure ()
      | some action => do
          let status := (← get).status
          modify fun shell => { shell with traps := [] }
          runText fuel action
          finish status

end

/-- The fuel for a process. -/
def processFuel : Nat := 1000000

end StagedBuild.Shell
