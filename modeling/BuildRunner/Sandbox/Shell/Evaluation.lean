import BuildRunner.Sandbox.Shell.Builtins
import BuildRunner.Sandbox.Shell.Redirecting

/-! Running commands. How a command runs is told in terms of how the commands in it run, and this is
tied up at the end, to a depth that a shell does not survive. -/
namespace BuildRunner.Sandbox.Shell
open Eval Text

namespace Evaluation

/-! Programs -/

/-- Why a command cannot be run: its status and the words for it. -/
def refusal (fault : Fault) : Nat × String :=
  match fault with
  | .notFound | .notDirectory => (127, "not found")
  | .tooManyLinks | .nameTooLong => (127, fault.reason)
  | fault => (126, fault.reason)

/-- Starts a program. A file that no system program can run is a script for a shell. -/
def start (launch : Launcher) (path : String) (p : Process) (m : Machine) :
    Except Fault (Ending × Machine) :=
  match launch path p m with
  | .error .notExecutable => launch "/bin/sh" { p with name := "/bin/sh", arguments := path :: p.arguments } m
  | result => result

/-- Runs a program. While it takes its time, jobs that end before it are run. -/
def startBeside (path : String) (p : Process) : Eval (Except Fault Ending) := do
  let s ← get
  match start s.launch path p s.machine with
  | .error fault => return .error fault
  | .ok (ending, m) =>
    let waits := m.now > s.machine.now + 1000000 && s.jobs.any (·.ending.isNone)
    if !waits then
      setMachine m
      return .ok ending
    settle (some m.now) s.jobs.length
    match start s.launch path p (← get).machine with
    | .error fault => return .error fault
    | .ok (ending, m) =>
      setMachine m
      return .ok ending

/-- Runs the program that a command names, in place of the shell or as a process of its own. -/
def program (replaces : Bool) (path name : String) (arguments : List String) : Eval Unit := do
  let number ← newNumber
  let environment ← environment
  let own := (← get).process
  let p : Process :=
    if replaces then { own with name, arguments, environment }
    else { own with name, arguments, environment, number, ancestors := own.number :: own.ancestors }
  match ← startBeside path p with
  | .error fault =>
    let (status, text) := refusal fault
    complain (name ++ ": " ++ text)
    setStatus status
    if replaces then throw .exited
  | .ok ending =>
    if replaces then throw (.replaced ending)
    checkTime
    sayEnding ending
    setStatus (statusOf ending)

def external (replaces : Bool) (path : String) (words : List String) : Eval Unit := do
  let name := words.headD ""
  if name.contains '/' then program replaces name name words.tail
  else if name.isEmpty then
    complain ": Permission denied"
    setStatus 127
    if replaces then throw .exited
  else
    match ← Builtin.program? path name with
    | some file =>
      modify fun s => { s with hashed := if s.hashed.contains name then s.hashed else name :: s.hashed }
      program replaces file name words.tail
    | none =>
      complain (name ++ ": not found")
      setStatus 127
      if replaces then throw .exited

/-! Functions and builtins -/

def function (evaluate : Evaluator) (course : Course) (body : Command) (arguments : List String) :
    Eval Unit := do
  let outer ← get
  let putBack : Eval Unit := modify fun s =>
    { s with
      parameters := outer.parameters
      loops := outer.loops
      returnable := outer.returnable
      optionIndex := outer.optionIndex
      optionOffset := outer.optionOffset }
  modify fun s =>
    { s with
      parameters := arguments
      loops := 0
      returnable := s.returnable + 1
      optionIndex := 1
      optionOffset := 0 }
  try evaluate { course with isLast := false } body
  catch e =>
    match e with
    | .returned => pure ()
    | e =>
      putBack
      throw e
  putBack

def givenStatus (arguments : List String) : Eval Nat := do
  match arguments with
  | [] => return (← get).status
  | word :: _ => Builtin.natural word

/-- Leaves loops, or goes on with the next round of one. -/
def leaveLoops (arguments : List String) (interrupt : Nat → Interrupt) : Eval Unit := do
  let n ← match arguments with
    | [] => pure 1
    | word :: _ => Builtin.natural word
  if n == 0 then fail ("Illegal number: " ++ arguments.headD "")
  setStatus 0
  let levels := min n (← get).loops
  if levels > 0 then throw (interrupt levels)

/-- Runs the commands of a file in the shell itself. -/
def source (evaluate : Evaluator) (arguments : List String) : Eval Unit := do
  match arguments with
  | [] => setStatus 0
  | name :: _ =>
    let path ← if name.contains '/' then pure name else do
      match ← Builtin.program? (← Builtin.searchPath) name with
      | some path => pure path
      | none => fail (name ++ ": not found")
    match ← Change.open? .input path with
    | .error fault => fail ("cannot open " ++ path ++ ": " ++ Change.reason "No such file" fault)
    | .ok number =>
      let text ← match (← get).machine.read number none with
        | .ok (data, m) => do
          setMachine m
          pure (Octets.ofByteArray data)
        | .error _ => pure ""
      modify fun s => { s with command := some path, status := 0, returnable := s.returnable + 1 }
      let outer := (← get).returnable
      try
        let s ← get
        runLines evaluate .plain true patience (Reader.start text 1 s.documents s.aliases)
      catch e =>
        match e with
        | .returned => pure ()
        | e => throw e
      modify fun s => { s with returnable := outer - 1 }

def builtin (evaluate : Evaluator) (course : Course) (name : String) (arguments : List String) :
    Eval Unit := do
  let outer := (← get).command
  modify fun s => { s with command := some name }
  let body : Eval Unit := do
    match name with
    | "eval" => runText evaluate { course with isLast := false } (" ".intercalate arguments)
    | "." => source evaluate arguments
    | "exit" =>
      match arguments, (← get).final with
      | [], some n => setStatus n
      | _, _ => setStatus ((← givenStatus arguments) % 256)
      throw .exited
    | "return" =>
      setStatus (← givenStatus arguments)
      throw .returned
    | "break" => leaveLoops arguments .broke
    | "continue" => leaveLoops arguments .continued
    | "exec" =>
      match arguments with
      | [] => setStatus 0
      | words => external true (← Builtin.searchPath) words
    | _ =>
      match builtins.lookup name with
      | some run => run arguments
      | none => setStatus 0
  try body
  catch e =>
    modify fun s => { s with command := outer }
    throw e
  modify fun s => { s with command := outer }

/-! Simple commands -/

/-- The words of a command, expanded. After a command that sets variables, a word that does keeps its
value in one piece. -/
def expandWords (run : Command → Eval String) : Bool → List String → List Word → Eval (List String)
  | _, done, [] => return done
  | sets, done, w :: rest => do
    let found ← match if sets then Word.assignment? w else none with
      | some (name, value) => do pure [name ++ "=" ++ (← Expansion.value run value)]
      | none => Expansion.fields run w
    let done := done ++ found
    let head := (done.dropWhile (· == "command")).headD ""
    expandWords run (["export", "readonly", "local", "alias"].contains head) done rest

/-- A command behind the word that hides functions: the words after it, and whether the usual
directories are searched. Nothing if the word is to describe commands. -/
def hidden? : List String → Bool → Option (List String × Bool)
  | "-p" :: rest, _ => hidden? rest true
  | "--" :: rest, usual => some (rest, usual)
  | word :: rest, usual => if word.startsWith "-" && word.length > 1 then none else some (word :: rest, usual)
  | [], usual => some ([], usual)

/-- The words of a command after those that hide functions. -/
def unhide : Nat → List String → Bool → Bool → List String × Bool × Bool
  | 0, words, isHidden, usual => (words, isHidden, usual)
  | fuel + 1, words, isHidden, usual =>
    match words with
    | "command" :: rest =>
      match hidden? rest usual with
      | some (next :: more, usual) => unhide fuel (next :: more) true usual
      | _ => (words, isHidden, usual)
    | _ => (words, isHidden, usual)

def describing (arguments : List String) : Eval Unit := do
  let (found, names) ← Builtin.readSwitches "pvV" arguments
  setStatus 0
  match (found.map (·.1)).filter (· ≠ 'p') with
  | [] => return
  | letters => Builtin.describeAll (letters.getLast? == some 'v') (names.take 1)

/-- Shows a command before it runs, where the errors went before its redirections. -/
def trace (errors : Option Nat) (assigned : List (String × String)) (words : List String) : Eval Unit := do
  if !(← has 'x') then return
  let front := (← value? "PS4").getD ""
  let line := front ++ " ".intercalate (assigned.map (fun (n, v) => n ++ "=" ++ v) ++ words) ++ "\n"
  if let some number := errors then
    if let .ok m := (← get).machine.write number (Octets.toByteArray line) then setMachine m

/-- Runs what the words of a command stand for. A failure of a builtin ends the shell only if it is
one of the special ones. -/
def invoke (evaluate : Evaluator) (course : Course) (isSpecial isHidden usual : Bool)
    (words : List String) : Eval Unit := do
  let name := words.headD ""
  let functions := (← get).functions
  let body? := if isHidden then none else functions.lookup name
  match body? with
  | some (_, body) => function evaluate course body words.tail
  | none =>
    if name == "command" then
      let outer := (← get).command
      modify fun s => { s with command := some name }
      try describing words.tail
      catch e =>
        match e with
        | .failed => pure ()
        | e => throw e
      modify fun s => { s with command := outer }
    else if builtinNames.contains name then
      try builtin evaluate course name words.tail
      catch e =>
        match e with
        | .failed => if isSpecial then throw .failed
        | e => throw e
    else
      let path ← if usual then pure Builtin.usualPath else Builtin.searchPath
      let hasTraps := (← get).traps.any fun (_, action) => !action.isEmpty
      external (course.isLast && !hasTraps) path words

def simple (evaluate : Evaluator) (course : Course) (line : Nat) (assignments : List (String × Word))
    (words : List Word) (redirections : List Redirection) : Eval Unit := do
  modify fun s => { s with line, substituted := 0 }
  let run := substitute evaluate
  let all ← expandWords run false [] words
  let (given, isHidden, usual) := unhide (all.length + 1) all false false
  let name := given.headD ""
  let isSpecial := !isHidden && specialBuiltins.contains name
  let errors := (← get).process.descriptor? 2
  let changes ← redirections.mapM (Change.ofRedirection run)
  let body : Eval Unit := do
    if !(← redirect changes) then
      if isSpecial then throw .failed
    else if given.isEmpty then
      let assigned ← assignments.mapM fun (name, w) => do
        let value ← Expansion.value run w
        assign name value
        return (name, value)
      trace errors assigned []
      modify fun s => { s with status := s.substituted }
    else if specialBuiltins.contains name then
      let isExported := name == "exec" && given.length > 1
      let assigned ← assignments.mapM fun (name, w) => do
        let value ← Expansion.value run w
        assignWith isExported name value
        return (name, value)
      trace errors assigned all
      invoke evaluate course isSpecial isHidden usual given
    else
      pushFrame
      try
        let assigned ← assignments.mapM fun (name, w) => do
          let value ← Expansion.value run w
          save name
          assignWith true name value
          return (name, value)
        trace errors assigned all
        invoke evaluate course isSpecial isHidden usual given
      catch e =>
        popFrame
        throw e
      popFrame
  if changes.isEmpty then body
  else if name == "exec" then
    let before := (← get).process.descriptors
    body
    if (← get).status == 2 && given.length > 1 then
      modify fun s => { s with process := { s.process with descriptors := before } }
  else keepingDescriptors body

/-! Compound commands -/

/-- Runs commands side by side, what one writes being what the next one reads. -/
def pipeline (evaluate : Evaluator) (course : Course) : Option Nat → List Command → Eval Unit
  | _, [] => return
  | input, c :: rest => do
    let next ← match rest with
      | [] => pure none
      | _ => do
        let (source, sink, m) := (← get).machine.addPipe
        setMachine m
        pure (some (source, sink))
    let ending ← inCopy evaluate do
      if let some number := input then setDescriptor 0 (some number)
      if let some (_, sink) := next then setDescriptor 1 (some sink)
      evaluate { course with isLast := true } c
    sayEnding ending
    setStatus (statusOf ending)
    pipeline evaluate course (next.map (·.1)) rest

/-- How a part of a loop comes to its end. -/
inductive Turn where
  | passed
  | again
  | stopped

def inLoop (body : Eval Unit) : Eval Turn := do
  try
    body
    return .passed
  catch e =>
    match e with
    | .broke levels => if levels > 1 then throw (.broke (levels - 1)) else return .stopped
    | .continued levels => if levels > 1 then throw (.continued (levels - 1)) else return .again
    | e => throw e

def counted (body : Eval Unit) : Eval Unit := do
  modify fun s => { s with loops := s.loops + 1 }
  let leave : Eval Unit := modify fun s => { s with loops := s.loops - 1 }
  try body
  catch e =>
    leave
    throw e
  leave

/-- Rounds of a loop. Its status is that of its body when this was last run. -/
def rounds (isUntil : Bool) (condition body : Eval Unit) : Nat → Nat → Eval Unit
  | 0, _ => giveUp
  | fuel + 1, status => do
    match ← inLoop condition with
    | .stopped => setStatus status
    | .again => rounds isUntil condition body fuel status
    | .passed =>
      if ((← get).status == 0) == isUntil then setStatus status
      else
        match ← inLoop body with
        | .stopped => return
        | _ => rounds isUntil condition body fuel (← get).status

def roundsOver (name : String) (body : Eval Unit) : List String → Eval Unit
  | [] => return
  | value :: rest => do
    assign name value
    match ← inLoop body with
    | .stopped => return
    | _ => roundsOver name body rest

/-- The body of the first clause with a pattern that matches. -/
def choose (run : Command → Eval String) (subject : List Char) :
    List (List Word × Command) → Eval (Option Command)
  | [] => return none
  | (patterns, body) :: rest => do
    if ← matchesOne patterns then return some body
    choose run subject rest
where
  matchesOne : List Word → Eval Bool
    | [] => return false
    | w :: rest => do
      if (← Expansion.pattern run w).matches subject then return true
      matchesOne rest

/-- Ends a shell that does not go on after an unexpected failure. -/
def checkStatus (course : Course) : Eval Unit := do
  if !course.isTested && (← get).status != 0 && (← has 'e') then throw .exited

def inSequence (evaluate : Evaluator) (course : Course) : List Command → Eval Unit
  | [] => return
  | [c] => evaluate course c
  | c :: rest => do
    evaluate { course with isLast := false } c
    inSequence evaluate course rest

def step (evaluate : Evaluator) (course : Course) (c : Command) : Eval Unit := do
  let run := substitute evaluate
  let within : Course := { course with isLast := false }
  match c with
  | .nothing => return
  | .simple line assignments words redirections =>
    simple evaluate course line assignments words redirections
    checkStatus course
  | .pipeline commands =>
    pipeline evaluate course none commands
    checkStatus course
  | .both first second =>
    evaluate .tested first
    if (← get).status == 0 then evaluate course second
  | .either first second =>
    evaluate .tested first
    if (← get).status != 0 then evaluate course second
  | .sequence commands => inSequence evaluate course commands
  | .negation body =>
    evaluate .tested body
    setStatus (if (← get).status == 0 then 1 else 0)
  | .background body => startJob evaluate (evaluate ⟨false, true⟩ body)
  | .subshell line body redirections =>
    modify fun s => { s with line }
    let changes ← redirections.mapM (Change.ofRedirection run)
    let inside (course : Course) : Eval Unit := do
      if !(← redirect changes) then throw .exited
      evaluate { course with isLast := true } body
    if course.isLast && (← get).traps.all (·.2.isEmpty) then
      inside course
      throw .exited
    let ending ← inCopy evaluate (inside course)
    sayEnding ending
    setStatus (statusOf ending)
    checkStatus course
  | .redirected line body redirections =>
    modify fun s => { s with line }
    let changes ← redirections.mapM (Change.ofRedirection run)
    keepingDescriptors do
      if ← redirect changes then evaluate within body
  | .branch condition yes no =>
    evaluate .tested condition
    if (← get).status == 0 then evaluate course yes
    else
      setStatus 0
      evaluate course no
  | .loop isUntil condition body =>
    counted (rounds isUntil (evaluate .tested condition) (evaluate within body) patience 0)
  | .each line name words body =>
    modify fun s => { s with line }
    let values ← expandWords run false [] words
    setStatus 0
    counted (roundsOver name (evaluate within body) values)
  | .choice line subject clauses =>
    modify fun s => { s with line }
    let text ← Expansion.single run subject
    let chosen ← choose run text.toList clauses
    setStatus 0
    if let some body := chosen then evaluate course body
  | .definition name line body =>
    modify fun s => { s with
      functions := (name, line, body) :: s.functions.filter (·.1 ≠ name), status := 0 }

/-- How deep commands may lie in one another before the shell breaks down. -/
def depth : Nat := 3000

/-- Runs a command and takes up the signals that came meanwhile. -/
def evaluate : Nat → Evaluator
  | 0, _, _ => throw (.killed Signal.fault)
  | fuel + 1, course, c => do
    if ← has 'n' then return
    step (evaluate fuel) course c
    takeSignals (evaluate fuel)

end Evaluation
end BuildRunner.Sandbox.Shell
