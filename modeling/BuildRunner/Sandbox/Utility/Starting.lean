import BuildRunner.Sandbox.Tree
import BuildRunner.Sandbox.Utility.Reading

/-! Programs that start others: with a changed environment, with a limit of time, or with other
habits. And those that show the environment and let time pass. -/
namespace BuildRunner.Sandbox.Utility
open Act Text

namespace Start

/-- Where a program is looked for: at a path, or under a name in each directory of the search path. -/
def candidates (p : Process) (name : String) : List String :=
  if name.contains '/' then [name]
  else p.searchPath.map fun dir => if dir.isEmpty then name else joined dir name

/-- Starts a file. One that no system program can run is a script for a shell. -/
def file (launch : Launcher) (path : String) (p : Process) (m : Machine) : Except Fault (Ending × Machine) :=
  match launch path p m with
  | .error .notExecutable => launch "/bin/sh" { p with name := "/bin/sh", arguments := path :: p.arguments } m
  | result => result

/-- Tries one file after another. That one of them may not be run counts more than that others are
missing. -/
def first (launch : Launcher) (p : Process) (m : Machine) (fault : Fault) :
    List String → Except Fault (Ending × Machine)
  | [] => .error fault
  | path :: rest =>
    match file launch path p m with
    | .error .accessDenied => first launch p m .accessDenied rest
    | .error .notFound => first launch p m fault rest
    | .error .notDirectory => if p.name.contains '/' then .error .notDirectory else first launch p m fault rest
    | result => result

def program (launch : Launcher) (p : Process) (m : Machine) : Except Fault (Ending × Machine) :=
  if p.name.isEmpty then .error .notFound else first launch p m .notFound (candidates p p.name)

def codeOf (fault : Fault) : Nat := if fault == .notFound then 127 else 126

/-- Goes on as another program. -/
def become (launch : Launcher) (p : Process) : Act (Option Fault) := do
  flush
  match program launch p (← machine) with
  | .error fault => return some fault
  | .ok (ending, m) =>
    setMachine m
    throw ending

end Start

namespace Environment

/-- Puts a variable into an environment, in the place where it stood. -/
def set (environment : List (String × String)) (name value : String) : List (String × String) :=
  if (environment.lookup name).isSome then
    environment.map fun (n, v) => if n == name then (n, value) else (n, v)
  else environment ++ [(name, value)]

def assignment? (word : String) : Option (String × String) :=
  let chars := word.toList
  let name := chars.takeWhile (· ≠ '=')
  if name.length == chars.length then none
  else some (String.ofList name, String.ofList (chars.drop (name.length + 1)))

def switches : List Switch :=
  [⟨"i", ['i'], ["ignore-environment"], .plain⟩, .flag '0' "null", .value 'u' "unset", .value 'C' "chdir",
   .value 'S' "split-string", .flag 'v' "debug", .word "block-signal" .optional, .word "default-signal" .optional,
   .word "ignore-signal" .optional, .word "list-signal-handling" .plain]

def split : Nat → List Char → Option (List Char) → List String
  | 0, _, _ => []
  | _, [], word => (word.map String.ofList).toList
  | fuel + 1, c :: rest, word =>
    let grown (cs : List Char) : Option (List Char) := some (word.getD [] ++ cs)
    if c == ' ' || c == '\t' || c == '\n' then
      (word.map String.ofList).toList ++ split fuel rest none
    else if c == '\'' then
      let inside := rest.takeWhile (· ≠ '\'')
      split fuel (rest.drop (inside.length + 1)) (grown inside)
    else if c == '"' then
      let inside := rest.takeWhile (· ≠ '"')
      split fuel (rest.drop (inside.length + 1)) (grown inside)
    else if c == '\\' then
      match rest with
      | '_' :: more => (word.map String.ofList).toList ++ split fuel more none
      | 'n' :: more => split fuel more (grown ['\n'])
      | 't' :: more => split fuel more (grown ['\t'])
      | d :: more => split fuel more (grown [d])
      | [] => (word.map String.ofList).toList
    else if c == '#' && word.isNone then []
    else split fuel rest (grown [c])

def splitWords : Nat → List String → List String
  | 0, words => words
  | fuel + 1, words =>
    match words with
    | "-S" :: text :: rest => splitWords fuel (split (text.length + 1) text.toList none ++ rest)
    | "--split-string" :: text :: rest => splitWords fuel (split (text.length + 1) text.toList none ++ rest)
    | word :: rest =>
      if word.startsWith "-S" then
        let text := (word.drop 2).toString
        splitWords fuel (split (text.length + 1) text.toList none ++ rest)
      else if word.startsWith "--split-string=" then
        let text := (word.drop 15).toString
        splitWords fuel (split (text.length + 1) text.toList none ++ rest)
      else if word.startsWith "-" && word != "--" then word :: splitWords fuel rest
      else words
    | [] => []

def run (launch : Launcher) : Act Unit := do
  modify fun r => { r with process := { r.process with arguments := splitWords 100 r.process.arguments } }
  let a ← readLeadingArguments 125 switches
  let (clears, words) := match a.operands with
    | "-" :: rest => (true, rest)
    | words => (a.has "i", words)
  let start ← if clears then pure [] else do
    pure (← process).environment
  let kept ← (a.getAll "u").foldlM (fun environment name => do
    if name.isEmpty || name.contains '=' then
      fail 125 ("cannot unset " ++ Quotation.quoted name ++ ": " ++ Fault.reason .invalidArgument)
    return environment.filter (·.1 ≠ name)) start
  let given := words.takeWhile fun w => (assignment? w).isSome
  let environment := (given.filterMap assignment?).foldl (fun e (name, value) => set e name value) kept
  let mark := if a.has "0" then '\x00' else '\n'
  match words.drop given.length with
  | [] =>
    if a.has "C" then misused 125 "must specify command with --chdir (-C)"
    environment.forM fun (name, value) => print ((name ++ "=" ++ value).push mark)
  | name :: arguments =>
    if a.has "0" then misused 125 "cannot specify --null (-0) with command"
    let own ← process
    let workdir ← match a.get? "C" with
      | none => pure own.workdir
      | some path =>
        match ← findNode path true with
        | .error fault => fail 125 ("cannot change directory to " ++ Quotation.named path ++ ": " ++ fault.reason)
        | .ok id =>
          if (← nodeOf id).isDirectory then pure id
          else fail 125 ("cannot change directory to " ++ Quotation.named path ++ ": " ++ Fault.reason .notDirectory)
    if let some fault ← Start.become launch { own with name, arguments, environment, workdir } then
      complain (Quotation.quoted name ++ ": " ++ fault.reason)
      if fault == .notFound && name.toList.any Char.isWhitespace then
        complain "use -[v]S to pass options in shebang lines"
      exit (Start.codeOf fault)

def printValues : Act Unit := do
  let a ← readLeadingArguments 2 [.flag '0' "null"]
  let mark := if a.has "0" then '\x00' else '\n'
  let environment := (← process).environment
  if a.operands.isEmpty then environment.forM fun (name, value) => print ((name ++ "=" ++ value).push mark)
  else
    a.operands.forM fun name =>
      match environment.lookup name with
      | some value => print (value.push mark)
      | none => atLeast 1

end Environment

def duration? (text : String) : Option Nat := do
  let (value, rest) ← Numeral.real? Real.extended text.toList
  let unit ← match rest with
    | [] | ['s'] => some 1
    | ['m'] => some 60
    | ['h'] => some 3600
    | ['d'] => some 86400
    | _ => none
  match value with
  | .finite false significand exponent =>
    let (num, den) := Real.fraction significand exponent
    return num * unit * 1000000000 / den
  | .finite true 0 _ => return 0
  | .infinite false => return 1000000000000000000000
  | _ => none

/-- Lets time pass, at most until running programs are stopped. -/
def sleep : Act Unit := do
  let a ← readArguments 1 []
  if a.operands.isEmpty then misused 1 "missing operand"
  let bad := a.operands.filter fun text => (duration? text).isNone
  if !bad.isEmpty then
    bad.forM fun text => complain ("invalid time interval " ++ Quotation.quoted text)
    refer 1
  let total := (a.operands.filterMap duration?).foldl (· + ·) 0
  let m ← machine
  let moment := m.now + total
  match m.deadline with
  | some limit =>
    if moment ≥ limit && total > 0 then
      setMachine { m with now := max m.now limit }
      throw (.killed Signal.term)
    setMachine { m with now := moment }
  | none => setMachine { m with now := moment }

namespace Timeout

def signal? (text : String) : Option Nat :=
  match Numeral.natural? text with
  | some n => if n ≤ Signal.last then some n else none
  | none =>
    let name := text.map Char.toUpper
    Signal.ofName? (if name.startsWith "SIG" then (name.drop 3).toString else name)

/-- Starts a program as another process that is stopped when its time is over. -/
def run (launch : Launcher) : Act Unit := do
  let a ← readLeadingArguments 125
    [.value 'k' "kill-after", .value 's' "signal", .flag 'v' "verbose", .word "foreground" .plain,
     .word "preserve-status" .plain]
  let interval (text : String) : Act Nat := do
    match duration? text with
    | some n => return n
    | none => misused 125 ("invalid time interval " ++ Quotation.quoted text)
  discard <| (a.get? "k").mapM interval
  let signal ← match a.get? "s" with
    | none => pure Signal.term
    | some text =>
      match signal? text with
      | some n => pure n
      | none => misused 125 (Quotation.quoted text ++ ": invalid signal")
  match a.operands with
  | [] | [_] => refer 125
  | time :: name :: arguments =>
    let limit ← interval time
    flush
    let own ← process
    let m ← machine
    let number := m.lastProcess + 1
    let moment := m.now + limit
    let deadline := if limit == 0 then m.deadline else some (match m.deadline with
      | some other => min other moment
      | none => moment)
    let p := { own with name, arguments, number, ancestors := own.number :: own.ancestors }
    match Start.program launch p { m with lastProcess := number, deadline } with
    | .error fault => fail (Start.codeOf fault) ("failed to run command " ++ Quotation.named name ++ ": " ++ fault.reason)
    | .ok (ending, after) =>
      setMachine { after with deadline := m.deadline }
      let isOver := limit != 0 && after.now ≥ moment && m.deadline.all (moment < ·)
      if isOver then
        if a.has "v" then
          complain ("sending signal " ++ (Signal.name? signal).getD "" ++ " to command " ++ Quotation.named name)
        if signal == Signal.kill then throw (.killed Signal.kill)
        let code := match ending with
          | .exit code => code
          | .killed _ => 128 + signal
        exit (if a.has "preserve-status" then code else 124)
      throw ending

end Timeout

namespace Nice

/-- Starts a program that steps back behind others, or says how far this one does. -/
def run (launch : Launcher) : Act Unit := do
  let words := (← arguments).map fun w =>
    match w.toList with
    | '-' :: c :: rest => if c.isDigit then "-n" ++ String.ofList (c :: rest) else w
    | _ => w
  let isOld := match (← arguments).head? with
    | some w => w != words.headD ""
    | none => false
  if isOld then modify fun r => { r with process := { r.process with arguments := words.take 1 ++ r.process.arguments.tail } }
  let a ← readLeadingArguments 125 [.value 'n' "adjustment"]
  let step ← match a.get? "n" with
    | none => pure 10
    | some text =>
      match Numeral.decimal? text.toList with
      | some (n, []) => pure n
      | _ => fail 125 ("invalid adjustment " ++ Quotation.quoted text)
  let own ← process
  match a.operands with
  | [] =>
    if a.has "n" then misused 125 "a command must be given with an adjustment"
    printLine (toString own.niceness)
  | name :: arguments =>
    let niceness := max (-20) (min 19 (own.niceness + step))
    if let some fault ← Start.become launch { own with name, arguments, niceness } then
      fail (Start.codeOf fault) (Quotation.quoted name ++ ": " ++ fault.reason)

end Nice

/-- Starts a program that does not end when its terminal hangs up. -/
def nohup (launch : Launcher) : Act Unit := do
  let a ← readLeadingArguments 125 []
  match a.operands with
  | [] => misused 125 "missing operand"
  | name :: arguments =>
    let own ← process
    let ignored := if own.ignored.contains 1 then own.ignored else 1 :: own.ignored
    if let some fault ← Start.become launch { own with name, arguments, ignored } then
      fail (Start.codeOf fault) ("failed to run command " ++ Quotation.named name ++ ": " ++ fault.reason)

/-- Starts a program whose output is kept back in another way, which shows nowhere here. -/
def stdbuf (launch : Launcher) : Act Unit := do
  let a ← readLeadingArguments 125 [.value 'i' "input", .value 'o' "output", .value 'e' "error"]
  a.switches.forM fun (_, mode) => do
    if mode != "L" && (scaled? mode).isNone then fail 125 ("invalid mode " ++ Quotation.quoted mode)
  match a.operands with
  | [] => misused 125 "missing operand"
  | name :: arguments =>
    if a.switches.isEmpty then misused 125 "you must specify a buffering mode option"
    if let some fault ← Start.become launch { ← process with name, arguments } then
      fail (Start.codeOf fault) ("failed to run command " ++ Quotation.named name ++ ": " ++ fault.reason)

end BuildRunner.Sandbox.Utility
