import BuildRunner.Sandbox.FileMode
import BuildRunner.Sandbox.Shell.Condition
import BuildRunner.Sandbox.Shell.Pattern
import BuildRunner.Sandbox.Shell.Printing
import BuildRunner.Sandbox.Shell.Reader
import BuildRunner.Sandbox.Shell.Running

/-! Commands that a shell runs itself and that run no other commands. -/
namespace BuildRunner.Sandbox.Shell
open Eval Text

namespace Builtin

/-- Switches in front of other arguments: those found, in order, with their values. A letter before
a colon takes one. -/
def switches (known : List Char) : Nat → List String → Eval (List (Char × String) × List String)
  | 0, words => return ([], words)
  | _, [] => return ([], [])
  | fuel + 1, word :: rest => do
    match word.toList with
    | ['-', '-'] => return ([], rest)
    | '-' :: c :: more =>
      let after := (known.dropWhile (· ≠ c))
      if c == ':' || after.isEmpty then fail ("Illegal option -" ++ c.toString)
      if after.tail.head? == some ':' then
        if !more.isEmpty then
          let (found, rest) ← switches known fuel rest
          return ((c, String.ofList more) :: found, rest)
        match rest with
        | [] => fail ("No arg for -" ++ c.toString ++ " option")
        | value :: rest =>
          let (found, rest) ← switches known fuel rest
          return ((c, value) :: found, rest)
      else
        let (found, rest) ← switches known fuel
          (if more.isEmpty then rest else String.ofList ('-' :: more) :: rest)
        return ((c, "") :: found, rest)
    | _ => return ([], word :: rest)

def readSwitches (known : String) (words : List String) : Eval (List (Char × String) × List String) :=
  switches known.toList (words.length + (words.map String.length).foldl (· + ·) 1) words

def natural (word : String) : Eval Nat := do
  match Numeral.natural? word with
  | some n => if n ≤ 2147483647 then return n else fail ("Illegal number: " ++ word)
  | none => fail ("Illegal number: " ++ word)

def quote (s : String) : String :=
  let rec go : Nat → List Char → List Char
    | 0, _ => []
    | fuel + 1, chars =>
      let plain := chars.takeWhile (· ≠ '\'')
      let rest := chars.drop plain.length
      let marks := rest.takeWhile (· == '\'')
      let rest := rest.drop marks.length
      '\'' :: plain ++ ['\''] ++ (if marks.isEmpty then [] else '"' :: marks ++ ['"']) ++
        (if rest.isEmpty then [] else go fuel rest)
  String.ofList (go (s.length + 1) s.toList)

/-! Directories -/

/-- The path of a directory without dots, from the names that lead to it. -/
def normal (path : String) : String :=
  let step (done : List String) (name : String) : List String :=
    match name with
    | "" | "." => done
    | ".." => done.dropLast
    | name => done ++ [name]
  "/" ++ "/".intercalate ((path.splitOn "/").foldl step [])

/-- The path of the working directory, as it was entered. -/
def place : Eval String := do
  let s ← get
  let here := s.machine.files.pathTo s.process.workdir
  match s.store.lookup "PWD" with
  | some ⟨some path, _, _⟩ =>
    if path.startsWith "/" && (s.machine.files.find FileSystem.root path true).toOption == some s.process.workdir
    then return path
    return here
  | _ => return here

/-- Goes to a directory; whether it is there. -/
def enter (isPhysical : Bool) (path : String) : Eval Bool := do
  let s ← get
  let before ← place
  let absolute := if path.startsWith "/" then path else before ++ "/" ++ path
  let target := if isPhysical then path else normal absolute
  match s.machine.files.find s.process.workdir target true with
  | .error _ => return false
  | .ok id =>
    if !(s.machine.files.node id).isDirectory then return false
    if (s.machine.files.find s.process.workdir path true).toOption.isNone then return false
    set { s with process := { s.process with workdir := id } }
    let now := if isPhysical then s.machine.files.pathTo id else target
    assignWith true "OLDPWD" before
    assignWith true "PWD" now
    return true

def cd (arguments : List String) : Eval Unit := do
  let (found, rest) ← readSwitches "LP" arguments
  let isPhysical := (found.map (·.1)).getLast? == some 'P'
  let (target, shows) ← match rest with
    | [] => do pure ((← value? "HOME").getD "", false)
    | "-" :: _ => do pure ((← value? "OLDPWD").getD "", true)
    | target :: _ => pure (target, false)
  let isFixed := target.startsWith "/" || target == "." || target == ".." || target.startsWith "./" ||
    target.startsWith "../"
  let listed := (← value? "CDPATH").getD ""
  let bases := if isFixed then [] else (listed.splitOn ":").filter (!·.isEmpty)
  let path := if target.isEmpty then "." else target
  let s ← get
  let through := bases.find? fun base =>
    match s.machine.node? s.process.workdir (base ++ "/" ++ path) with
    | some node => node.isDirectory
    | none => false
  let done ← match through with
    | some base => enter isPhysical (base ++ "/" ++ path)
    | none => enter isPhysical path
  if !done then fail ("can't cd to " ++ path)
  setStatus 0
  if shows || through.isSome then say ((← place) ++ "\n")

def pwd (arguments : List String) : Eval Unit := do
  let (found, _) ← readSwitches "LP" arguments
  setStatus 0
  if (found.map (·.1)).getLast? == some 'P' then
    let s ← get
    say (s.machine.files.pathTo s.process.workdir ++ "\n")
  else say ((← place) ++ "\n")

/-! Variables -/

/-- Lines that would set the marked variables again. -/
def listing (word : String) (test : Variable → Bool) : Eval String := do
  let all := ((← get).store.filter fun (_, v) => test v).mergeSort fun a b => a.1 ≤ b.1
  let front := if word.isEmpty then "" else word ++ " "
  return String.join (all.map fun (name, v) =>
    front ++ name ++ (match v.value with | some text => "=" ++ quote text | none => "") ++ "\n")

/-- The name in a word that sets a variable, and the value if there is one. -/
def naming (word : String) : Eval (String × Option String) := do
  let chars := word.toList
  let name := chars.takeWhile (· ≠ '=')
  let value := match chars.drop name.length with
    | _ :: value => some (String.ofList value)
    | [] => none
  let name := String.ofList name
  if !Name.isValid name then fail (name ++ ": bad variable name")
  return (name, value)

/-- Marks variables, and sets those that are given a value. -/
def mark (word : String) (test : Variable → Bool) (change : Variable → Variable)
    (arguments : List String) : Eval Unit := do
  let (found, rest) ← readSwitches "p" arguments
  setStatus 0
  if rest.isEmpty || !found.isEmpty then say (← listing word test)
  else
    rest.forM fun word => do
      let (name, value) ← naming word
      if let some value := value then assign name value
      let v := (← variableOf? name).getD ⟨none, false, false⟩
      putVariable name (change v)

def declareLocal (arguments : List String) : Eval Unit := do
  if (← get).returnable == 0 || (← get).frames.isEmpty then fail "not in a function"
  setStatus 0
  arguments.forM fun word => do
    if word != "-" then
      let (name, value) ← naming word
      save name
      if let some value := value then assign name value

def unset (arguments : List String) : Eval Unit := do
  let (found, rest) ← readSwitches "vf" arguments
  setStatus 0
  rest.forM fun name => do
    if (found.map (·.1)).getLast? == some 'f' then
      modify fun s => { s with functions := s.functions.filter (·.1 ≠ name) }
    else
      if !Name.isValid name then fail (name ++ ": bad variable name")
      Eval.unset name

def setOption (on : Bool) (letter : Char) : Eval Unit := modify fun s =>
  let others := s.options.filter (· ≠ letter)
  { s with options := if on then letter :: others else others }

/-- Shows all options as words, or as commands that would set them again. -/
def showOptions (asCommands : Bool) : Eval Unit := do
  let on := (← get).options
  let pad (name : String) : String := name ++ String.ofList (List.replicate (16 - name.length) ' ')
  if asCommands then
    say (String.join (optionTable.map fun (c, name) =>
      "set " ++ (if on.contains c then "-o " else "+o ") ++ name ++ "\n"))
  else
    say ("Current option settings\n" ++ String.join (optionTable.map fun (c, name) =>
      pad name ++ (if on.contains c then "on" else "off") ++ "\n"))

/-- Letters that switch options on or off together. One of them takes the name of an option from the
words that follow. -/
def optionLetters (on : Bool) : List Char → List String → Eval (List String)
  | [], rest => return rest
  | 'o' :: more, rest => do
    match rest with
    | [] =>
      showOptions !on
      optionLetters on more []
    | name :: rest =>
      match optionTable.find? (·.2 == name) with
      | some (c, _) => setOption on c
      | none => fail ("Illegal option " ++ (if on then "-" else "+") ++ "o " ++ name)
      optionLetters on more rest
  | c :: more, rest => do
    if !(optionTable.any (·.1 == c)) || c == 'L' || c == 'D' then
      fail ("Illegal option " ++ (if on then "-" else "+") ++ c.toString)
    setOption on c
    optionLetters on more rest

def setWords : Nat → List String → Eval Unit
  | 0, _ => return
  | _, [] => return
  | fuel + 1, word :: rest => do
    let replace (words : List String) : Eval Unit := modify fun s => { s with parameters := words }
    match word.toList with
    | ['-', '-'] => replace rest
    | ['-'] =>
      setOption false 'x'
      setOption false 'v'
      if !rest.isEmpty then replace rest
    | '-' :: letters => setWords fuel (← optionLetters true letters rest)
    | '+' :: letters => setWords fuel (← optionLetters false letters rest)
    | _ => replace (word :: rest)

def setParameters (arguments : List String) : Eval Unit := do
  setStatus 0
  if arguments.isEmpty then say (← listing "" (·.value.isSome))
  else setWords (arguments.length + 1) arguments

def shift (arguments : List String) : Eval Unit := do
  let n ← match arguments with
    | [] => pure 1
    | word :: _ => natural word
  let s ← get
  if n > s.parameters.length then fail "can't shift that many"
  set { s with parameters := s.parameters.drop n, status := 0 }

/-! Input -/

/-- A line, from which backslashes are taken if they guard characters, and whether a line feed
ends it. -/
def readLine (isRaw : Bool) : Nat → Pattern → Eval (Pattern × Bool)
  | 0, line => return (line, false)
  | fuel + 1, line => do
    let s ← get
    match s.process.descriptor? 0 with
    | none => return (line, false)
    | some number =>
      match s.machine.readLine number with
      | .error _ => return (line, false)
      | .ok (data, m) =>
        setMachine m
        let chars := (Octets.ofByteArray data).toList.filter (· ≠ '\x00')
        let isEnded := chars.getLast? == some '\n'
        let chars := if isEnded then chars.dropLast else chars
        if isRaw then return (line ++ chars.map (·, false), isEnded)
        let rec guarded : List Char → Pattern × Bool
          | [] => ([], false)
          | ['\\'] => ([], true)
          | '\\' :: c :: rest => let (more, isOpen) := guarded rest; ((c, true) :: more, isOpen)
          | c :: rest => let (more, isOpen) := guarded rest; ((c, false) :: more, isOpen)
        let (text, isOpen) := guarded chars
        if isOpen && isEnded then readLine isRaw fuel (line ++ text) else return (line ++ text, isEnded)

def isDivider (dividers : List Char) (c : Marked) : Bool := !c.2 && dividers.contains c.1

def isBlankDivider (dividers : List Char) (c : Marked) : Bool :=
  isDivider dividers c && (c.1 == ' ' || c.1 == '\t' || c.1 == '\n')

/-- The first field of a line, and what follows it and the divider after it. -/
def firstField (dividers : List Char) (line : Pattern) : Pattern × Pattern :=
  let field := line.takeWhile (!isDivider dividers ·)
  let rest := (line.drop field.length).dropWhile (isBlankDivider dividers)
  match rest with
  | c :: more =>
    if isDivider dividers c then (field, more.dropWhile (isBlankDivider dividers)) else (field, rest)
  | [] => (field, [])

/-- The values of variables from a line. The last one takes the rest, without blanks at its end and
without a divider that only ends it. -/
def distribute (dividers : List Char) : List String → Pattern → List (String × String)
  | [], _ => []
  | [name], line =>
    let line := (line.reverse.dropWhile (isBlankDivider dividers)).reverse
    let (field, rest) := firstField dividers line
    [(name, Pattern.text (if rest.isEmpty then field else line))]
  | name :: names, line =>
    let (field, rest) := firstField dividers line
    (name, Pattern.text field) :: distribute dividers names rest

def read (arguments : List String) : Eval Unit := do
  let (found, names) ← readSwitches "p:r" arguments
  if names.isEmpty then fail "arg count"
  let (line, isEnded) ← readLine (found.any (·.1 == 'r')) patience []
  let dividers ← dividers
  let line := line.dropWhile (isBlankDivider dividers)
  (distribute dividers names line).forM fun (name, value) => do
    if !Name.isValid name then fail (name ++ ": bad variable name")
    assign name value
  setStatus (if isEnded then 0 else 1)

/-! Options of scripts -/

/-- The next option among words, as a script asks for them one at a time. -/
def getopts (arguments : List String) : Eval Unit := do
  match arguments with
  | known :: name :: given =>
    let s ← get
    let words := if given.isEmpty then s.parameters else given
    let isQuiet := known.startsWith ":"
    let finish (status index offset : Nat) (c : Char) : Eval Unit := do
      assign "OPTIND" (toString index)
      modify fun s => { s with optionIndex := index, optionOffset := offset, status := status }
      assign name c.toString
    let index := s.optionIndex
    let word := (words[index - 1]?).getD ""
    let start (chars : List Char) (offset : Nat) : Eval Unit := do
      match chars with
      | [] => finish 1 index 0 '?'
      | c :: more =>
        let next := if more.isEmpty then (index + 1, 0) else (index, offset + 1)
        let after := known.toList.dropWhile (· ≠ c)
        if c == ':' || after.isEmpty then
          if isQuiet then assign "OPTARG" c.toString
          else
            sayError ("Illegal option -" ++ c.toString)
            removeVariable "OPTARG"
          finish 0 next.1 next.2 '?'
        else if after.tail.head? == some ':' then
          if !more.isEmpty then
            assign "OPTARG" (String.ofList more)
            finish 0 (index + 1) 0 c
          else
            match words[index]? with
            | some value =>
              assign "OPTARG" value
              finish 0 (index + 2) 0 c
            | none =>
              if isQuiet then
                assign "OPTARG" c.toString
                finish 0 (index + 1) 0 ':'
              else
                sayError ("No arg for -" ++ c.toString ++ " option")
                removeVariable "OPTARG"
                finish 0 (index + 1) 0 '?'
        else
          assign "OPTARG" ""
          finish 0 next.1 next.2 c
    if s.optionOffset > 0 && s.optionOffset < word.length then
      start (word.toList.drop s.optionOffset) s.optionOffset
    else
      match word.toList with
      | ['-', '-'] => finish 1 (index + 1) 0 '?'
      | '-' :: c :: more => start (c :: more) 1
      | _ => finish 1 index 0 '?'
  | _ => fail "Usage: getopts optstring var [arg...]"

/-! Signals and jobs -/

def signal? (least : Nat) (word : String) : Option Nat :=
  match Numeral.natural? word with
  | some n => if n ≤ Signal.last then some n else none
  | none => (Signal.ofName? word).filter (least ≤ ·)

def trap (arguments : List String) : Eval Unit := do
  let (_, words) ← readSwitches "" arguments
  setStatus 0
  match words with
  | [] =>
    let all := (← get).traps.mergeSort fun a b => a.1 ≤ b.1
    say (String.join (all.map fun (n, action) =>
      "trap -- " ++ quote action ++ " " ++ (Signal.name? n).getD (toString n) ++ "\n"))
  | first :: rest =>
    let (action, names) :=
      if rest.isEmpty || (signal? 0 first).isSome then (none, words)
      else (if first == "-" then none else some first, rest)
    let setOne (n : Nat) : Eval Unit := modify fun s =>
      let others := s.traps.filter (·.1 ≠ n)
      let ignored := s.process.ignored.filter (· ≠ n)
      { s with
        traps := match action with
          | some text => (n, text) :: others
          | none => others
        process := { s.process with ignored := if action == some "" && n != 0 then n :: ignored else ignored } }
    let setAll : List String → Eval Unit := fun names => do
      for name in names do
        match signal? 0 name with
        | some n => setOne n
        | none =>
          sayError ("trap: " ++ name ++ ": bad trap")
          setStatus 1
          return
    setAll names

/-- A job by its place among all of them, or by a mark for the last one or the one before. -/
def job (word : String) : Eval Job := do
  let jobs := (← get).jobs
  let found := match word with
    | "%" | "%%" | "%+" => jobs.getLast?
    | "%-" => jobs[jobs.length - 2]?
    | _ => ((Numeral.natural? (word.drop 1).toString).filter (· > 0)).bind fun n => jobs[n - 1]?
  match found with
  | some j => return j
  | none => fail ("No such job: " ++ word)

def showJobs (_ : List String) : Eval Unit := do
  let jobs := (← get).jobs
  let line (n : Nat) (j : Job) : String :=
    let mark := if n + 1 == jobs.length then "+" else if n + 2 == jobs.length then "-" else " "
    let text := match j.ending with
      | none => "Running"
      | some (.exit 0) => "Done"
      | some (.exit code) => "Done(" ++ toString code ++ ")"
      | some (.killed signal) => Signal.description signal
    let width := 31 - (3 + (toString (n + 1)).length)
    "[" ++ toString (n + 1) ++ "] " ++ mark ++ " " ++ text ++ String.ofList (List.replicate (width - text.length) ' ') ++ "\n"
  setStatus 0
  say (String.join (((List.range jobs.length).zip jobs).map fun (n, j) => line n j).reverse)

def killUsage {α : Type} : Eval α :=
  fail "Usage: kill [-s sigspec | -signum | -sigspec] [pid | job]... or\nkill -l [exitstatus]"

/-- Sends a signal to a process that this shell knows; whether there is one. -/
def send (signal number : Nat) : Eval Bool := do
  let s ← get
  if number == s.process.number || s.process.ancestors.contains number then
    if signal != 0 then
      setMachine { s.machine with signals := s.machine.signals ++ [(number, signal)] }
    return true
  match s.jobs.find? (·.number == number) with
  | none => return false
  | some j =>
    if signal != 0 && j.ending.isNone && Signal.isFatal signal then
      let ended (k : Job) : Job :=
        if k.number == number then { k with ending := some (.killed signal) } else k
      set { s with jobs := s.jobs.map ended }
    return true

def kill (arguments : List String) : Eval Unit := do
  let (signal, lists, targets) ← match arguments with
    | [] => killUsage
    | word :: rest =>
      match word.toList with
      | '-' :: name => do
        match signal? 1 (String.ofList name) with
        | some n => pure (some n, false, rest)
        | none => do
          let (found, rest) ← readSwitches "ls:" arguments
          let signals ← (found.filter (·.1 == 's')).mapM fun (_, name) => do
            match signal? 1 name with
            | some n => pure n
            | none => fail ("invalid signal number or name: " ++ name)
          pure (signals.getLast?, found.any (·.1 == 'l'), rest)
      | _ => pure (none, false, arguments)
  setStatus 0
  if lists then
    if signal.isSome then killUsage
    match targets with
    | [] =>
      let names := (List.range Signal.last).filterMap fun n => Signal.name? (n + 1)
      say ("0\n" ++ String.join (names.map (· ++ "\n")))
    | word :: _ =>
      let n ← natural word
      let n := if n > 128 then n - 128 else n
      match if n == 0 then none else Signal.name? n with
      | some name => say (name ++ "\n")
      | none => fail ("invalid signal number or exit status: " ++ word)
  else
    if targets.isEmpty then killUsage
    for target in targets do
      let number ← match target.toList with
        | '%' :: _ => do
          discard <| job target
          pure 0
        | '-' :: digits => do
          discard <| natural (String.ofList digits)
          pure 0
        | _ => natural target
      if !(← send (signal.getD Signal.term) number) then
        complain "No such process\n"
        setStatus 1

def wait (arguments : List String) : Eval Unit := do
  let (_, words) ← readSwitches "" arguments
  setStatus 0
  if words.isEmpty then settleAll
  else
    for word in words do
      let number ← match word.toList with
        | '%' :: _ => pure (← job word).number
        | _ => natural word
      match ← await number with
      | some ending =>
        sayEnding ending
        setStatus (statusOf ending)
      | none => setStatus 127

/-! Names of commands -/

/-- The file that a command without a slash in its name stands for. -/
def program? (path name : String) : Eval (Option String) := do
  let s ← get
  return (path.splitOn ":").findSome? fun dir =>
    let full := if dir.isEmpty then name else dir ++ "/" ++ name
    match s.machine.node? s.process.workdir full with
    | some node => match node.content with
      | .file _ | .binary _ => some full
      | _ => none
    | none => none

def usualPath : String := "/usr/sbin:/usr/bin:/sbin:/bin"

def searchPath : Eval String := return (← value? "PATH").getD ""

def findProgram (name : String) : Eval (Option String) := do
  let found ← program? (← searchPath) name
  if found.isSome then
    modify fun s => { s with hashed := if s.hashed.contains name then s.hashed else name :: s.hashed }
  return found

/-- What a name means as a command. -/
inductive Meaning where
  | reserved
  | alias (text : String)
  | function
  | special
  | builtin
  | program (path : String)
  | tracked (path : String)
  | unknown

def meaning (name : String) : Eval Meaning := do
  let s ← get
  if Reader.reservedWords.contains name then return .reserved
  if let some text := s.aliases.lookup name then return .alias text
  if (s.functions.lookup name).isSome then return .function
  if specialBuiltins.contains name then return .special
  if builtinNames.contains name then return .builtin
  if name.contains '/' then
    return if FileTest.holds s.machine s.process.workdir 'e' name then .program name else .unknown
  let isKnown := s.hashed.contains name
  match ← findProgram name with
  | some path => return if isKnown then .tracked path else .program path
  | none => return .unknown

def describe (inShort : Bool) (name : String) : Eval (Option String) := do
  let long (text : String) : Option String := some (name ++ text)
  return match ← meaning name with
  | .reserved => if inShort then some name else long " is a shell keyword"
  | .alias text => if inShort then some ("alias " ++ name ++ "=" ++ quote text) else long (" is an alias for " ++ text)
  | .function => if inShort then some name else long " is a shell function"
  | .special => if inShort then some name else long " is a special shell builtin"
  | .builtin => if inShort then some name else long " is a shell builtin"
  | .program path => if inShort then some path else long (" is " ++ path)
  | .tracked path => if inShort then some path else long (" is a tracked alias for " ++ path)
  | .unknown => none

def describeAll (inShort : Bool) (names : List String) : Eval Unit := do
  let found ← names.mapM (describe inShort)
  let lines := (names.zip found).filterMap fun (name, text) =>
    match text with
    | some text => some text
    | none => if inShort then none else some (name ++ ": not found")
  setStatus (if found.any (·.isNone) then 127 else 0)
  say (String.join (lines.map (· ++ "\n")))

def showTypes (arguments : List String) : Eval Unit := describeAll false arguments

def hash (arguments : List String) : Eval Unit := do
  let (found, names) ← readSwitches "rv" arguments
  setStatus 0
  if found.any (·.1 == 'r') then modify fun s => { s with hashed := [] }
  else if names.isEmpty then
    let names := (← get).hashed.reverse.mergeSort fun a b => bucket a ≤ bucket b
    let paths ← names.mapM fun name => do program? (← searchPath) name
    say (String.join (paths.map fun path => path.getD "" ++ "\n"))
  for name in names do
    match ← meaning name with
    | .unknown =>
      complain (name ++ ": not found")
      setStatus 1
    | _ => pure ()

def defineAliases (arguments : List String) : Eval Unit := do
  let aliases := (← get).aliases
  let line (name text : String) : String := name ++ "=" ++ quote text ++ "\n"
  setStatus 0
  if arguments.isEmpty then
    let all := aliases.mergeSort fun a b => bucket a.1 ≤ bucket b.1
    say (String.join (all.map fun (name, text) => line name text))
  else
    for word in arguments do
      let chars := word.toList
      let name := chars.takeWhile (· ≠ '=')
      match chars.drop name.length with
      | _ :: text =>
        let name := String.ofList name
        modify fun s => { s with aliases := (name, String.ofList text) :: s.aliases.filter (·.1 ≠ name) }
      | [] =>
        match aliases.lookup word with
        | some text => say (line word text)
        | none =>
          sayError ("alias: " ++ word ++ " not found")
          setStatus 1

def unalias (arguments : List String) : Eval Unit := do
  let (found, names) ← readSwitches "a" arguments
  setStatus 0
  if !found.isEmpty then modify fun s => { s with aliases := [] }
  else
    for name in names do
      if ((← get).aliases.lookup name).isSome then
        modify fun s => { s with aliases := s.aliases.filter (·.1 ≠ name) }
      else
        sayError ("unalias: " ++ name ++ " not found")
        setStatus 1

/-! The process -/

def umask (arguments : List String) : Eval Unit := do
  let (found, words) ← readSwitches "S" arguments
  let mask := (← get).process.mask
  let setMask (n : Nat) : Eval Unit :=
    modify fun s => { s with process := { s.process with mask := n &&& 0o777 } }
  setStatus 0
  match words with
  | [] =>
    if found.isEmpty then say (FileMode.octal 4 mask ++ "\n")
    else
      let part (bits : Nat) : String :=
        String.ofList ((FileMode.triple (7 - bits) false 's').filter (· ≠ '-'))
      say ("u=" ++ part (mask / 64 % 8) ++ ",g=" ++ part (mask / 8 % 8) ++ ",o=" ++ part (mask % 8) ++ "\n")
  | word :: _ =>
    if word.toList.head?.any Char.isDigit then
      match FileMode.octal? word with
      | some n => if n ≤ 0o777 then setMask n else fail ("Illegal number: " ++ word)
      | none => fail ("Illegal number: " ++ word)
    else
      match FileMode.changes? word with
      | none => fail ("Illegal mode: " ++ word)
      | some changes => setMask (0o777 - (changes.foldl (FileMode.Change.apply mask false) (0o777 - mask) &&& 0o777))

def ulimit (arguments : List String) : Eval Unit := do
  let (found, words) ← readSwitches "HSatfdsmcnpvlrw" arguments
  setStatus 0
  if words.isEmpty then say (if found.any (·.1 == 'c') then "0\n" else "unlimited\n")

end Builtin

/-- Builtins that need nothing but the state. -/
def builtins : List (String × (List String → Eval Unit)) :=
  [(":", fun _ => setStatus 0), ("true", fun _ => setStatus 0), ("false", fun _ => setStatus 1),
   ("echo", Printing.echo), ("printf", Printing.printf), ("test", Condition.run false),
   ("[", Condition.run true), ("cd", Builtin.cd), ("chdir", Builtin.cd), ("pwd", Builtin.pwd),
   ("export", Builtin.mark "export" (·.isExported) fun v => { v with isExported := true }),
   ("readonly", Builtin.mark "readonly" (·.isReadonly) fun v => { v with isReadonly := true }),
   ("local", Builtin.declareLocal), ("unset", Builtin.unset), ("set", Builtin.setParameters), ("shift", Builtin.shift),
   ("read", Builtin.read), ("getopts", Builtin.getopts), ("trap", Builtin.trap), ("kill", Builtin.kill),
   ("wait", Builtin.wait), ("type", Builtin.showTypes), ("hash", Builtin.hash), ("alias", Builtin.defineAliases),
   ("unalias", Builtin.unalias), ("umask", Builtin.umask), ("ulimit", Builtin.ulimit),
   ("times", fun _ => do
      setStatus 0
      say "0m0.000000s 0m0.000000s\n0m0.000000s 0m0.000000s\n"),
   ("jobs", Builtin.showJobs), ("fg", fun _ => fail "No current job"),
   ("bg", fun _ => fail "No current job")]

end BuildRunner.Sandbox.Shell
