import BuildRunner.Sandbox.Process
import BuildRunner.Sandbox.Number
import BuildRunner.Sandbox.Shell.Syntax

/-! A shell while it runs: its variables, parameters, functions and options, and the process and the
machine that it works on. -/
namespace BuildRunner.Sandbox.Shell
open Text

structure Variable where
  value : Option String
  isExported : Bool
  isReadonly : Bool

/-- A command in the background. It is run when it is waited for or when time passes. -/
structure Job where
  number : Nat
  started : Nat
  run : Machine → Ending × Machine
  ending : Option Ending

structure State where
  launch : Launcher
  machine : Machine
  process : Process
  /-- The number that the parameter for it shows: that of the shell itself, in its copies too. -/
  shownNumber : Nat
  name : String
  parameters : List String
  store : List (String × Variable)
  /-- What to put back at the end of each running function. -/
  frames : List (List (String × Option Variable))
  functions : List (String × Nat × Command)
  aliases : List (String × String)
  documents : Array Word
  options : List Char
  status : Nat
  /-- The status of the last command whose output became part of a word. -/
  substituted : Nat
  /-- Actions for signals, and for the end of the shell under zero. -/
  traps : List (Nat × String)
  jobs : List Job
  lastJob : Option Nat
  hashed : List String
  /-- The line of the command that runs, and the one up to which commands are read. -/
  line : Nat
  reached : Nat
  command : Option String
  /-- How many loops run, and how many functions or files that can return. -/
  loops : Nat
  returnable : Nat
  /-- Where the reading of options among the parameters stands. -/
  optionIndex : Nat
  optionOffset : Nat
  /-- The status with which the shell ends, once it does. -/
  final : Option Nat

/-- What turns the course of a shell. -/
inductive Interrupt where
  | exited
  | killed (signal : Nat)
  /-- A program took the place of the shell and ended. -/
  | replaced (ending : Ending)
  /-- A failure after which a shell does not go on; its status is set. -/
  | failed
  | broke (levels : Nat)
  | continued (levels : Nat)
  | returned

abbrev Eval := EStateM Interrupt State

/-- How a command is run: whether its failure is expected, and whether the shell ends with it, so
that a program may take the place of the shell. -/
structure Course where
  isTested : Bool
  isLast : Bool

def Course.plain : Course := ⟨false, false⟩
def Course.tested : Course := ⟨true, false⟩

/-- What runs a command. -/
abbrev Evaluator := Course → Command → Eval Unit

namespace Eval

def setStatus (n : Nat) : Eval Unit := modify fun s => { s with status := n }

def setMachine (m : Machine) : Eval Unit := modify fun s => { s with machine := m }

def has (option : Char) : Eval Bool := return (← get).options.contains option

def isIgnored (signal : Nat) : Eval Bool := return (← get).process.ignored.contains signal

def writeTo (fd : Nat) (text : String) : Eval (Option Fault) := do
  let s ← get
  match s.process.descriptor? fd with
  | none => return some .badDescriptor
  | some number =>
    match s.machine.write number (Octets.toByteArray text) with
    | .ok m => setMachine m; return none
    | .error .brokenPipe =>
      if (← isIgnored Signal.pipe) then return some .brokenPipe
      throw (.killed Signal.pipe)
    | .error fault => return some fault

def sayError (text : String) : Eval Unit := do
  discard <| writeTo 2 (text ++ "\n")

def complain (text : String) : Eval Unit := do
  let s ← get
  let command := match s.command with
    | some c => c ++ ": "
    | none => ""
  sayError (s.name ++ ": " ++ toString s.line ++ ": " ++ command ++ text)

def fail {α : Type} (text : String) : Eval α := do
  complain text
  setStatus 2
  throw .failed

/-! Variables -/

def variableOf? (name : String) : Eval (Option Variable) := return (← get).store.lookup name

def putVariable (name : String) (v : Variable) : Eval Unit := modify fun s =>
  { s with store :=
      if s.store.any (·.1 == name) then
        s.store.map fun (n, old) => if n == name then (n, v) else (n, old)
      else s.store ++ [(name, v)] }

def removeVariable (name : String) : Eval Unit := modify fun s =>
  { s with store := s.store.filter (·.1 ≠ name) }

def assignWith (isExported : Bool) (name value : String) : Eval Unit := do
  let old ← variableOf? name
  if old.any (·.isReadonly) then fail (name ++ ": is read only")
  let all ← has 'a'
  putVariable name ⟨some value, isExported || all || old.any (·.isExported), false⟩
  if name == "PATH" then modify fun s => { s with hashed := [] }
  if name == "OPTIND" then
    let place := ((value.toNat?).getD 1)
    modify fun s => { s with optionIndex := max place 1, optionOffset := 0 }

def assign (name value : String) : Eval Unit := assignWith false name value

def unset (name : String) : Eval Unit := do
  if (← variableOf? name).any (·.isReadonly) then fail (name ++ ": is read only")
  removeVariable name

def restore (name : String) : Option Variable → Eval Unit
  | some v => putVariable name v
  | none => removeVariable name

/-- Keeps what a variable is for the end of the running function. -/
def save (name : String) : Eval Unit := do
  let v ← variableOf? name
  modify fun s =>
    match s.frames with
    | [] => s
    | frame :: frames => { s with frames := ((name, v) :: frame) :: frames }

def pushFrame : Eval Unit := modify fun s => { s with frames := [] :: s.frames }

def popFrame : Eval Unit := do
  match (← get).frames with
  | [] => return
  | frame :: frames =>
    modify fun s => { s with frames }
    frame.forM fun (name, v) => restore name v

def separator : Eval String := do
  match ← variableOf? "IFS" with
  | some ⟨some value, _, _⟩ => return String.ofList (value.toList.take 1)
  | _ => return " "

/-- The characters that divide fields. -/
def dividers : Eval (List Char) := do
  match ← variableOf? "IFS" with
  | some ⟨some value, _, _⟩ => return value.toList
  | _ => return [' ', '\t', '\n']

def optionTable : List (Char × String) :=
  [('e', "errexit"), ('f', "noglob"), ('I', "ignoreeof"), ('i', "interactive"), ('m', "monitor"),
   ('n', "noexec"), ('s', "stdin"), ('x', "xtrace"), ('v', "verbose"), ('V', "vi"), ('E', "emacs"),
   ('C', "noclobber"), ('a', "allexport"), ('b', "notify"), ('u', "nounset"), ('p', "privileged"),
   ('L', "nolog"), ('D', "debug")]

def value? (name : String) : Eval (Option String) := do
  let s ← get
  match name with
  | "?" => return some (toString s.status)
  | "#" => return some (toString s.parameters.length)
  | "$" => return some (toString s.shownNumber)
  | "!" => return s.lastJob.map toString
  | "-" => return some (String.ofList ((optionTable.map (·.1)).reverse.filter s.options.contains))
  | "@" => return if s.parameters.isEmpty then none else some (" ".intercalate s.parameters)
  | "*" =>
    let between ← separator
    return if s.parameters.isEmpty then none else some (between.intercalate s.parameters)
  | _ =>
    match Numeral.natural? name with
    | some 0 => return some s.name
    | some n => return s.parameters[n - 1]?
    | none => return (s.store.lookup name).bind (·.value)

/-- The order in which variables are handed to programs. -/
def bucket (name : String) : Nat :=
  let first := (name.toList.head?.map Char.toNat).getD 0
  (name.toList.foldl (fun n c => n + c.toNat) (first * 16)) % 39

/-- What a program that is started finds in its environment. -/
def environment : Eval (List (String × String)) := do
  let all := (← get).store.filterMap fun (name, v) =>
    if v.isExported then v.value.map fun value => (name, value) else none
  return all.mergeSort fun a b => bucket a.1 ≤ bucket b.1

/-! Processes -/

def newNumber : Eval Nat := do
  let s ← get
  let n := s.machine.lastProcess + 1
  setMachine { s.machine with lastProcess := n }
  return n

def statusOf : Ending → Nat
  | .exit code => code
  | .killed signal => 128 + signal

def sayEnding : Ending → Eval Unit
  | .killed signal => do
    if signal != 2 && signal != Signal.pipe then sayError (Signal.description signal)
  | .exit _ => return

/-- Descriptors as they are now, to be put back later. -/
def keepingDescriptors {α : Type} (body : Eval α) : Eval α := do
  let before := (← get).process.descriptors
  let putBack : Eval Unit :=
    modify fun s => { s with process := { s.process with descriptors := before } }
  let result ← tryCatch body fun e => do
    putBack
    throw e
  putBack
  return result

def setDescriptor (fd : Nat) (number : Option Nat) : Eval Unit := modify fun s =>
  let others := s.process.descriptors.filter (·.1 ≠ fd)
  let descriptors := match number with
    | some n => (fd, n) :: others
    | none => others
  { s with process := { s.process with descriptors } }

end Eval
end BuildRunner.Sandbox.Shell
