import BuildRunner.Sandbox.Machine
import BuildRunner.Sandbox.Signal

/-! Processes: how a program is called, what it does step by step, and how it ends. -/
namespace BuildRunner.Sandbox
open Text

/-- How a process ends: by itself with a code, or by a signal. -/
inductive Ending where
  | exit (code : Nat)
  | killed (signal : Nat)
deriving DecidableEq, Repr, Inhabited

structure Process where
  /-- The name by which it is called; its messages begin with it. -/
  name : String
  arguments : List String
  environment : List (String × String)
  /-- Descriptors and the open files behind them. -/
  descriptors : List (Nat × Nat)
  workdir : NodeId
  mask : Nat
  ignored : List Nat
  number : Nat
  /-- The number of the process that started this one, then of the one that started that, and on. -/
  ancestors : List Nat
  /-- How far the process steps back behind others. -/
  niceness : Int := 0
deriving Inhabited

/-- Starts the program at a path and runs it to its end. -/
abbrev Launcher := String → Process → Machine → Except Fault (Ending × Machine)

abbrev Program := Launcher → Process → Machine → Ending × Machine

/-- A process while it runs: output that is not yet written, and the code with which it will exit. -/
structure Running where
  machine : Machine
  process : Process
  pending : String
  code : Nat
  broken : Option Fault

/-- The actions of a program; what stops them is the end of the process. -/
abbrev Act := EStateM Ending Running

namespace Process

def descriptor? (p : Process) (fd : Nat) : Option Nat := p.descriptors.lookup fd

def searchPath (p : Process) : List String :=
  ((p.environment.lookup "PATH").getD "/usr/local/bin:/usr/bin:/bin").splitOn ":"

/-- The number of the descriptor that a path names, such as that of the input. -/
def descriptorOf? (path : String) : Option Nat :=
  match path with
  | "/dev/stdin" => some 0
  | "/dev/stdout" => some 1
  | "/dev/stderr" => some 2
  | _ =>
    let number (text : String) : Option Nat := if text.isEmpty then none else text.toNat?
    if path.startsWith "/dev/fd/" then number (path.drop 8).toString
    else if path.startsWith "/proc/self/fd/" then number (path.drop 14).toString
    else none

/-- Opens a file for a process. A path that names a descriptor leads to what the descriptor has. -/
def openPath (p : Process) (m : Machine) (path : String) (how : OpenMode) :
    Except Fault (Nat × Machine) :=
  match descriptorOf? path with
  | none => m.openPath p.workdir path how (0o666 &&& (0o777 ^^^ (p.mask &&& 0o777)))
  | some fd =>
    match p.descriptor? fd with
    | none => .error .notFound
    | some number =>
      let file := m.openFile number
      match file.channel with
      | .pipe _ => .ok (m.addOpen { file with reads := how.reads, writes := how.writes })
      | .node id =>
        let m := match (m.files.node id).content with
          | .file _ =>
            if how.truncates then m.modifyNode id fun n => { n with content := .file .empty } else m
          | _ => m
        .ok (m.addOpen ⟨.node id, 0, how.appends, how.reads, how.writes⟩)

end Process

namespace Act

def machine : Act Machine := return (← get).machine
def process : Act Process := return (← get).process
def arguments : Act (List String) := return (← get).process.arguments
def setMachine (m : Machine) : Act Unit := modify fun r => { r with machine := m }

/-- Output that is written when the program ends. -/
def print (text : String) : Act Unit := modify fun r => { r with pending := r.pending ++ text }

def printLine (text : String) : Act Unit := print (text ++ "\n")

/-- Writes to a descriptor at once. A reader that is gone ends the process. -/
def writeTo (fd : Nat) (data : ByteArray) : Act (Option Fault) := do
  let r ← get
  match r.process.descriptor? fd with
  | none => return some .badDescriptor
  | some number =>
    match r.machine.write number data with
    | .ok m => setMachine m; return none
    | .error .brokenPipe =>
      if r.process.ignored.contains Signal.pipe then return some .brokenPipe
      throw (.killed Signal.pipe)
    | .error fault => return some fault

def flush : Act Unit := do
  let text := (← get).pending
  if !text.isEmpty then
    modify fun r => { r with pending := "" }
    if let some fault ← writeTo 1 (Octets.toByteArray text) then
      modify fun r => { r with broken := r.broken.orElse fun _ => some fault }

/-- Writes on the error stream. -/
def sayError (text : String) : Act Unit := do
  discard <| writeTo 2 (Octets.toByteArray (text ++ "\n"))

def complain (message : String) : Act Unit := do
  sayError ((← process).name ++ ": " ++ message)

/-- The code with which the process will exit, if it is greater than the one so far. -/
def atLeast (code : Nat) : Act Unit := modify fun r => { r with code := max r.code code }

def exit {α : Type} (code : Nat) : Act α := throw (.exit code)

def fail {α : Type} (code : Nat) (message : String) : Act α := do
  complain message
  exit code

def refer {α : Type} (code : Nat) : Act α := do
  sayError ("Try '" ++ (← process).name ++ " --help' for more information.")
  exit code

def misused {α : Type} (code : Nat) (message : String) : Act α := do
  complain message
  refer code

def readAll (fd : Nat) : Act (Except Fault ByteArray) := do
  let r ← get
  match r.process.descriptor? fd with
  | none => return .error .badDescriptor
  | some number =>
    match r.machine.read number none with
    | .ok (data, m) => setMachine m; return .ok data
    | .error fault => return .error fault

def openPath (path : String) (how : OpenMode) : Act (Except Fault Nat) := do
  let r ← get
  match r.process.openPath r.machine path how with
  | .ok (number, m) => setMachine m; return .ok number
  | .error fault => return .error fault

/-- The contents of a file, or the input where a dash is named. -/
def contents (path : String) : Act (Except Fault ByteArray) := do
  if path == "-" then readAll 0
  else
    match ← openPath path .reading with
    | .error fault => return .error fault
    | .ok number =>
      match (← machine).read number none with
      | .ok (data, m) => setMachine m; return .ok data
      | .error fault => return .error fault

def store (path : String) (data : ByteArray) : Act (Option Fault) := do
  match ← openPath path .writing with
  | .error fault => return some fault
  | .ok number =>
    match (← machine).write number data with
    | .ok m => setMachine m; return none
    | .error fault => return some fault

def repeatWhile : Nat → Act Bool → Act Unit
  | 0, _ => throw (.killed Signal.pipe)
  | fuel + 1, step => do
    if ← step then repeatWhile fuel step

end Act

def Running.start (p : Process) (m : Machine) : Running := ⟨m, p, "", 0, none⟩

/-- A program made of actions. What is pending is written at the end; if that fails, the program
says so and exits with the given code. -/
def Program.ofAct (writeFailure : Nat) (act : Launcher → Act Unit) : Program := fun launch p m =>
  let result := (act launch).run (.start p m)
  let ending : Ending := match result with
    | .ok _ r => .exit r.code
    | .error e _ => e
  let r := match result with
    | .ok _ r | .error _ r => r
  match ending with
  | .killed signal => (.killed signal, r.machine)
  | .exit code =>
    let closing : Act Unit := do
      Act.flush
      if let some fault := (← get).broken then
        Act.complain ("write error: " ++ fault.reason)
        throw (.exit writeFailure)
    match closing.run r with
    | .ok _ r => (.exit code, r.machine)
    | .error e r => (e, r.machine)

end BuildRunner.Sandbox
