import BuildRunner.Sandbox.FileTest
import BuildRunner.Sandbox.Shell.Expansion

/-! Redirections: what a descriptor leads to while a command runs. -/
namespace BuildRunner.Sandbox.Shell
open Eval Text

inductive Change where
  | file (descriptor : Nat) (how : Opening) (path : String)
  /-- To where another descriptor leads, or to nowhere. -/
  | duplicate (descriptor : Nat) (source : Option Nat)
  | text (descriptor : Nat) (text : String)

namespace Change

/-- Refuses what stands where a descriptor has to, as a fault in the script. -/
def badDescriptor {α : Type} : Eval α := do
  modify fun s => { s with line := s.reached }
  fail "Syntax error: Bad fd number"

def ofRedirection (run : Command → Eval String) : Redirection → Eval Change
  | .file descriptor how path => return .file descriptor how (← Expansion.single run path)
  | .duplicate descriptor source => do
    match (← Expansion.single run source).toList with
    | ['-'] => return .duplicate descriptor none
    | [c] =>
      if c.isDigit then return .duplicate descriptor (some (Numeral.digitOf c))
      badDescriptor
    | _ => badDescriptor
  | .document descriptor number => do
    let body := (← get).documents.getD number []
    return .text descriptor (← Expansion.single run body)

/-- Why a file cannot be opened, in the words of the shell. -/
def reason (missing : String) (fault : Fault) : String :=
  if fault == .notFound || fault == .notDirectory then missing else fault.reason

def open? (how : Opening) (path : String) : Eval (Except Fault Nat) := do
  let s ← get
  let mode : OpenMode := match how with
    | .input => .reading
    | .output | .overwrite => .writing
    | .append => .appending
    | .both => ⟨true, true, true, false, false, false⟩
  let isTaken := how == .output && (← has 'C') &&
    FileTest.holds s.machine s.process.workdir 'f' path
  if isTaken then return .error .alreadyExists
  match s.process.openPath s.machine path mode with
  | .ok (number, m) =>
    setMachine m
    return .ok number
  | .error fault => return .error fault

def apply : Change → Eval Unit
  | .file descriptor how path => do
    match ← open? how path with
    | .ok number => setDescriptor descriptor (some number)
    | .error fault =>
      if how == .input then fail ("cannot open " ++ path ++ ": " ++ reason "No such file" fault)
      fail ("cannot create " ++ path ++ ": " ++ reason "Directory nonexistent" fault)
  | .duplicate descriptor none => setDescriptor descriptor none
  | .duplicate descriptor (some source) => do
    match (← get).process.descriptor? source with
    | some number => setDescriptor descriptor (some number)
    | none => fail (toString source ++ ": " ++ Fault.reason .badDescriptor)
  | .text descriptor body => do
    let (source, sink, m) := (← get).machine.addPipe
    match m.write sink (Octets.toByteArray body) with
    | .ok m => setMachine m
    | .error _ => setMachine m
    setDescriptor descriptor (some source)

end Change

def redirect (changes : List Change) : Eval Bool := do
  try
    changes.forM Change.apply
    return true
  catch e =>
    match e with
    | .failed => return false
    | e => throw e

end BuildRunner.Sandbox.Shell
