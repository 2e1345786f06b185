import BuildRunner.Sandbox.Programs

/-! Starting a program from its file: one of the system, or a script whose first line names the
program that reads it. -/
namespace BuildRunner.Sandbox
open Text

/-- What the first line of a script asks for: a program and at most one argument for it. -/
structure Interpreter where
  path : String
  argument : Option String

namespace Interpreter

def headSize : Nat := 256

def isBlank (b : UInt8) : Bool := b == 0x20 || b == 0x09

def endsPath (b : UInt8) : Bool := isBlank b || b == 0

def head (data : ByteArray) : List UInt8 :=
  let found := (data.extract 0 headSize).toList
  found ++ List.replicate (headSize - found.length) 0

def textOf (bytes : List UInt8) : String := Octets.ofBytes (bytes.takeWhile (· ≠ 0))

/-- The line after its mark. A line that is cut off is one only if its path is not cut off; zeros
stand for its end. -/
def line? (rest : List UInt8) : Option (List UInt8) :=
  let line := rest.takeWhile fun b => b ≠ Utf8.lineFeed && b ≠ 0
  if rest[line.length]? == some Utf8.lineFeed then some line
  else
    let path := rest.dropWhile isBlank
    if path.isEmpty || !path.any endsPath then none else some rest.dropLast

def ofScript? (data : ByteArray) : Option Interpreter :=
  match head data with
  | 0x23 :: 0x21 :: rest => do
    let line ← line? rest
    let line := (line.reverse.dropWhile isBlank).reverse.dropWhile isBlank
    let path := line.takeWhile (!endsPath ·)
    let after := line.drop path.length
    if line.isEmpty then none
    else
      let argument := if after.head?.any isBlank then textOf (after.dropWhile isBlank) else ""
      some ⟨textOf path, if argument.isEmpty then none else some argument⟩
  | _ => none

end Interpreter

/-- How many scripts may name one another as their programs. -/
def scriptLimit : Nat := 5

/-- The program in a file, with its process as it is once scripts have handed on to what reads
them. -/
def resolve (m : Machine) : Nat → String → Process → Except Fault (Program × Process)
  | chain, path, p => do
    let node := m.files.node (← m.files.find p.workdir path true)
    if !node.isProgram then throw .accessDenied
    match node.content with
    | .binary name =>
      match programs.lookup name with
      | some program => return (program, p)
      | none => throw .notExecutable
    | .file data =>
      match Interpreter.ofScript? data with
      | none => throw .notExecutable
      | some i =>
        match chain with
        | 0 => throw .tooManyLinks
        | chain + 1 =>
          resolve m chain i.path
            { p with name := i.path, arguments := i.argument.toList ++ path :: p.arguments }
    | _ => throw .accessDenied

def launchLimit : Nat := 60

def launch : Nat → Launcher
  | 0, _, _, m => .ok (.killed Signal.kill, m)
  | fuel + 1, path, p, m => do
    let (program, p) ← resolve m scriptLimit path p
    return program (launch fuel) p m

end BuildRunner.Sandbox
