import BuildRunner.Sandbox.Format
import BuildRunner.Sandbox.Shell.State
import BuildRunner.Sandbox.Utility.Escape

/-! The shell's own ways to print: its arguments as they are, with escapes read, or under a
format. -/
namespace BuildRunner.Sandbox.Shell
open Eval

namespace Eval

/-- Writes the output of a builtin; if that fails, says so. -/
def say (text : String) : Eval Unit := do
  if !text.isEmpty then
    if (← writeTo 1 text).isSome then
      complain (((← get).command).getD "" ++ ": I/O error")
      modify fun s => { s with status := s.status ||| 1 }

end Eval

namespace Printing

/-- What follows a backslash. One that means nothing stands for itself. -/
def escape (text : List Char) : Escape × List Char :=
  match text with
  | [] => (.octets ['\\'], [])
  | c :: rest =>
    match Escape.control? c with
    | some n => (Escape.octet n, rest)
    | none =>
      if c == 'e' then (Escape.octet 27, rest)
      else if Numeral.isOctal c then Escape.number 8 3 text
      else (.octets ['\\'], text)

/-- The same in a word, where output can be stopped and octal numbers begin with a zero. -/
def wordEscape (text : List Char) : Escape × List Char :=
  match text with
  | 'c' :: _ => (.stop, [])
  | '0' :: rest => Escape.number 8 3 rest
  | _ => escape text

/-- Words with blanks between them, up to a stop, and whether there was one. -/
def echoed : List String → String × Bool
  | [] => ("", false)
  | word :: rest =>
    let (text, last) := Escape.expandAll wordEscape word
    if last.isSome then (text, true)
    else if rest.isEmpty then (text, false)
    else
      let (more, stopped) := echoed rest
      (text ++ " " ++ more, stopped)

def echo (arguments : List String) : Eval Unit := do
  let quiet := arguments.head? == some "-n"
  let (text, stopped) := echoed (if quiet then arguments.tail else arguments)
  setStatus 0
  say (if quiet || stopped then text else text ++ "\n")

/-- The state of a formatted output: what is written, the arguments that are left, and whether one
of them was no number. -/
structure Formatted where
  written : List (List Char)
  arguments : List String
  isFaulty : Bool

abbrev Formatting := StateT Formatted Eval

def write (text : List Char) : Formatting Unit := modify fun f => { f with written := text :: f.written }

def argument? : Formatting (Option String) := do
  let f ← get
  set { f with arguments := f.arguments.tail }
  return f.arguments.head?

def fault (text : String) : Formatting Unit := do
  complain text
  modify fun f => { f with isFaulty := true }

def check (text : String) (rest : Option (List Char)) (fits : Bool) : Formatting Unit := do
  match rest with
  | none => if !text.isEmpty then fault (text ++ ": expected numeric value")
  | some [] => if !fits then fault (text ++ ": Numerical result out of range")
  | some _ => fault (text ++ ": not completely converted")

def character? (text : String) : Option Nat :=
  match text.toList with
  | quote :: rest => if quote == '\'' || quote == '"' then some ((rest.head?.map Char.toNat).getD 0) else none
  | [] => none

def integer (isSigned : Bool) : Formatting Int := do
  match ← argument? with
  | none => return 0
  | some text =>
    if let some n := character? text then return n
    match Numeral.integer? text.toList with
    | none =>
      check text none true
      return 0
    | some (n, rest) =>
      let least : Int := if isSigned then Word64.least else 1 - Word64.size
      let greatest : Int := if isSigned then Word64.greatest else Word64.size - 1
      let fits := least ≤ n && n ≤ greatest
      check text (some rest) fits
      return if fits then n else if isSigned && n < least then least else greatest

def real : Formatting Real := do
  match ← argument? with
  | none => return .finite false 0 0
  | some text =>
    if let some n := character? text then return .ofNat n
    match Numeral.real? Real.double text.toList with
    | none =>
      check text none true
      return .finite false 0 0
    | some (x, rest) =>
      check text (some rest) true
      return x

def count (text : List Char) : Formatting (Option Int × List Char) := do
  match text with
  | '*' :: rest => return (some (← integer true), rest)
  | _ =>
    let digits := text.takeWhile Char.isDigit
    return (if digits.isEmpty then none else some (Numeral.valueOf 10 digits), text.drop digits.length)

/-- One conversion, from after its percent sign. What it gives is the rest of the format, or nothing
if all output ends. -/
def conversion (format : List Char) : Formatting (Option (List Char)) := do
  let flags := format.takeWhile "#-+ 0".toList.contains
  let (width, rest) ← count (format.drop flags.length)
  let (precision, rest) ← match rest with
    | '.' :: rest => do
      let (n, rest) ← count rest
      pure (some (n.getD 0), rest)
    | rest => pure (none, rest)
  let width := width.getD 0
  let c : Conversion := {
    flags := if width < 0 then '-' :: flags else flags
    width := width.natAbs
    precision := precision.bind fun n => if n < 0 then none else some n.toNat }
  match rest with
  | [] => fail "missing format character"
  | letter :: rest =>
    match letter with
    | 'b' =>
      let (text, last) := Escape.expandAll wordEscape ((← argument?).getD "")
      write (c.text text.toList)
      if last.isSome then return none
    | 'c' => write (c.pad [((← argument?).getD "").toList.headD '\x00'])
    | 's' => write (c.text ((← argument?).getD "").toList)
    | 'd' | 'i' => write (c.integer (← integer true))
    | 'o' => write (c.natural 8 false (Word64.unsigned (← integer false)))
    | 'u' => write (c.natural 10 false (Word64.unsigned (← integer false)))
    | 'x' => write (c.natural 16 false (Word64.unsigned (← integer false)))
    | 'X' => write (c.natural 16 true (Word64.unsigned (← integer false)))
    | _ =>
      if "aAeEfFgG".toList.contains letter then write (c.real letter Real.double (← real))
      else
        fail ("%" ++ String.ofList (format.take (format.length - rest.length)) ++ ": invalid directive")
    return some rest

def pass : Nat → List Char → Formatting Bool
  | 0, _ => return false
  | _, [] => return true
  | fuel + 1, c :: rest => do
    match c, rest with
    | '\\', rest =>
      let (found, rest) := escape rest
      match found with
      | .octets text => write text
      | _ => write []
      pass fuel rest
    | '%', '%' :: rest =>
      write ['%']
      pass fuel rest
    | '%', rest =>
      match ← conversion rest with
      | some rest => pass fuel rest
      | none => return false
    | c, rest =>
      write [c]
      pass fuel rest

def passes (format : List Char) : Nat → Formatting Unit
  | 0 => return
  | fuel + 1 => do
    let goesOn ← pass (format.length + 1) format
    if goesOn && !(← get).arguments.isEmpty then passes format fuel

/-- A format is used once, and again only if it takes arguments. -/
def allPasses (format : List Char) (values : List String) : Formatting Unit := do
  let goesOn ← pass (format.length + 1) format
  let left := (← get).arguments.length
  if goesOn && left < values.length then passes format left

def printf (arguments : List String) : Eval Unit := do
  let given := if arguments.head? == some "--" then arguments.tail else arguments
  if given == arguments then
    match (arguments.headD "").toList with
    | '-' :: c :: _ => fail ("Illegal option -" ++ c.toString)
    | _ => pure ()
  match given with
  | [] => fail "usage: printf format [arg ...]"
  | format :: values =>
    let ((), f) ← (allPasses format.toList values).run ⟨[], values, false⟩
    setStatus (if f.isFaulty then 1 else 0)
    say (String.ofList f.written.reverse.flatten)

end Printing
end BuildRunner.Sandbox.Shell
