import BuildRunner.Sandbox.Arguments
import BuildRunner.Sandbox.Number
import BuildRunner.Sandbox.Quotation

/-! What programs that read files have in common: lines, counts with units, and operands one after
another. -/
namespace BuildRunner.Sandbox.Utility
open Act Text

/-- Pieces of a text after each of which a mark stands; the last one may lack it. -/
def recordsOf (mark : Char) (s : String) : List String :=
  let parts := s.splitOn mark.toString
  if parts.getLast? == some "" then parts.dropLast else parts

def linesOf (s : String) : List String := recordsOf '\n' s

/-- Whether a text has a last piece that lacks its mark. -/
def isOpenEnded (mark : Char) (s : String) : Bool := !s.isEmpty && s.toList.getLast? != some mark

def joinRecords (mark : Char) (records : List String) : String :=
  String.join (records.map (·.push mark))

def textOf (path : String) : Act (Except Fault String) := do
  match ← contents path with
  | .ok data => return .ok (Octets.ofByteArray data)
  | .error fault => return .error fault

/-- Applies an action to each operand and its text, or to the input if there is no operand. -/
def eachInput (operands : List String) (refuse : String → Fault → Act Unit)
    (use : String → String → Act Unit) : Act Unit := do
  (if operands.isEmpty then ["-"] else operands).forM fun path => do
    match ← textOf path with
    | .ok text => use path text
    | .error fault => refuse path fault

def complainAbout (path : String) (fault : Fault) : Act Unit := do
  complain (Quotation.shown path ++ ": " ++ fault.reason)
  atLeast 1

/-- Opens a file to read from, or the input for a dash. -/
def openInput (path : String) : Act (Except Fault Nat) := do
  if path == "-" then
    match (← process).descriptor? 0 with
    | some number => return .ok number
    | none => return .error .badDescriptor
  else openPath path .reading

def unit? (suffix : String) : Option Nat :=
  let power (c : Char) : Option Nat :=
    ("KMGTPEZYRQ".toList.idxOf? (if c == 'k' || c == 'm' then c.toUpper else c)).map (· + 1)
  match suffix.toList with
  | [] => some 1
  | ['b'] => some 512
  | [c] => (power c).map (Nat.pow 1024)
  | [c, 'B'] => (power c).map (Nat.pow 1000)
  | [c, 'i', 'B'] => (power c).map (Nat.pow 1024)
  | _ => none

def scaled? (text : String) : Option Nat :=
  let digits := text.toList.takeWhile Char.isDigit
  let suffix := String.ofList (text.toList.drop digits.length)
  if digits.isEmpty then none else (unit? suffix).map (Numeral.valueOf 10 digits * ·)

/-- The choice that a word or the beginning of one names among some, each with all its words.
Other words end the program with a list of these. -/
def choose (failure : Nat) (switch : String) (choices : List (List String)) (given : String) : Act String := do
  let named := choices.filter (·.contains given)
  let begun := choices.filter (·.any (·.startsWith given))
  match named, begun with
  | choice :: _, _ => return choice.headD ""
  | [], [choice] => return choice.headD ""
  | [], begun =>
    complain ((if begun.isEmpty then "invalid" else "ambiguous") ++ " argument " ++ Quotation.quoted given ++
      " for " ++ Quotation.quoted switch)
    sayError "Valid arguments are:"
    choices.forM fun words => sayError ("  - " ++ ", ".intercalate (words.map Quotation.quoted))
    refer failure

/-- Writes at once; a failure ends the program. -/
def emit (data : ByteArray) : Act Unit := do
  if !data.isEmpty then
    if let some fault ← writeTo 1 data then fail 1 ("write error: " ++ fault.reason)

end BuildRunner.Sandbox.Utility
