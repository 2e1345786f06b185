import BuildRunner.Sandbox.FileTest
import BuildRunner.Sandbox.Number
import BuildRunner.Sandbox.Quotation

/-! Conditions given as words. The number of words decides how up to four of them are read; beyond
that operators join conditions by their rank. -/
namespace BuildRunner.Sandbox.Utility.Condition
open Act

/-- Words read so far and those that are left, and what files are asked about. -/
structure Reader where
  machine : Machine
  workdir : NodeId
  all : List String
  rest : List String

abbrev Step (α : Type) := Except String α

def quoted (word : String) : String := Quotation.quoted word

def beyond (r : Reader) : Step α := .error ("missing argument after " ++ quoted (r.all.getLastD ""))

def integer (word : String) : Step Int :=
  let (negative, rest) := Numeral.sign (word.toList.dropWhile Numeral.isSpace)
  let digits := rest.takeWhile Char.isDigit
  if digits.isEmpty || !(rest.drop digits.length).all Numeral.isSpace then
    .error ("invalid integer " ++ quoted word)
  else .ok (Real.signed negative (Numeral.valueOf 10 digits))

def numberTest? (operator : String) : Option (Int → Int → Bool) :=
  match operator with
  | "-eq" => some (· == ·)
  | "-ne" => some (· != ·)
  | "-lt" => some (· < ·)
  | "-le" => some (· ≤ ·)
  | "-gt" => some (· > ·)
  | "-ge" => some (· ≥ ·)
  | _ => none

def isBinary (word : String) : Bool :=
  (numberTest? word).isSome || ["=", "==", "!=", "<", ">", "-nt", "-ot", "-ef"].contains word

def isUnary (word : String) : Bool := word.length == 2 && word.startsWith "-"

def binary (r : Reader) (left operator right : String) : Step Bool :=
  match numberTest? operator with
  | some test => do return test (← integer left) (← integer right)
  | none =>
    .ok <| match operator with
    | "=" | "==" => left == right
    | "!=" => left != right
    | "<" => left < right
    | ">" => right < left
    | "-nt" => FileTest.isNewer r.machine r.workdir left right
    | "-ot" => FileTest.isNewer r.machine r.workdir right left
    | _ => FileTest.isSame r.machine r.workdir left right

def unary (r : Reader) (operator operand : String) : Step Bool :=
  match operator.toList with
  | ['-', 'n'] => .ok (!operand.isEmpty)
  | ['-', 'z'] => .ok operand.isEmpty
  | ['-', 't'] => (integer operand).map fun _ => false
  | ['-', c] =>
    if FileTest.letters.contains c && c != 'a' then .ok (FileTest.holds r.machine r.workdir c operand)
    else .error (quoted operator ++ ": unary operator expected")
  | _ => .error (quoted operator ++ ": unary operator expected")

def Reader.drop (r : Reader) (n : Nat) : Reader := { r with rest := r.rest.drop n }

def word (r : Reader) (n : Nat) : String := r.rest.getD n ""

def one (r : Reader) : Step (Bool × Reader) :=
  match r.rest with
  | [] => beyond r
  | w :: _ => .ok (!w.isEmpty, r.drop 1)

def two (r : Reader) : Step (Bool × Reader) := do
  if word r 0 == "!" then
    let (value, r) ← one (r.drop 1)
    return (!value, r)
  else if isUnary (word r 0) then return (← unary r (word r 0) (word r 1), r.drop 2)
  else beyond r

mutual

/-- A condition of a known number of words. -/
def counted : Nat → Nat → Reader → Step (Bool × Reader)
  | 0, _, r => beyond r
  | fuel + 1, n, r => do
    match n with
    | 1 => one r
    | 2 => two r
    | 3 => three fuel r
    | 4 =>
      if word r 0 == "!" then
        let (value, r) ← three fuel (r.drop 1)
        return (!value, r)
      else if word r 0 == "(" && word r 3 == ")" then
        let (value, r) ← two (r.drop 1)
        return (value, r.drop 1)
      else either fuel r
    | _ => either fuel r

def three : Nat → Reader → Step (Bool × Reader)
  | 0, r => beyond r
  | fuel + 1, r => do
    let operator := word r 1
    if isBinary operator then return (← binary r (word r 0) operator (word r 2), r.drop 3)
    else if word r 0 == "!" then
      let (value, r) ← two (r.drop 1)
      return (!value, r)
    else if word r 0 == "(" && word r 2 == ")" then
      let (value, r) ← one (r.drop 1)
      return (value, r.drop 1)
    else if operator == "-a" || operator == "-o" then either fuel r
    else throw (quoted operator ++ ": binary operator expected")

def either : Nat → Reader → Step (Bool × Reader)
  | 0, r => beyond r
  | fuel + 1, r => do
    let (value, r) ← both fuel r
    if word r 0 == "-o" then
      let (other, r) ← either fuel (r.drop 1)
      return (value || other, r)
    else return (value, r)

def both : Nat → Reader → Step (Bool × Reader)
  | 0, r => beyond r
  | fuel + 1, r => do
    let (value, r) ← term fuel r
    if word r 0 == "-a" then
      let (other, r) ← both fuel (r.drop 1)
      return (value && other, r)
    else return (value, r)

def term : Nat → Reader → Step (Bool × Reader)
  | 0, r => beyond r
  | fuel + 1, r => do
    match r.rest with
    | [] => beyond r
    | "!" :: _ =>
      if r.rest.length ≤ 1 then beyond r
      else
        let (value, r) ← term fuel (r.drop 1)
        return (!value, r)
    | "(" :: inside =>
      if inside.isEmpty then beyond r
      else
        let closed := (inside.tail.takeWhile (· != ")")).length + 1
        let n := if closed > 4 then inside.length else closed
        let (value, r) ← counted fuel n (r.drop 1)
        match r.rest with
        | ")" :: _ => return (value, r.drop 1)
        | [] => throw (quoted ")" ++ " expected")
        | w :: _ => throw (quoted ")" ++ " expected, found " ++ quoted w)
    | w :: _ =>
      if r.rest.length ≥ 4 && w == "-l" && isBinary (word r 2) then
        return (← binary r (toString (word r 1).length) (word r 2) (word r 3), r.drop 4)
      else if r.rest.length ≥ 3 && isBinary (word r 1) then
        return (← binary r w (word r 1) (word r 2), r.drop 3)
      else if isUnary w then
        if r.rest.length < 2 then beyond r
        else return (← unary r w (word r 1), r.drop 2)
      else one r

end

def evaluate (m : Machine) (here : NodeId) (words : List String) : Step Bool := do
  if words.isEmpty then return false
  let r : Reader := ⟨m, here, words, words⟩
  let (value, r) ← counted (8 * words.length + 16) words.length r
  match r.rest with
  | [] => return value
  | w :: _ => throw ("extra argument " ++ quoted w)

/-- Exits with 0 if the condition holds, with 1 if it does not, and with 2 if it cannot be read.
Between brackets the last word is the closing one. -/
def run (bracketed : Bool) : Act Unit := do
  let given ← arguments
  if bracketed && given.getLast? != some "]" then fail 2 "missing ']'"
  let words := if bracketed then given.dropLast else given
  let p ← process
  match evaluate (← machine) p.workdir words with
  | .ok value => if !value then exit 1
  | .error message => fail 2 message

end BuildRunner.Sandbox.Utility.Condition
