import BuildRunner.Sandbox.FileTest
import BuildRunner.Sandbox.Shell.State

/-! The shell's own conditions. Up to four words are read by their number, more of them by the rank
of the operators. -/
namespace BuildRunner.Sandbox.Shell
namespace Condition
open Eval

def numberTest? (operator : String) : Option (Int → Int → Bool) :=
  match operator with
  | "-eq" => some (· == ·)
  | "-ne" => some (· != ·)
  | "-lt" => some (· < ·)
  | "-le" => some (· ≤ ·)
  | "-gt" => some (· > ·)
  | "-ge" => some (· ≥ ·)
  | _ => none

def isBinary (word : String) : Bool :=
  (numberTest? word).isSome || ["=", "!=", "<", ">", "-nt", "-ot", "-ef"].contains word

def unaryLetters : List Char := "rwxefdcbpugkstznhLSOG".toList

def isUnary (word : String) : Bool :=
  match word.toList with
  | ['-', c] => unaryLetters.contains c
  | _ => false

/-- What a word is to the words after it. -/
inductive Kind where
  | operand
  | unary
  | binary
  | negation
  | conjunction
  | disjunction
  | opening
  | closing
  | ended
deriving DecidableEq

/-- The first of some words. A unary operator is an operand where nothing is left for it to ask
about, or where a binary one follows. -/
def kind : List String → Kind
  | [] => .ended
  | word :: rest =>
    if isBinary word then .binary
    else if isUnary word then
      match rest with
      | [] => .operand
      | [_] => .unary
      | next :: _ => if isBinary next then .operand else .unary
    else
      match word with
      | "!" => .negation
      | "-a" => .conjunction
      | "-o" => .disjunction
      | "(" => if rest.isEmpty then .operand else .opening
      | ")" => .closing
      | _ => .operand

def integer (word : String) : Eval Int := do
  match Numeral.decimal? word.toList with
  | some (n, rest) =>
    if rest.all Numeral.isSpace && Word64.least ≤ n && n ≤ Word64.greatest then return n
    fail ("Illegal number: " ++ word)
  | none => fail ("Illegal number: " ++ word)

/-- Whether both files are there and the first was changed after the second. -/
def isNewer (s : State) (a b : String) : Bool :=
  (s.machine.node? s.process.workdir b).isSome && FileTest.isNewer s.machine s.process.workdir a b

def binary (left operator right : String) : Eval Bool := do
  match numberTest? operator with
  | some test =>
    let a ← integer left
    return test a (← integer right)
  | none =>
    let s ← get
    let here := s.process.workdir
    match operator with
    | "=" => return left == right
    | "!=" => return left != right
    | "<" => return left < right
    | ">" => return right < left
    | "-nt" => return isNewer s left right
    | "-ot" => return isNewer s right left
    | _ => return FileTest.isSame s.machine here left right

def unary (operator operand : String) : Eval Bool := do
  let s ← get
  match operator with
  | "-z" => return operand.isEmpty
  | "-n" => return !operand.isEmpty
  | "-t" =>
    discard <| integer operand
    return false
  | _ => return FileTest.holds s.machine s.process.workdir (operator.toList.getD 1 'e') operand

mutual

/-- A condition from the words on, with the words from its last one on. -/
def either : Nat → Kind → List String → Eval (Bool × List String)
  | 0, _, ws => return (false, ws)
  | fuel + 1, k, ws => do
    let (value, ws) ← both fuel k ws
    if kind ws.tail == .disjunction then
      let rest := ws.drop 2
      let (other, ws) ← either fuel (kind rest) rest
      return (value || other, ws)
    else return (value, ws)

def both : Nat → Kind → List String → Eval (Bool × List String)
  | 0, _, ws => return (false, ws)
  | fuel + 1, k, ws => do
    let (value, ws) ← negatable fuel k ws
    if kind ws.tail == .conjunction then
      let rest := ws.drop 2
      let (other, ws) ← both fuel (kind rest) rest
      return (value && other, ws)
    else return (value, ws)

def negatable : Nat → Kind → List String → Eval (Bool × List String)
  | 0, _, ws => return (false, ws)
  | fuel + 1, k, ws => do
    if k == .negation then
      let next := kind ws.tail
      let (value, ws) ← negatable fuel next (if next == .ended then ws else ws.tail)
      return (!value, ws)
    else primary fuel k ws

def primary : Nat → Kind → List String → Eval (Bool × List String)
  | 0, _, ws => return (false, ws)
  | fuel + 1, k, ws => do
    match k with
    | .ended => return (false, ws)
    | .opening =>
      let inside := ws.tail
      if kind inside == .closing then return (false, inside)
      let (value, ws) ← either fuel (kind inside) inside
      if kind ws.tail != .closing then fail "closing paren expected"
      return (value, ws.tail)
    | .unary =>
      match ws with
      | operator :: operand :: rest => return (← unary operator operand, operand :: rest)
      | operator :: [] => fail (operator ++ ": argument expected")
      | [] => return (false, [])
    | _ =>
      match ws with
      | left :: operator :: rest =>
        if kind (operator :: rest) == .binary then
          match rest with
          | right :: more => return (← binary left operator right, right :: more)
          | [] => fail (operator ++ ": argument expected")
        else return (!left.isEmpty, ws)
      | _ => return (!(ws.headD "").isEmpty, ws)

end

def whole : Nat → List String → Eval Bool
  | 0, _ => return false
  | _, [] => return false
  | fuel + 1, ws => do
    let evaluate (k : Kind) (ws : List String) : Eval Bool := do
      let (value, last) ← either (8 * ws.length + 8) k ws
      match last with
      | word :: _ :: _ => fail (word ++ ": unexpected operator")
      | _ => return value
    match ws with
    | [_, operator, _] =>
      if isBinary operator then evaluate .operand ws
      else if ws.head? == some "(" && ws.getLast? == some ")" then evaluate (kind (ws.tail.take 1)) (ws.tail.take 1)
      else if ws.head? == some "!" then return !(← whole fuel ws.tail)
      else evaluate (kind ws) ws
    | [_, _, _, _] =>
      if ws.head? == some "(" && ws.getLast? == some ")" then evaluate (kind (ws.tail.take 2)) (ws.tail.take 2)
      else if ws.head? == some "!" then return !(← whole fuel ws.tail)
      else evaluate (kind ws) ws
    | _ => evaluate (kind ws) ws

def run (bracketed : Bool) (arguments : List String) : Eval Unit := do
  if bracketed && arguments.getLast? != some "]" then fail "missing ]"
  let words := if bracketed then arguments.dropLast else arguments
  setStatus (if ← whole (words.length + 1) words then 0 else 1)

end Condition
end BuildRunner.Sandbox.Shell
