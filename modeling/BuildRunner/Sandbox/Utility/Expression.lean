import BuildRunner.Sandbox.Process
import BuildRunner.Sandbox.Quotation
import BuildRunner.Sandbox.Regex

/-! Expressions given as words, whose value is a text or an integer: choices, comparisons, arithmetic
without bounds, and matches against a basic regular expression. -/
namespace BuildRunner.Sandbox.Utility.Expression
open Act

def integer? (text : String) : Option Int :=
  let chars := text.toList
  let digits := if chars.head? == some '-' then chars.tail else chars
  if digits.isEmpty || !digits.all Char.isDigit then none
  else some (Real.signed (chars.head? == some '-') (Numeral.valueOf 10 digits))

/-- What counts as false: nothing, or zero in any number of digits. -/
def isNull (value : String) : Bool := value.isEmpty || integer? value == some 0

def ofBool (b : Bool) : String := if b then "1" else "0"

def comparison? (operator : String) : Option (Ordering → Bool) :=
  match operator with
  | "<" => some (· == .lt)
  | "<=" => some (· != .gt)
  | "=" | "==" => some (· == .eq)
  | "!=" => some (· != .eq)
  | ">=" => some (· != .lt)
  | ">" => some (· == .gt)
  | _ => none

def order (a b : String) : Ordering :=
  match integer? a, integer? b with
  | some x, some y => compare x y
  | _, _ => compare a b

def matched (text pattern : String) : Except String String := do
  let (regex, groups) ← Regex.parse false false pattern
  let chars := text.toList.toArray
  match regex.matchAt? chars 0 with
  | none => return if groups > 0 then "" else "0"
  | some spot =>
    if groups == 0 then return toString spot.position
    match spot.groups.lookup 1 with
    | none => return ""
    | some (low, high) => return String.ofList (chars.extract low high).toList

def arithmetic (operator a b : String) : Except String String := do
  match integer? a, integer? b with
  | some x, some y =>
    match operator with
    | "+" => return toString (x + y)
    | "-" => return toString (x - y)
    | "*" => return toString (x * y)
    | _ =>
      if y == 0 then throw "division by zero"
      return toString (if operator == "/" then x.tdiv y else x.tmod y)
  | _, _ => throw "non-integer argument"

def substring (text start count : String) : String :=
  match integer? start, integer? count with
  | some s, some n =>
    if s ≤ 0 || n ≤ 0 then "" else String.ofList ((text.toList.drop (s.toNat - 1)).take n.toNat)
  | _, _ => ""

def indexOf (text chars : String) : String :=
  toString (((text.toList.findIdx? fun c => chars.toList.contains c).map (· + 1)).getD 0)

structure Words where
  rest : List String
  last : String

def Words.next (w : Words) : Words := ⟨w.rest.tail, w.rest.headD ""⟩

/-- Operators by how tightly they bind, the loosest first. -/
def level (operator : String) : Nat :=
  match operator with
  | "|" => 0
  | "&" => 1
  | "+" | "-" => 3
  | "*" | "/" | "%" => 4
  | ":" => 5
  | _ => if (comparison? operator).isSome then 2 else 9

/-- Joins two values. Where nothing is evaluated the first one stays. -/
def combine (live : Bool) (operator a b : String) : Except String String := do
  match operator with
  | "|" => return if !isNull a then a else if isNull b then "0" else b
  | "&" => return if isNull a || isNull b then "0" else a
  | ":" => if live then matched a b else return a
  | "+" | "-" | "*" | "/" | "%" => if live then arithmetic operator a b else return a
  | _ =>
    match comparison? operator with
    | some holds => return ofBool (live && holds (order a b))
    | none => return a

mutual

/-- A chain of operators that bind at least as tightly as a level. -/
def chain : Nat → Bool → Nat → Words → Except String (String × Words)
  | 0, _, _, _ => .error "expression too long"
  | fuel + 1, live, least, w => do
    if least > 5 then primary fuel live w
    else
      let (first, w) ← chain fuel live (least + 1) w
      continued fuel live least first w

def continued : Nat → Bool → Nat → String → Words → Except String (String × Words)
  | 0, _, _, value, w => .ok (value, w)
  | fuel + 1, live, least, value, w =>
    match w.rest with
    | operator :: _ =>
      if level operator == least then do
        let needed := match operator with
          | "|" => live && isNull value
          | "&" => live && !isNull value
          | _ => live
        let (right, w) ← chain fuel needed (least + 1) w.next
        continued fuel live least (← combine live operator value right) w
      else .ok (value, w)
    | [] => .ok (value, w)

def primary : Nat → Bool → Words → Except String (String × Words)
  | 0, _, _ => .error "expression too long"
  | fuel + 1, live, w => do
    match w.rest with
    | [] => throw ("syntax error: missing argument after " ++ Quotation.quoted w.last)
    | "+" :: _ =>
      match w.next.rest with
      | [] => throw "syntax error: missing argument after '+'"
      | word :: _ => return (word, w.next.next)
    | "length" :: _ =>
      let (text, w) ← primary fuel live w.next
      return (toString text.length, w)
    | "match" :: _ =>
      let (text, w) ← primary fuel live w.next
      let (pattern, w) ← primary fuel live w
      return (← combine live ":" text pattern, w)
    | "index" :: _ =>
      let (text, w) ← primary fuel live w.next
      let (chars, w) ← primary fuel live w
      return (indexOf text chars, w)
    | "substr" :: _ =>
      let (text, w) ← primary fuel live w.next
      let (start, w) ← primary fuel live w
      let (count, w) ← primary fuel live w
      return (substring text start count, w)
    | "(" :: _ =>
      let (value, w) ← chain fuel live 0 w.next
      match w.rest with
      | ")" :: _ => return (value, w.next)
      | [] => throw ("syntax error: expecting ')' after " ++ Quotation.quoted w.last)
      | word :: _ => throw ("syntax error: expecting ')' instead of " ++ Quotation.quoted word)
    | ")" :: _ => throw "syntax error: unexpected ')'"
    | word :: _ => return (word, w.next)

end

/-- Prints the value, and exits with 1 if it counts as false. -/
def run : Act Unit := do
  let given ← arguments
  let words := if given.head? == some "--" then given.tail else given
  if words.isEmpty then misused 2 "missing operand"
  match chain (12 * words.length + 24) true 0 ⟨words, ""⟩ with
  | .error message => fail 2 message
  | .ok (value, w) =>
    if let word :: _ := w.rest then
      fail 2 ("syntax error: unexpected argument " ++ Quotation.quoted word)
    printLine value
    if isNull value then atLeast 1

end BuildRunner.Sandbox.Utility.Expression
