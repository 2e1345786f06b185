import BuildRunner.Sandbox.Shell.State

/-! Arithmetic on integers of 64 bits, with variables and assignments. Of two operands that are
joined by their truth, and of two alternatives, the one that is not needed is read and not
computed. -/
namespace BuildRunner.Sandbox.Shell
namespace Arithmetic

inductive Term where
  | number (n : Int)
  | name (s : String)
  | sign (s : String)
  | other
deriving DecidableEq

def signs : List String :=
  ["<<=", ">>=", "&&", "||", "==", "!=", "<=", ">=", "<<", ">>", "+=", "-=", "*=", "/=", "%=", "&=", "|=",
   "^=", "+", "-", "*", "/", "%", "<", ">", "=", "&", "|", "^", "!", "~", "?", ":", "(", ")"]

def saturate (n : Int) : Int := max Word64.least (min n Word64.greatest)

def terms : Nat → List Char → List Term
  | 0, _ => []
  | _, [] => []
  | fuel + 1, c :: rest =>
    if c == ' ' || c == '\t' || c == '\n' then terms fuel rest
    else if c.isDigit then
      match Numeral.integer? (c :: rest) with
      | some (n, rest) => .number (saturate n) :: terms fuel rest
      | none => [.other]
    else if Name.isStart c then
      let name := (c :: rest).takeWhile Name.isInner
      .name (String.ofList name) :: terms fuel ((c :: rest).drop name.length)
    else
      match signs.find? (·.toList.isPrefixOf (c :: rest)) with
      | some s => .sign s :: terms fuel ((c :: rest).drop s.length)
      | none => [.other]

def rank? (operator : String) : Option Nat :=
  match operator with
  | "|" => some 1
  | "^" => some 2
  | "&" => some 3
  | "==" | "!=" => some 4
  | "<" | "<=" | ">" | ">=" => some 5
  | "<<" | ">>" => some 6
  | "+" | "-" => some 7
  | "*" | "/" | "%" => some 8
  | _ => none

def ofBool (b : Bool) : Int := if b then 1 else 0

def integer (text : String) : Eval Int := do
  let chars := text.toList
  match Numeral.integer? chars with
  | some (n, rest) =>
    if rest.all Numeral.isSpace && saturate n == n then return n
    Eval.fail ("Illegal number: " ++ text)
  | none =>
    if chars.all Numeral.isSpace then return 0
    Eval.fail ("Illegal number: " ++ text)

def valueOf (name : String) : Eval Int := do
  match ← Eval.value? name with
  | some text => integer text
  | none =>
    if ← Eval.has 'u' then Eval.fail (name ++ ": parameter not set")
    return 0

def refuse {α : Type} (text reason : String) : Eval α :=
  Eval.fail ("arithmetic expression: " ++ reason ++ ": \"" ++ text ++ "\"")

def operate (text operator : String) (a b : Int) : Eval Int := do
  let bitwise (f : Nat → Nat → Nat) : Int := Word64.wrap (f (Word64.unsigned a) (Word64.unsigned b))
  match operator with
  | "*" => return Word64.wrap (a * b)
  | "/" =>
    if b == 0 then refuse text "division by zero"
    return Word64.wrap (a.tdiv b)
  | "%" =>
    if b == 0 then refuse text "division by zero"
    return a.tmod b
  | "+" => return Word64.wrap (a + b)
  | "-" => return Word64.wrap (a - b)
  | "<<" => return Word64.wrap (a <<< (b % 64).toNat)
  | ">>" => return a >>> (b % 64).toNat
  | "<" => return ofBool (a < b)
  | "<=" => return ofBool (a ≤ b)
  | ">" => return ofBool (a > b)
  | ">=" => return ofBool (a ≥ b)
  | "==" => return ofBool (a == b)
  | "!=" => return ofBool (a != b)
  | "&" => return bitwise (· &&& ·)
  | "^" => return bitwise (· ^^^ ·)
  | _ => return bitwise (· ||| ·)

/-- The operator that an assignment computes with; an empty one for the plain assignment. -/
def assigning? (sign : String) : Option String :=
  if ["=", "<<=", ">>=", "+=", "-=", "*=", "/=", "%=", "&=", "|=", "^="].contains sign then
    some (sign.dropEnd 1).toString
  else none

mutual

def assignment (text : String) : Nat → Bool → List Term → Eval (Int × List Term)
  | 0, _, _ => refuse text "expression too long"
  | fuel + 1, idle, ts => do
    match ts with
    | .name name :: .sign s :: rest =>
      match assigning? s with
      | none => condition text fuel idle ts
      | some operator =>
        let (value, rest) ← assignment text fuel idle rest
        if idle then return (value, rest)
        let value ←
          if operator.isEmpty then pure value else do operate text operator (← valueOf name) value
        Eval.assign name (toString value)
        return (value, rest)
    | _ => condition text fuel idle ts

def condition (text : String) : Nat → Bool → List Term → Eval (Int × List Term)
  | 0, _, _ => refuse text "expression too long"
  | fuel + 1, idle, ts => do
    let (a, rest) ← disjunction text fuel idle ts
    match rest with
    | .sign "?" :: rest =>
      let (b, rest) ← assignment text fuel (idle || a == 0) rest
      match rest with
      | .sign ":" :: rest =>
        let (c, rest) ← condition text fuel (idle || a != 0) rest
        return (if a != 0 then b else c, rest)
      | _ => refuse text "expecting ':'"
    | _ => return (a, rest)

def disjunction (text : String) : Nat → Bool → List Term → Eval (Int × List Term)
  | 0, _, _ => refuse text "expression too long"
  | fuel + 1, idle, ts => do
    let (a, rest) ← conjunction text fuel idle ts
    match rest with
    | .sign "||" :: rest =>
      let (b, rest) ← disjunction text fuel (idle || a != 0) rest
      return (ofBool (a != 0 || b != 0), rest)
    | _ => return (a, rest)

def conjunction (text : String) : Nat → Bool → List Term → Eval (Int × List Term)
  | 0, _, _ => refuse text "expression too long"
  | fuel + 1, idle, ts => do
    let (a, rest) ← primary text fuel idle ts
    let (a, rest) ← operations text fuel idle 0 a rest
    match rest with
    | .sign "&&" :: rest =>
      let (b, rest) ← conjunction text fuel (idle || a == 0) rest
      return (ofBool (a != 0 && b != 0), rest)
    | _ => return (a, rest)

/-- Operations of at least a rank, from the left. -/
def operations (text : String) : Nat → Bool → Nat → Int → List Term → Eval (Int × List Term)
  | 0, _, _, _, _ => refuse text "expression too long"
  | fuel + 1, idle, least, a, ts => do
    match ts with
    | .sign operator :: rest =>
      match rank? operator with
      | none => return (a, ts)
      | some rank =>
        if rank < least then return (a, ts)
        let (b, rest) ← primary text fuel idle rest
        let (b, rest) ← operations text fuel idle (rank + 1) b rest
        let a ← if idle then pure b else operate text operator a b
        operations text fuel idle least a rest
    | _ => return (a, ts)

def primary (text : String) : Nat → Bool → List Term → Eval (Int × List Term)
  | 0, _, _ => refuse text "expression too long"
  | fuel + 1, idle, ts => do
    match ts with
    | .number n :: rest => return (n, rest)
    | .name name :: rest => return (← if idle then pure 0 else valueOf name, rest)
    | .sign "(" :: rest =>
      let (a, rest) ← assignment text fuel idle rest
      match rest with
      | .sign ")" :: rest => return (a, rest)
      | _ => refuse text "expecting ')'"
    | .sign "+" :: rest => primary text fuel idle rest
    | .sign "-" :: rest =>
      let (a, rest) ← primary text fuel idle rest
      return (Word64.wrap (-a), rest)
    | .sign "!" :: rest =>
      let (a, rest) ← primary text fuel idle rest
      return (ofBool (a == 0), rest)
    | .sign "~" :: rest =>
      let (a, rest) ← primary text fuel idle rest
      return (-a - 1, rest)
    | _ => refuse text "expecting primary"

end

def evaluate (text : String) : Eval Int := do
  let ts := terms (text.length + 1) text.toList
  let (value, rest) ← assignment text (10 * ts.length + 10) false ts
  if !rest.isEmpty then refuse text "expecting EOF"
  return value

end Arithmetic
end BuildRunner.Sandbox.Shell
