/-! Regular expressions that are well formed: groups and classes are closed, something stands before
each repetition, and a backslash stands before a character that it can give a meaning. Word bounds
and letters of either case are no part of them, nor are counted repetitions left open. -/
namespace BuildRunner.Pattern

/-- What stands before a place of an expression: whether it can be repeated. -/
structure Scan where
  repeatable : Bool
  depth : Nat

/-- Letters that have a meaning after a backslash. Classes of letters and digits have none: they would
need tables of characters. -/
def signLetters : List Char := "ntrfvaAz".toList

def isHexadecimal (c : Char) : Bool := c.isDigit || ('a' ≤ c.toLower && c.toLower ≤ 'f')

/-- The characters after a number that says which character is meant, in so many digits. -/
def codePoint? (digits : Nat) (text : List Char) : Option (List Char) :=
  let code := text.take digits
  let value := code.foldl (fun n c => n * 16 + (if c.isDigit then c.toNat - 48 else c.toLower.toNat - 87)) 0
  if code.length == digits && code.all isHexadecimal && value.isValidChar then some (text.drop digits) else none

def escape? : List Char → Option (List Char)
  | [] => none
  | 'x' :: rest => codePoint? 2 rest
  | 'u' :: rest => codePoint? 4 rest
  | 'U' :: rest => codePoint? 8 rest
  | c :: rest =>
    if signLetters.contains c then some rest
    else if c.isAlphanum || c.toNat ≥ 0x80 || c == '<' || c == '>' then none
    else some rest

/-- The characters after a class, whose first member may be a closing bracket. Classes may stand in
a class. -/
def class? : Nat → Nat → Bool → List Char → Option (List Char)
  | 0, _, _, _ => none
  | _, _, _, [] => none
  | fuel + 1, depth, first, c :: rest =>
    match c with
    | '\\' => (escape? rest).bind fun rest => class? fuel depth false rest
    | '[' => class? fuel (depth + 1) true (rest.dropWhile (· == '^'))
    | ']' =>
      if first then class? fuel depth false rest
      else if depth == 0 then some rest
      else class? fuel (depth - 1) false rest
    | _ => class? fuel depth false rest

/-- The characters after the opening of a group: nothing, or flags and a name after a question mark. -/
def groupOpening? (rest : List Char) : Option (List Char) :=
  match rest with
  | '?' :: rest =>
    let flags := rest.takeWhile fun c => "msUuRx-".toList.contains c
    match rest.drop flags.length with
    | ':' :: rest => some rest
    | ')' :: rest => if flags.isEmpty then none else some (')' :: rest)
    | 'P' :: '<' :: rest | '<' :: rest =>
      let name := rest.takeWhile fun c => c.isAlphanum || c == '_'
      match name, rest.drop name.length with
      | first :: _, '>' :: rest => if first.isDigit then none else some rest
      | _, _ => none
    | _ => none
  | rest => some rest

def scan : Nat → Scan → List Char → Bool
  | 0, _, _ => false
  | _, s, [] => s.depth == 0
  | fuel + 1, s, c :: rest =>
    match c with
    | '(' =>
      match groupOpening? rest with
      | some rest => scan fuel ⟨false, s.depth + 1⟩ rest
      | none => false
    | ')' => s.depth > 0 && scan fuel ⟨true, s.depth - 1⟩ rest
    | '|' => scan fuel ⟨false, s.depth⟩ rest
    | '*' | '+' | '?' => s.repeatable && scan fuel s rest
    | '{' => false
    | '[' =>
      match class? (rest.length + 1) 0 true (if rest.head? == some '^' then rest.tail else rest) with
      | some rest => scan fuel ⟨true, s.depth⟩ rest
      | none => false
    | '\\' =>
      match escape? rest with
      | some rest => scan fuel ⟨true, s.depth⟩ rest
      | none => false
    | _ => scan fuel ⟨true, s.depth⟩ rest

def isWellFormed (text : List Char) : Bool := scan (text.length + 1) ⟨false, 0⟩ text

/-- Whether a text is a number with a plus sign in front, which no expression may begin with. -/
def isSigned : List Char → Bool
  | '+' :: text =>
    ["inf", "infinity", "nan"].contains (String.ofList (text.map Char.toLower)) || isDecimal text
  | _ => false
where
  isDecimal (text : List Char) : Bool :=
    let whole := text.takeWhile Char.isDigit
    let rest := text.drop whole.length
    let fraction := if rest.head? == some '.' then rest.tail.takeWhile Char.isDigit else []
    let rest := if rest.head? == some '.' then rest.drop (fraction.length + 1) else rest
    !(whole.isEmpty && fraction.isEmpty) &&
      match rest with
      | [] => true
      | c :: rest =>
        let digits := match rest with
          | '+' :: digits | '-' :: digits => digits
          | digits => digits
        (c == 'e' || c == 'E') && !digits.isEmpty && digits.all Char.isDigit

end BuildRunner.Pattern
