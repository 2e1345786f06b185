import BuildRunner.Sandbox.Number

/-! Regular expressions of the basic and the extended kind. Of the matches that begin at a place the
longest counts. -/
namespace BuildRunner.Sandbox

inductive Member where
  | range (low high : Char)
  | named (test : Char → Bool)

inductive Regex where
  | empty
  | one (test : Char → Bool)
  | seq (first second : Regex)
  | either (first second : Regex)
  | group (number : Nat) (body : Regex)
  /-- At least a number of times, and at most another one if it is given. -/
  | times (least : Nat) (most : Option Nat) (body : Regex)
  /-- The text of a group once more. -/
  | same (number : Nat)
  /-- A place between two characters, by what stands before and after it. -/
  | place (test : Option Char → Option Char → Bool)

namespace Regex

/-! Matching -/

/-- A place in a text, and the bounds of the groups so far. -/
structure Spot where
  position : Nat
  groups : List (Nat × Nat × Nat)

def add (spots : List Spot) (spot : Spot) : List Spot :=
  if spots.any (·.position == spot.position) then spots else spots ++ [spot]

/-- Spots after one step more each, those that led on and are new. -/
def widen (step : Spot → List Spot) (known current : List Spot) : List Spot :=
  (current.flatMap step).foldl
    (fun found spot => if known.any (·.position == spot.position) then found else add found spot) []

/-- Steps without a bound, each to a new place. -/
def closure (step : Spot → List Spot) : Nat → List Spot → List Spot → List Spot
  | 0, known, _ => known
  | fuel + 1, known, current =>
    match widen step known current with
    | [] => known
    | next => closure step fuel (known ++ next) next

def repeatExactly (step : Spot → List Spot) : Nat → List Spot → List Spot
  | 0, spots => spots
  | n + 1, spots => repeatExactly step n ((spots.flatMap step).foldl add [])

def repeatUpTo (step : Spot → List Spot) : Nat → List Spot → List Spot → List Spot
  | 0, known, _ => known
  | n + 1, known, current =>
    match widen step known current with
    | [] => known
    | next => repeatUpTo step n (known ++ next) next

def isWordChar (c : Char) : Bool := c.isAlphanum || c == '_'

def ends (text : Array Char) : Regex → Spot → List Spot
  | empty, s => [s]
  | one test, s =>
    match text[s.position]? with
    | some c => if test c then [{ s with position := s.position + 1 }] else []
    | none => []
  | seq a b, s => ((ends text a s).flatMap (ends text b)).foldl add []
  | either a b, s => (ends text a s ++ ends text b s).foldl add []
  | group n body, s =>
    (ends text body s).map fun t =>
      { t with groups := (n, s.position, t.position) :: t.groups.filter (·.1 != n) }
  | times least most body, s =>
    let start := repeatExactly (ends text body) least [s]
    let all := match most with
      | some n => repeatUpTo (ends text body) (n - least) start start
      | none => closure (ends text body) (text.size + 2) start start
    all.mergeSort fun a b => a.position ≥ b.position
  | same n, s =>
    match s.groups.lookup n with
    | none => []
    | some (low, high) =>
      let part := text.extract low high
      if text.extract s.position (s.position + part.size) == part then
        [{ s with position := s.position + part.size }]
      else []
  | place test, s =>
    if test (if s.position == 0 then none else text[s.position - 1]?) text[s.position]? then [s]
    else []

def matchAt? (r : Regex) (text : Array Char) (start : Nat) : Option Spot :=
  (ends text r ⟨start, []⟩).foldl
    (fun best s =>
      match best with
      | some b => if s.position > b.position then some s else best
      | none => some s)
    none

def search? (r : Regex) (text : Array Char) : Nat → Nat → Option (Nat × Spot)
  | 0, _ => none
  | fuel + 1, start =>
    if start > text.size then none
    else
      match r.matchAt? text start with
      | some s => some (start, s)
      | none => search? r text fuel (start + 1)

def finds (r : Regex) (text : String) : Bool :=
  let chars := text.toList.toArray
  (search? r chars (chars.size + 2) 0).isSome

/-! Reading -/

def classes : List (String × (Char → Bool)) :=
  [("alpha", Char.isAlpha), ("digit", Char.isDigit), ("alnum", Char.isAlphanum),
   ("upper", Char.isUpper), ("lower", Char.isLower), ("space", Numeral.isSpace),
   ("blank", fun c => c == ' ' || c == '\t'),
   ("punct", fun c => '!' ≤ c && c ≤ '~' && !c.isAlphanum),
   ("print", fun c => ' ' ≤ c && c ≤ '~'), ("graph", fun c => '!' ≤ c && c ≤ '~'),
   ("cntrl", fun c => c.toNat < 32 || c.toNat == 127), ("xdigit", Numeral.isHex)]

/-- The text before a mark of two characters, and what follows it. -/
def upTo (a b : Char) : List Char → Option (List Char × List Char)
  | [] => none
  | [_] => none
  | c :: d :: rest =>
    if c == a && d == b then some ([], rest)
    else (upTo a b (d :: rest)).map fun (inside, after) => (c :: inside, after)

def unmatchedBracket : String := "Unmatched [, [^, [:, [., or [="

/-- One end of a range: a character, or one in a notation of its own. -/
def rangeEnd (text : List Char) : Except String (Char × List Char) :=
  match text with
  | '[' :: mark :: rest =>
    if mark == '.' || mark == '=' then
      match upTo mark ']' rest with
      | some ([c], rest) => .ok (c, rest)
      | some _ => .error "Invalid collation character"
      | none => .error unmatchedBracket
    else .ok ('[', mark :: rest)
  | c :: rest => .ok (c, rest)
  | [] => .error unmatchedBracket

/-- The members up to the closing bracket, which may stand first for itself. -/
def members : Nat → Bool → List Char → Except String (List Member × List Char)
  | 0, _, _ | _, _, [] => .error unmatchedBracket
  | fuel + 1, first, ']' :: rest =>
    if first then single fuel (']' :: rest) else .ok ([], rest)
  | fuel + 1, _, '[' :: ':' :: rest =>
    match upTo ':' ']' rest with
    | none => .error unmatchedBracket
    | some (name, rest) =>
      match classes.lookup (String.ofList name) with
      | none => .error "Invalid character class name"
      | some test => do
        let (more, rest) ← members fuel false rest
        return (.named test :: more, rest)
  | fuel + 1, _, text => single fuel text
where
  single (fuel : Nat) (text : List Char) : Except String (List Member × List Char) := do
    let (low, rest) ← rangeEnd text
    match rest with
    | '-' :: c :: after =>
      if c == ']' then
        let (more, rest) ← members fuel false rest
        return (.range low low :: more, rest)
      else
        let (high, rest) ← rangeEnd (c :: after)
        if high < low then throw "Invalid range end"
        let (more, rest) ← members fuel false rest
        return (.range low high :: more, rest)
    | _ =>
      let (more, rest) ← members fuel false rest
      return (.range low low :: more, rest)

def Member.holds (c : Char) : Member → Bool
  | .range low high => low ≤ c && c ≤ high
  | .named test => test c

def bracket (text : List Char) : Except String (Regex × List Char) := do
  let negated := text.head? == some '^'
  let (found, rest) ← members (2 * text.length + 4) true (if negated then text.tail else text)
  return (.one fun c => found.any (Member.holds c) != negated, rest)

def bounds (extended : Bool) (text : List Char) :
    Except String (Nat × Option Nat × List Char) := do
  let low := text.takeWhile Char.isDigit
  let rest := text.drop low.length
  let least := Numeral.valueOf 10 low
  let (most, rest) ← match rest with
    | ',' :: rest =>
      let high := rest.takeWhile Char.isDigit
      pure (if high.isEmpty then none else some (Numeral.valueOf 10 high), rest.drop high.length)
    | rest => if low.isEmpty then throw "Invalid preceding regular expression" else pure (some least, rest)
  let rest ← match extended, rest with
    | true, '}' :: rest => pure rest
    | false, '\\' :: '}' :: rest => pure rest
    | _, [] => throw (if extended then "Unmatched \x7b or \\\x7b" else "Unmatched \\\x7b")
    | _, _ => throw "Invalid content of \\\x7b\\\x7d"
  if most.any (· < least) || least > 32767 then throw "Invalid content of \\\x7b\\\x7d"
  return (least, most, rest)

def lineStart : Regex := .place fun before _ => before.isNone
def lineEnd : Regex := .place fun _ after => after.isNone

def special? (c : Char) : Option Regex :=
  let isWord (c : Option Char) : Bool := c.any isWordChar
  match c with
  | 'w' => some (.one isWordChar)
  | 'W' => some (.one (!isWordChar ·))
  | 's' => some (.one Numeral.isSpace)
  | 'S' => some (.one (!Numeral.isSpace ·))
  | 'b' => some (.place fun a b => isWord a != isWord b)
  | 'B' => some (.place fun a b => isWord a == isWord b)
  | '<' => some (.place fun a b => !isWord a && isWord b)
  | '>' => some (.place fun a b => isWord a && !isWord b)
  | '`' => some lineStart
  | '\'' => some lineEnd
  | _ => none

structure Reading where
  regex : Regex
  rest : List Char
  groups : Nat

def exact (ignoreCase : Bool) (c : Char) : Regex :=
  if ignoreCase then .one fun d => d.toLower == c.toLower else .one (· == c)

/-- Whether alternatives, or the group they stand in, end here. -/
def stops (extended : Bool) (depth : Nat) (text : List Char) : Bool :=
  match extended, text with
  | _, [] => true
  | true, '|' :: _ => true
  | true, ')' :: _ => depth > 0
  | false, '\\' :: '|' :: _ => true
  | false, '\\' :: ')' :: _ => true
  | _, _ => false

/-- Repetition marks after an expression. -/
def repetitions (extended : Bool) : Nat → Regex → List Char → Except String (Regex × List Char)
  | 0, r, text => .ok (r, text)
  | fuel + 1, r, text =>
    match extended, text with
    | _, '*' :: rest => repetitions extended fuel (.times 0 none r) rest
    | true, '+' :: rest | false, '\\' :: '+' :: rest => repetitions extended fuel (.times 1 none r) rest
    | true, '?' :: rest | false, '\\' :: '?' :: rest => repetitions extended fuel (.times 0 (some 1) r) rest
    | true, '{' :: rest | false, '\\' :: '{' :: rest => do
      let (least, most, rest) ← bounds extended rest
      repetitions extended fuel (.times least most r) rest
    | _, _ => .ok (r, text)

mutual

def alternatives (extended ignoreCase : Bool) : Nat → Nat → Nat → List Char → Except String Reading
  | 0, _, _, _ => .error "Regular expression too big"
  | fuel + 1, depth, groups, text => do
    let first ← sequence extended ignoreCase fuel depth groups true .empty text
    match extended, first.rest with
    | true, '|' :: rest | false, '\\' :: '|' :: rest =>
      let second ← alternatives extended ignoreCase fuel depth first.groups rest
      return { second with regex := .either first.regex second.regex }
    | _, _ => return first

/-- Pieces one after the other. At the start some marks stand for themselves. -/
def sequence (extended ignoreCase : Bool) :
    Nat → Nat → Nat → Bool → Regex → List Char → Except String Reading
  | 0, _, _, _, _, _ => .error "Regular expression too big"
  | fuel + 1, depth, groups, start, before, text => do
    if stops extended depth text then
      if !extended && depth == 0 && text.head?.isSome && text.tail.head? == some ')' then
        throw "Unmatched ) or \\)"
      return ⟨before, text, groups⟩
    let continueWith (r : Regex) (groups : Nat) (rest : List Char) : Except String Reading := do
      let (r, rest) ← repetitions extended (rest.length + 1) r rest
      sequence extended ignoreCase fuel depth groups false (.seq before r) rest
    let anchor (r : Regex) (start : Bool) (rest : List Char) : Except String Reading :=
      sequence extended ignoreCase fuel depth groups start (.seq before r) rest
    match text with
    | [] => return ⟨before, [], groups⟩
    | '.' :: rest => continueWith (.one fun c => c != '\x00') groups rest
    | '[' :: rest =>
      let (r, rest) ← bracket rest
      continueWith r groups rest
    | '*' :: rest =>
      if start then
        if extended then sequence extended ignoreCase fuel depth groups true before rest
        else continueWith (exact ignoreCase '*') groups rest
      else continueWith (exact ignoreCase '*') groups rest
    | '^' :: rest =>
      if extended || start then anchor lineStart true rest
      else continueWith (exact ignoreCase '^') groups rest
    | '$' :: rest =>
      if extended || stops extended 1 rest then anchor lineEnd false rest
      else continueWith (exact ignoreCase '$') groups rest
    | '\\' :: c :: rest =>
      if !extended && c == '(' then openGroup fuel depth groups before rest
      else if !extended && c == '{' && start then throw "Invalid preceding regular expression"
      else if '1' ≤ c && c ≤ '9' then
        let n := Numeral.digitOf c
        if n > groups then throw "Invalid back reference"
        continueWith (.same n) groups rest
      else
        match special? c with
        | some r => continueWith r groups rest
        | none => continueWith (exact ignoreCase c) groups rest
    | ['\\'] => throw "Trailing backslash"
    | '(' :: rest =>
      if extended then openGroup fuel depth groups before rest
      else continueWith (exact ignoreCase '(') groups rest
    | c :: rest =>
      if extended && start && (c == '+' || c == '?') then
        sequence extended ignoreCase fuel depth groups true before rest
      else if extended && start && c == '{' then throw "Invalid preceding regular expression"
      else continueWith (exact ignoreCase c) groups rest
where
  openGroup (fuel depth groups : Nat) (before : Regex) (rest : List Char) : Except String Reading := do
    let number := groups + 1
    let inside ← alternatives extended ignoreCase fuel (depth + 1) number rest
    let rest ← match extended, inside.rest with
      | true, ')' :: rest | false, '\\' :: ')' :: rest => pure rest
      | _, _ => throw "Unmatched ( or \\("
    let (r, rest) ← repetitions extended (rest.length + 1) (.group number inside.regex) rest
    sequence extended ignoreCase fuel depth inside.groups false (.seq before r) rest

end

def parse (extended ignoreCase : Bool) (text : String) : Except String (Regex × Nat) := do
  let found ← alternatives extended ignoreCase (2 * text.length + 8) 0 0 text.toList
  if !found.rest.isEmpty then throw "Unmatched ) or \\)"
  return (found.regex, found.groups)

end Regex
end BuildRunner.Sandbox
