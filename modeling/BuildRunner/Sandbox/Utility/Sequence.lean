import BuildRunner.Sandbox.Arguments
import BuildRunner.Sandbox.Format
import BuildRunner.Sandbox.Quotation

/-! Programs that make numbers and lines: sequences, prime factors, and a line without end. -/
namespace BuildRunner.Sandbox.Utility
open Act

def yes : Act Unit := do
  let given ← arguments
  let words := if given.head? == some "--" then given.tail else given
  let line := (if words.isEmpty then "y" else " ".intercalate words) ++ "\n"
  let count := 65536 / line.length + 1
  let block := Text.Octets.toByteArray (String.join (List.replicate count line))
  repeatWhile (Machine.endlessSize / block.size + 1) do
    if let some fault ← writeTo 1 block then fail 1 ("standard output: " ++ fault.reason)
    return true

namespace Seq

/-- A number as it was given: how wide it is written, and how many places it has after the point,
if these can be told. -/
structure Operand where
  value : Real
  width : Int
  places : Option Nat

def exponentOf (text : List Char) : Option (Int × Nat) :=
  let isMark (c : Char) := c == 'e' || c == 'E'
  match text.dropWhile (!isMark ·) with
  | [] => none
  | part@(_ :: digits) => some (((Numeral.decimal? digits).map (·.1)).getD 0, part.length)

def measure (text : List Char) (value : Real) : Operand :=
  let text := text.dropWhile fun c => Numeral.isSpace c || c == '+'
  let whole := text.takeWhile (· != '.')
  let pointed := text.contains '.'
  let finite := match value with | .finite .. => true | _ => false
  let plain : Operand := ⟨value, 0, if pointed || text.contains 'p' then none else some 0⟩
  if text.any (fun c => c == 'x' || c == 'X') || !finite then plain
  else
    let fraction := ((text.drop (whole.length + 1)).takeWhile fun c => c != 'e' && c != 'E').length
    let places : Nat := if pointed then fraction else 0
    let width : Int := text.length +
      (if !pointed then 0
        else if fraction == 0 then -1
        else if whole.isEmpty || !(whole.getLast?.any Char.isDigit) then 1 else 0)
    match exponentOf text with
    | none => ⟨value, width, some places⟩
    | some (power, length) =>
      let shifted : Nat := if power < 0 then places + power.natAbs else places - min places power.natAbs
      let width := width - length
      let width := if power < 0 then (if !pointed || fraction == 0 then width + 1 else width)
        else if pointed && shifted == 0 && fraction != 0 then width - 1 else width
      let more := if power < 0 then power.natAbs else power.natAbs - min fraction power.natAbs
      ⟨value, width + more, some shifted⟩

def operand (text : String) : Act Operand := do
  match Numeral.real? Real.extended text.toList with
  | some (.nan _, []) =>
    misused 1 ("invalid 'not-a-number' argument: " ++ Quotation.quoted text)
  | some (value, []) => return measure text.toList value
  | _ => misused 1 ("invalid floating point argument: " ++ Quotation.quoted text)

structure Layout where
  before : List Char
  conversion : Conversion
  letter : Char
  after : List Char

def Layout.write (l : Layout) (x : Real) : String :=
  String.ofList (l.before ++ l.conversion.real l.letter Real.extended x ++ l.after)

/-- Text without a conversion, in which a doubled percent sign stands for one. -/
def literalPart : Nat → List Char → List Char × List Char
  | 0, text => ([], text)
  | _, [] => ([], [])
  | fuel + 1, '%' :: '%' :: rest =>
    let (part, rest) := literalPart fuel rest
    ('%' :: part, rest)
  | _, '%' :: rest => ([], '%' :: rest)
  | fuel + 1, c :: rest =>
    let (part, rest) := literalPart fuel rest
    (c :: part, rest)

def layout (format : String) : Act Layout := do
  let shown := Quotation.quoted format
  let text := format.toList
  let (before, rest) := literalPart (text.length + 1) text
  match rest with
  | [] => fail 1 ("format " ++ shown ++ " has no % directive")
  | _ :: rest =>
    let flags := rest.takeWhile "-+#0 '".toList.contains
    let rest := rest.drop flags.length
    let width := rest.takeWhile Char.isDigit
    let rest := rest.drop width.length
    let (precision, rest) := match rest with
      | '.' :: rest =>
        let digits := rest.takeWhile Char.isDigit
        (some (Numeral.valueOf 10 digits), rest.drop digits.length)
      | rest => (none, rest)
    let rest := if rest.head? == some 'L' then rest.tail else rest
    match rest with
    | [] => fail 1 ("format " ++ shown ++ " ends in %")
    | letter :: rest =>
      if !"efgaEFGA".toList.contains letter then
        fail 1 ("format " ++ shown ++ " has unknown %" ++ letter.toString ++ " directive")
      let (after, rest) := literalPart (rest.length + 1) rest
      if !rest.isEmpty then fail 1 ("format " ++ shown ++ " has too many % directives")
      return ⟨before, ⟨flags, Numeral.valueOf 10 width, precision⟩, letter, after⟩

def defaultLayout (equalWidth : Bool) (first step last : Operand) : Layout :=
  let general : Layout := ⟨[], ⟨[], 0, none⟩, 'g', []⟩
  match first.places, step.places, last.places with
  | some a, some b, some c =>
    let places := max a b
    if equalWidth then
      let firstWidth := first.width + (places - a : Nat) + (if a == 0 && places > 0 then 1 else 0)
      let lastWidth := last.width + ((places : Int) - c) +
        (if c > 0 && places == 0 then -1 else if c == 0 && places > 0 then 1 else 0)
      ⟨[], ⟨['0'], (max firstWidth lastWidth).toNat, some places⟩, 'f', []⟩
    else ⟨[], ⟨[], 0, some places⟩, 'f', []⟩
  | _, _, _ => general

def passed (step x last : Real) : Bool :=
  if step.isNegative then x.cmp last == .lt else last.cmp x == .lt

/-- Numbers up to the last one. The number after it still counts if it is written like the last one
and unlike the number before. -/
def numbers (l : Layout) (first step last : Real) : Nat → Nat → Real → List String → List String
  | 0, _, _, done => done
  | fuel + 1, i, x, done =>
    let done := l.write x :: done
    let next := first.add Real.extended ((Real.ofNat i).mul Real.extended step)
    if passed step next last then
      let bare : Layout := { l with before := [], after := [] }
      let same := match Numeral.real? Real.extended (bare.write next).toList with
        | some (y, []) => y.cmp last == .eq
        | _ => false
      if same && bare.write next != bare.write x then l.write next :: done else done
    else numbers l first step last fuel (i + 1) next done

def naturals (step last : Nat) : Nat → Nat → List String → List String
  | 0, _, done => done
  | fuel + 1, n, done => if n > last then done else naturals step last fuel (n + step) (toString n :: done)

/-- Switches stand before the numbers, and a minus sign with a digit begins a number. -/
def splitSwitches : List String → List String × List String
  | [] => ([], [])
  | word :: rest =>
    match word.toList with
    | ['-', '-'] => ([], rest)
    | '-' :: c :: more =>
      if c == '.' || c.isDigit then ([], word :: rest)
      else if (more.isEmpty && (c == 's' || c == 'f')) ||
          word == "--separator" || word == "--format" then
        match rest with
        | [] => ([word], [])
        | value :: rest =>
          let (switches, operands) := splitSwitches rest
          (word :: value :: switches, operands)
      else
        let (switches, operands) := splitSwitches rest
        (word :: switches, operands)
    | _ => ([], word :: rest)

def switches : List Switch :=
  [.value 'f' "format", .value 's' "separator", .flag 'w' "equal-width"]

def isWhole (o : Operand) : Bool :=
  o.places == some 0 && !o.value.isNegative && (match o.value with | .finite .. => true | _ => false)

def run : Act Unit := do
  let (front, operands) := splitSwitches (← arguments)
  let a ← match Arguments.readAll switches false none front with
    | .ok a => pure a
    | .error refusal => misused 1 refusal
  if let extra :: _ := operands.drop 3 then
    misused 1 ("extra operand " ++ Quotation.quoted extra)
  let separator := (a.get? "s").getD "\n"
  let equalWidth := a.has "w"
  let given ← (a.get? "f").mapM layout
  if equalWidth && given.isSome then
    misused 1 "format string may not be specified when printing equal width strings"
  let one : Operand := ⟨.ofNat 1, 1, some 0⟩
  let (first, step, last) ← match operands with
    | [] => misused 1 "missing operand"
    | [last] => do pure (one, one, ← operand last)
    | [first, last] => do pure (← operand first, one, ← operand last)
    | first :: step :: last :: _ => do
      let first ← operand first
      let parsed ← operand step
      if parsed.value.isZero then
        misused 1 ("invalid Zero increment value: " ++ Quotation.quoted step)
      pure (first, parsed, ← operand last)
  let written :=
    if passed step.value first.value last.value then []
    else if given.isNone && !equalWidth && isWhole first && isWhole step &&
        (last.places == some 0 || last.value.cmp (.infinite false) == .eq) then
      let start := first.value.truncate.toNat
      let by_ := step.value.truncate.toNat
      match last.value with
      | .infinite _ => naturals by_ (start + by_ * 1000000) 150000 start []
      | value =>
        let stop := value.truncate.toNat
        naturals by_ stop ((stop - start) / by_ + 1) start []
    else
      let l := given.getD (defaultLayout equalWidth first step last)
      numbers l first.value step.value last.value 1000000 1 first.value []
  if !written.isEmpty then print (separator.intercalate written.reverse ++ "\n")

end Seq

namespace Factor

def factors : Nat → Nat → Nat → List Nat
  | 0, _, n => if n > 1 then [n] else []
  | fuel + 1, d, n =>
    if n ≤ 1 then []
    else if d * d > n then [n]
    else if n % d == 0 then d :: factors fuel d (n / d)
    else factors fuel (if d == 2 then 3 else d + 2) n

/-- Equal factors as powers. -/
def powers (factors : List Nat) : List String :=
  (factors.splitBy (· == ·)).map fun group =>
    let p := toString (group.headD 0)
    if group.length > 1 then p ++ "^" ++ toString group.length else p

def line (exponents : Bool) (text : String) : Act Unit := do
  let digits := (text.toList.dropWhile Numeral.isSpace)
  let digits := if digits.head? == some '+' then digits.tail else digits
  if digits.isEmpty || !digits.all Char.isDigit then
    complain (Quotation.quoted text ++ " is not a valid positive integer")
    atLeast 1
  else
    let n := Numeral.valueOf 10 digits
    let found := factors 4000000 2 n
    let shown := if exponents then powers found else found.map toString
    printLine (toString n ++ ":" ++ String.join (shown.map (" " ++ ·)))

def run : Act Unit := do
  let a ← readArguments 1 [.flag 'h' "exponents"]
  if a.operands.isEmpty then
    match ← readAll 0 with
    | .error fault => fail 1 ("error reading input: " ++ fault.reason)
    | .ok data =>
      let words := (Text.Octets.ofByteArray data).toList.splitOnP Numeral.isSpace
      (words.filter (!·.isEmpty)).forM fun w => line (a.has "h") (String.ofList w)
  else a.operands.forM (line (a.has "h"))

end Factor
end BuildRunner.Sandbox.Utility
