import BuildRunner.Sandbox.Number

/-! Conversions of a format: how an integer, a number or a text is written with flags, a width and
a precision. -/
namespace BuildRunner.Sandbox

structure Conversion where
  flags : List Char
  width : Nat
  precision : Option Nat

namespace Conversion

def has (c : Conversion) (flag : Char) : Bool := c.flags.contains flag

def padding (n : Nat) (c : Char) : List Char := List.replicate n c

/-- Fills up to the width, on the right with a dash among the flags. -/
def pad (c : Conversion) (text : List Char) : List Char :=
  let fill := padding (c.width - text.length) ' '
  if c.has '-' then text ++ fill else fill ++ text

def padNumber (c : Conversion) (zeros : Bool) (mark digits : List Char) : List Char :=
  if zeros && c.has '0' && !c.has '-' then
    mark ++ padding (c.width - mark.length - digits.length) '0' ++ digits
  else c.pad (mark ++ digits)

def signMark (c : Conversion) (negative : Bool) : List Char :=
  if negative then ['-'] else if c.has '+' then ['+'] else if c.has ' ' then [' '] else []

/-- As many zeros in front as the precision asks for. No digits at all are left of a zero whose
precision is zero. -/
def withZeros (c : Conversion) (digits : List Char) : List Char :=
  match c.precision with
  | some 0 => if digits == ['0'] then [] else digits
  | some n => padding (n - digits.length) '0' ++ digits
  | none => digits

def integer (c : Conversion) (n : Int) : List Char :=
  c.padNumber c.precision.isNone (c.signMark (n < 0)) (c.withZeros (Nat.toDigits 10 n.natAbs))

def natural (c : Conversion) (base : Nat) (upper : Bool) (n : Nat) : List Char :=
  let digits := Nat.toDigits base n
  let digits := c.withZeros (if upper then digits.map Char.toUpper else digits)
  let digits := if base == 8 && c.has '#' && digits.head? != some '0' then '0' :: digits else digits
  let mark := if base == 16 && c.has '#' && n != 0 then ['0', if upper then 'X' else 'x'] else []
  c.padNumber c.precision.isNone mark digits

def text (c : Conversion) (s : List Char) : List Char :=
  c.pad (match c.precision with | some n => s.take n | none => s)

def withPoint (c : Conversion) (places : Nat) (n : Nat) : List Char :=
  let digits := Nat.toDigits 10 n
  let digits := padding (places + 1 - digits.length) '0' ++ digits
  let whole := digits.take (digits.length - places)
  if places == 0 then (if c.has '#' then whole ++ ['.'] else whole)
  else whole ++ '.' :: digits.drop (digits.length - places)

def fixedDigits (c : Conversion) (places num den : Nat) : List Char :=
  c.withPoint places (Real.roundDiv (num * Nat.pow 10 places) den)

def leadingPower (num den : Nat) : Int :=
  if num == 0 then 0
  else if num ≥ den then ((Nat.toDigits 10 (num / den)).length : Int) - 1
  else
    let short := ((Nat.toDigits 10 (den / num)).length : Int)
    -- `den / num` has `short` digits, so the power lies next to `-short`
    if num * Nat.pow 10 (short - 1).toNat ≥ den then -(short - 1) else -short

/-- The digits of a fraction from its first one, rounded to a count of places after it, and the
power of ten of the first. -/
def scientificDigits (places num den : Nat) : Nat × Int :=
  let power := leadingPower num den
  let rounded (power : Int) : Nat :=
    let shift := (places : Int) - power
    if shift ≥ 0 then Real.roundDiv (num * Nat.pow 10 shift.toNat) den
    else Real.roundDiv num (den * Nat.pow 10 (-shift).toNat)
  let n := rounded power
  if n ≥ Nat.pow 10 (places + 1) then (rounded (power + 1), power + 1) else (n, power)

def exponentMark (letter : Char) (power : Int) : List Char :=
  let digits := Nat.toDigits 10 power.natAbs
  letter :: (if power < 0 then '-' else '+') ::
    (if digits.length < 2 then '0' :: digits else digits)

def trimZeros (digits : List Char) : List Char :=
  if digits.contains '.' then
    let short := (digits.reverse.dropWhile (· == '0'))
    (if short.head? == some '.' then short.tail else short).reverse
  else digits

/-- The shortest of the fixed and the scientific form, to a count of digits that matter. -/
def generalDigits (c : Conversion) (num den : Nat) : List Char :=
  let count := max 1 (c.precision.getD 6)
  let (n, power) := scientificDigits (count - 1) num den
  let trim (digits : List Char) := if c.has '#' then digits else trimZeros digits
  if power < -4 || power ≥ count then trim (c.withPoint (count - 1) n) ++ exponentMark 'e' power
  else trim (c.fixedDigits ((count : Int) - 1 - power).toNat num den)

/-- Digits in base sixteen of a significand of some bits, the first group of them before the point,
and the power of two that goes with them. -/
def hexDigits (c : Conversion) (leadBits bits significand : Nat) (exponent : Int) : List Char :=
  if significand == 0 then
    let zeros := padding (c.precision.getD 0) '0'
    ['0'] ++ (if zeros.isEmpty && !c.has '#' then [] else ['.']) ++ zeros ++ "p+0".toList
  else
    let shift := bits - Real.bits significand
    let significand := significand <<< shift
    let exponent := exponent - (shift : Int)
    let tail := bits - leadBits
    let full := (tail + 3) / 4
    let scaled := significand <<< (full * 4 - tail)
    let places := (c.precision.getD full)
    let n := if places ≥ full then scaled <<< (4 * (places - full))
      else Real.roundDiv scaled (1 <<< (4 * (full - places)))
    let lead := n >>> (4 * places)
    let rest := Nat.toDigits 16 (n % (1 <<< (4 * places)))
    let rest := if places == 0 then [] else padding (places - rest.length) '0' ++ rest
    let rest := if c.precision.isNone then (rest.reverse.dropWhile (· == '0')).reverse else rest
    let point := if rest.isEmpty && !c.has '#' then [] else ['.']
    let power := exponent + (tail : Int)
    Nat.toDigits 16 lead ++ point ++ rest ++ ['p', if power < 0 then '-' else '+'] ++
      Nat.toDigits 10 power.natAbs

/-- A number by the letter of its conversion. In base sixteen the form depends on how many bits the
significand has. -/
def real (c : Conversion) (letter : Char) (bits : Nat) (x : Real) : List Char :=
  let shape := letter.toLower
  let mark := c.signMark x.isNegative
  let written :=
    match x with
    | .infinite _ => { c with flags := c.flags.filter (· != '0') }.pad (mark ++ "inf".toList)
    | .nan _ => { c with flags := c.flags.filter (· != '0') }.pad (mark ++ "nan".toList)
    | .finite _ significand exponent =>
      let (num, den) := Real.fraction significand exponent
      match shape with
      | 'f' => c.padNumber true mark (c.fixedDigits (c.precision.getD 6) num den)
      | 'e' =>
        let places := c.precision.getD 6
        let (n, power) := scientificDigits places num den
        c.padNumber true mark (c.withPoint places n ++ exponentMark 'e' power)
      | 'g' => c.padNumber true mark (c.generalDigits num den)
      | _ =>
        let lead := if bits == Real.double then 1 else 4
        c.padNumber true (mark ++ ['0', 'x']) (c.hexDigits lead bits significand exponent)
  if letter.isUpper then written.map Char.toUpper else written

end Conversion
end BuildRunner.Sandbox
