/-! Numbers as programs read and write them: integers in a fixed width, and binary fractions of a
fixed precision. All arithmetic is exact; what is rounded goes to the nearest, and from half way to
the even neighbour. -/
namespace BuildRunner.Sandbox

/-- A number with a binary point, or one of the values beside these. -/
inductive Real where
  | finite (negative : Bool) (significand : Nat) (exponent : Int)
  | infinite (negative : Bool)
  | nan (negative : Bool)
deriving Repr, Inhabited

namespace Real

/-- Bits of a significand: of common and of extended precision. -/
def double : Nat := 53
def extended : Nat := 64

def isNegative : Real → Bool
  | finite n _ _ | infinite n | nan n => n

def roundDiv (num den : Nat) : Nat :=
  let q := num / den
  let twice := 2 * (num % den)
  if twice > den || (twice == den && q % 2 == 1) then q + 1 else q

def bits (n : Nat) : Nat := if n == 0 then 0 else n.log2 + 1

/-- A quotient rounded to a number of bits. -/
def ofQuotient (precision : Nat) (negative : Bool) (num den : Nat) : Real :=
  if num == 0 then finite negative 0 0
  else
    let shift : Int := (precision : Int) - ((bits num : Int) - (bits den : Int))
    let scaled (shift : Int) : Nat :=
      if shift ≥ 0 then roundDiv (num <<< shift.toNat) den
      else roundDiv num (den <<< (-shift).toNat)
    let exact (shift : Int) : Nat :=
      if shift ≥ 0 then (num <<< shift.toNat) / den else num / (den <<< (-shift).toNat)
    let shift := if bits (exact shift) > precision then shift - 1 else shift
    finite negative (scaled shift) (-shift)

def ofNat (n : Nat) : Real := finite false n 0

def ofInt (n : Int) : Real := finite (n < 0) n.natAbs 0

def fraction (significand : Nat) (exponent : Int) : Nat × Nat :=
  if exponent ≥ 0 then (significand <<< exponent.toNat, 1)
  else (significand, 1 <<< (-exponent).toNat)

def signed (negative : Bool) (n : Nat) : Int := if negative then -(n : Int) else n

def add (precision : Nat) : Real → Real → Real
  | finite n s e, finite n' s' e' =>
    let low := min e e'
    let sum := signed n (s <<< (e - low).toNat) + signed n' (s' <<< (e' - low).toNat)
    let (num, den) := fraction sum.natAbs low
    ofQuotient precision (sum < 0) num den
  | finite .., other => other
  | other, _ => other

def mul (precision : Nat) : Real → Real → Real
  | finite n s e, finite n' s' e' =>
    let (num, den) := fraction (s * s') (e + e')
    ofQuotient precision (n != n') num den
  | finite .., other => other
  | other, _ => other

/-- How two numbers compare; what is no number comes before all others. -/
def cmp : Real → Real → Ordering
  | nan _, nan _ => .eq
  | nan _, _ => .lt
  | _, nan _ => .gt
  | infinite n, infinite n' => compare n' n
  | infinite n, _ => if n then .lt else .gt
  | _, infinite n => if n then .gt else .lt
  | finite n s e, finite n' s' e' =>
    let low := min e e'
    compare (signed n (s <<< (e - low).toNat)) (signed n' (s' <<< (e' - low).toNat))

def isZero : Real → Bool
  | finite _ s _ => s == 0
  | _ => false

def truncate : Real → Int
  | finite n s e => let (num, den) := fraction s e; signed n (num / den)
  | _ => 0

end Real

namespace Numeral

def digitOf (c : Char) : Nat :=
  if c.isDigit then c.toNat - '0'.toNat
  else if 'a' ≤ c.toLower && c.toLower ≤ 'z' then c.toLower.toNat - 'a'.toNat + 10
  else 99

def isHex (c : Char) : Bool := digitOf c < 16

def isOctal (c : Char) : Bool := '0' ≤ c && c ≤ '7'

def isSpace (c : Char) : Bool := c == ' ' || (9 ≤ c.toNat && c.toNat ≤ 13)

def valueOf (base : Nat) (digits : List Char) : Nat :=
  digits.foldl (fun n c => n * base + digitOf c) 0

def sign : List Char → Bool × List Char
  | '-' :: rest => (true, rest)
  | '+' :: rest => (false, rest)
  | rest => (false, rest)

/-- An integer after blanks and a sign, in the base that its first digits show, and the rest of the
text; nothing if there are no digits. -/
def integer? (text : List Char) : Option (Int × List Char) :=
  let (negative, rest) := sign (text.dropWhile isSpace)
  let digits (base : Nat) (rest : List Char) : Option (Int × List Char) :=
    let found := rest.takeWhile fun c => digitOf c < base
    if found.isEmpty then none
    else some (Real.signed negative (valueOf base found), rest.drop found.length)
  match rest with
  | '0' :: x :: c :: more =>
    if (x == 'x' || x == 'X') && isHex c then digits 16 (c :: more) else digits 8 rest
  | '0' :: _ => digits 8 rest
  | _ => digits 10 rest

def decimal? (text : List Char) : Option (Int × List Char) :=
  let (negative, rest) := sign (text.dropWhile isSpace)
  let found := rest.takeWhile Char.isDigit
  if found.isEmpty then none
  else some (Real.signed negative (valueOf 10 found), rest.drop found.length)

def natural? (text : String) : Option Nat :=
  let digits := text.toList
  if digits.isEmpty || !digits.all Char.isDigit then none else some (valueOf 10 digits)

def exponent (isMark : Char → Bool) (text : List Char) : Int × List Char :=
  match text with
  | c :: rest =>
    if isMark c then
      let (negative, rest) := sign rest
      let digits := rest.takeWhile Char.isDigit
      if digits.isEmpty then (0, text)
      else (Real.signed negative (min (valueOf 10 digits) 99999), rest.drop digits.length)
    else (0, text)
  | [] => (0, [])

def startsWithWord (word : String) (text : List Char) : Bool :=
  (text.take word.length).map Char.toLower == word.toList

/-- A number after blanks and a sign, rounded to a number of bits, and the rest of the text. -/
def real? (precision : Nat) (text : List Char) : Option (Real × List Char) :=
  let (negative, rest) := sign (text.dropWhile isSpace)
  if startsWithWord "infinity" rest then some (.infinite negative, rest.drop 8)
  else if startsWithWord "inf" rest then some (.infinite negative, rest.drop 3)
  else if startsWithWord "nan" rest then some (.nan negative, rest.drop 3)
  else
    let hex :=
      match rest with
      | '0' :: x :: more =>
        if x == 'x' || x == 'X' then
          let whole := more.takeWhile isHex
          let after := more.drop whole.length
          let part := if after.head? == some '.' then after.tail.takeWhile isHex else []
          if whole.isEmpty && part.isEmpty then none
          else
            let after := if after.head? == some '.' then after.tail.drop part.length else after
            let (power, after) := exponent (fun c => c == 'p' || c == 'P') after
            let (num, den) := Real.fraction (valueOf 16 (whole ++ part)) (power - 4 * part.length)
            some (Real.ofQuotient precision negative num den, after)
        else none
      | _ => none
    match hex with
    | some found => some found
    | none =>
      let whole := rest.takeWhile Char.isDigit
      let after := rest.drop whole.length
      let part := if after.head? == some '.' then after.tail.takeWhile Char.isDigit else []
      if whole.isEmpty && part.isEmpty then none
      else
        let after := if after.head? == some '.' then after.tail.drop part.length else after
        let (power, after) := exponent (fun c => c == 'e' || c == 'E') after
        let digits := valueOf 10 (whole ++ part)
        let power := power - part.length
        let value :=
          if digits == 0 then Real.finite negative 0 0
          else if power > 5000 then .infinite negative
          else if power < -20000 then .finite negative 0 0
          else if power ≥ 0 then Real.ofQuotient precision negative (digits * Nat.pow 10 power.toNat) 1
          else Real.ofQuotient precision negative digits (Nat.pow 10 (-power).toNat)
        some (value, after)

end Numeral

/-! Integers of 64 bits -/

namespace Word64

def greatest : Int := 9223372036854775807
def least : Int := -9223372036854775808
def size : Int := 18446744073709551616

/-- The integer of 64 bits that an integer becomes when higher bits are dropped. -/
def wrap (n : Int) : Int :=
  let r := n % size
  if r > greatest then r - size else r

/-- The same without a sign. -/
def unsigned (n : Int) : Nat := (n % size).toNat

end Word64
end BuildRunner.Sandbox
