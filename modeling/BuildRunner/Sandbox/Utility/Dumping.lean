import BuildRunner.Sandbox.Format
import BuildRunner.Sandbox.Utility.Reading

/-! Octets of files in lines, as numbers or as characters, with the place of each line. -/
namespace BuildRunner.Sandbox.Utility
namespace Dump
open Act Text

inductive Look where
  | named
  | character
  | signed
  | unsigned
  | octal
  | hexadecimal
  | real
deriving DecidableEq

/-- How octets are shown: in which form, how many together, and whether characters stand beside. -/
structure View where
  look : Look
  size : Nat
  isBeside : Bool

/-- Digits that the greatest number of a size needs. -/
def digitsOf (base size : Nat) : Nat := (Nat.toDigits base ((1 <<< (8 * size)) - 1)).length

def View.width (v : View) : Nat :=
  match v.look with
  | .named | .character => 3
  | .octal => digitsOf 8 v.size
  | .hexadecimal => 2 * v.size
  | .unsigned => digitsOf 10 v.size
  | .signed => (Nat.toDigits 10 (1 <<< (8 * v.size - 1))).length + 1
  | .real => if v.size == 4 then 15 else 24

def controlNames : List String :=
  ["nul", "soh", "stx", "etx", "eot", "enq", "ack", "bel", "bs", "ht", "nl", "vt", "ff", "cr", "so", "si", "dle",
   "dc1", "dc2", "dc3", "dc4", "nak", "syn", "etb", "can", "em", "sub", "esc", "fs", "gs", "rs", "us", "sp"]

def filled (width : Nat) (fill : Char) (digits : List Char) : List Char :=
  List.replicate (width - digits.length) fill ++ digits

def characterText (n : Nat) : List Char :=
  match n with
  | 0 => "\\0".toList
  | 7 => "\\a".toList
  | 8 => "\\b".toList
  | 9 => "\\t".toList
  | 10 => "\\n".toList
  | 11 => "\\v".toList
  | 12 => "\\f".toList
  | 13 => "\\r".toList
  | n => if 32 ≤ n && n < 127 then [Char.ofNat n] else filled 3 '0' (Nat.toDigits 8 n)

def realOf (size n : Nat) : Real :=
  let (fractionBits, exponentBits) := if size == 4 then (23, 8) else (52, 11)
  let negative := n >>> (fractionBits + exponentBits) != 0
  let exponent := (n >>> fractionBits) % (1 <<< exponentBits)
  let fraction := n % (1 <<< fractionBits)
  let bias : Int := (1 <<< (exponentBits - 1) : Nat) - 1
  if exponent + 1 == 1 <<< exponentBits then (if fraction == 0 then .infinite negative else .nan negative)
  else if exponent == 0 then .finite negative fraction (1 - bias - fractionBits)
  else .finite negative (fraction + (1 <<< fractionBits)) ((exponent : Int) - bias - fractionBits)

/-- The shortest digits that read back as the number. -/
def realText (x : Real) : List Char :=
  let bits := match x with
    | .finite _ significand _ => max 1 (Real.bits significand)
    | _ => 1
  let written (places : Nat) : List Char := Conversion.real ⟨[], 0, some places⟩ 'g' Real.double x
  let same (text : List Char) : Bool :=
    match Numeral.real? bits text with
    | some (y, _) => Real.cmp x y == .eq
    | none => true
  match (((List.range 18).drop 1).map written).find? same with
  | some text => text
  | none => written 17

def valueText (v : View) (n : Nat) : List Char :=
  match v.look with
  | .character => characterText n
  | .named =>
    let n := n % 128
    if n == 127 then "del".toList
    else match controlNames[n]? with
      | some name => name.toList
      | none => [Char.ofNat n]
  | .octal => filled v.width '0' (Nat.toDigits 8 n)
  | .hexadecimal => filled v.width '0' (Nat.toDigits 16 n)
  | .unsigned => Nat.toDigits 10 n
  | .signed => (toString (if n ≥ 1 <<< (8 * v.size - 1) then (n : Int) - (1 <<< (8 * v.size) : Nat) else n)).toList
  | .real => realText (realOf v.size n)

/-- The numbers that octets make in groups of a size, zeros in place of those that lack. -/
def values (size : Nat) (big : Bool) : Nat → List UInt8 → List Nat
  | 0, _ => []
  | _, [] => []
  | fuel + 1, octets =>
    let group := octets.take size
    let group := group ++ List.replicate (size - group.length) 0
    let number := (if big then group else group.reverse).foldl (fun n b => n * 256 + b.toNat) 0
    number :: values size big fuel (octets.drop size)

/-- One line in one view. All views of a block are as wide as the widest of them. -/
def lineText (v : View) (perLine whole : Nat) (big : Bool) (octets : List UInt8) : List Char :=
  let fields := perLine / v.size
  let pad := whole - v.width * fields
  let texts := (values v.size big (octets.length + 1) octets).map (valueText v)
  let placed := ((List.range texts.length).zip texts).flatMap fun (i, text) =>
    let before := pad * (fields - i) / fields
    let after := pad * (fields - i - 1) / fields
    filled (before - after + v.width) ' ' text
  let missing := fields - texts.length
  let beside :=
    if !v.isBeside then []
    else
      List.replicate (missing * v.width + pad * missing / fields) ' ' ++ "  >".toList ++
        octets.map (fun b => if 32 ≤ b && b < 127 then Char.ofNat b.toNat else '.') ++ ['<']
  placed ++ beside

inductive Radix where
  | base (n width : Nat)
  | none
deriving DecidableEq

def addressText (r : Radix) (place : Nat) : List Char :=
  match r with
  | .none => []
  | .base n width => filled width '0' (Nat.toDigits n place)

structure Plan where
  views : List View
  radix : Radix
  perLine : Nat
  showsAll : Bool
  big : Bool

/-- All lines. A line like the one before it is left out, with a star for all of them together. -/
def lines (p : Plan) (start : Nat) (data : ByteArray) : List (List Char) :=
  let whole := (p.views.map fun v => (v.width + 1) * (p.perLine / v.size)).foldl max 0
  let count := (data.size + p.perLine - 1) / p.perLine
  let block (i : Nat) : ByteArray := data.extract (i * p.perLine) ((i + 1) * p.perLine)
  let repeats (i : Nat) : Bool :=
    !p.showsAll && i > 0 && (i + 1) * p.perLine ≤ data.size && (block i).data == (block (i - 1)).data
  (List.range count).flatMap fun i =>
    if repeats i then
      if repeats (i - 1) then [] else [['*']]
    else
      let octets := (block i).toList
      let address := addressText p.radix (start + i * p.perLine)
      let blank := List.replicate address.length ' '
      ((List.range p.views.length).zip p.views).map fun (k, v) =>
        (if k == 0 then address else blank) ++ lineText v p.perLine whole p.big octets

/-! Arguments -/

def sizeLetter? (look : Look) (c : Char) : Option Nat :=
  if look == .real then
    match c with
    | 'F' => some 4
    | 'D' => some 8
    | _ => none
  else
    match c with
    | 'C' => some 1
    | 'S' => some 2
    | 'I' => some 4
    | 'L' => some 8
    | _ => none

def types (text : String) : Nat → List Char → Act (List View)
  | 0, _ => return []
  | _, [] => return []
  | fuel + 1, c :: rest => do
    let beside (rest : List Char) : Bool × List Char :=
      if rest.head? == some 'z' then (true, rest.tail) else (false, rest)
    let sized (look : Look) (standard : Nat) : Act (List View) := do
      match rest.head?.bind (sizeLetter? look) with
      | some size =>
        let (isBeside, after) := beside rest.tail
        return ⟨look, size, isBeside⟩ :: (← types text fuel after)
      | none =>
        let digits := rest.takeWhile Char.isDigit
        let size := if digits.isEmpty then standard else Numeral.valueOf 10 digits
        let isKnown := if look == .real then [4, 8].contains size else [1, 2, 4, 8].contains size
        if !isKnown then
          fail 1 ("invalid type string " ++ Quotation.quoted text ++ ";\nthis system doesn't provide a " ++
            toString size ++ "-byte " ++ (if look == .real then "floating point" else "integral") ++ " type")
        let (isBeside, after) := beside (rest.drop digits.length)
        return ⟨look, size, isBeside⟩ :: (← types text fuel after)
    match c with
    | 'a' =>
      let (isBeside, after) := beside rest
      return ⟨.named, 1, isBeside⟩ :: (← types text fuel after)
    | 'c' =>
      let (isBeside, after) := beside rest
      return ⟨.character, 1, isBeside⟩ :: (← types text fuel after)
    | 'd' => sized .signed 4
    | 'u' => sized .unsigned 4
    | 'o' => sized .octal 4
    | 'x' => sized .hexadecimal 4
    | 'f' => sized .real 8
    | _ => fail 1 ("invalid character '" ++ c.toString ++ "' in type string " ++ Quotation.quoted text)

/-- Switches for common views. -/
def shortViews : List (String × View) :=
  [("a", ⟨.named, 1, false⟩), ("b", ⟨.octal, 1, false⟩), ("c", ⟨.character, 1, false⟩),
   ("d", ⟨.unsigned, 2, false⟩), ("D", ⟨.unsigned, 4, false⟩), ("e", ⟨.real, 8, false⟩),
   ("f", ⟨.real, 4, false⟩), ("F", ⟨.real, 8, false⟩), ("h", ⟨.hexadecimal, 2, false⟩),
   ("H", ⟨.hexadecimal, 4, false⟩), ("i", ⟨.signed, 4, false⟩), ("I", ⟨.signed, 8, false⟩),
   ("l", ⟨.signed, 8, false⟩), ("L", ⟨.signed, 8, false⟩), ("o", ⟨.octal, 2, false⟩),
   ("O", ⟨.octal, 4, false⟩), ("B", ⟨.octal, 2, false⟩), ("s", ⟨.signed, 2, false⟩),
   ("x", ⟨.hexadecimal, 2, false⟩), ("X", ⟨.hexadecimal, 4, false⟩)]

def switches : List Switch :=
  shortViews.map (fun (key, _) => ⟨key, key.toList, [], .plain⟩) ++
    [.value 'A' "address-radix", .value 'j' "skip-bytes", .value 'N' "read-bytes", .value 't' "format",
     .flag 'v' "output-duplicates", .letter 'w' "width" .optional, .letter 'S' "strings" .optional,
     .word "endian" .required, .word "traditional" .plain]

def count? (text : String) : Option Nat :=
  match Numeral.integer? text.toList with
  | some (n, rest) => if n < 0 then none else (unit? (String.ofList rest)).map (n.toNat * ·)
  | none => none

def run : Act Unit := do
  let a ← readArguments 1 switches
  let count (key : String) : Act (Option Nat) := do
    match a.get? key with
    | none => return none
    | some text =>
      match count? text with
      | some n => return some n
      | none => fail 1 ("invalid -" ++ key ++ " argument " ++ Quotation.quoted text)
  let radix ← match a.get? "A" with
    | none => pure (Radix.base 8 7)
    | some text =>
      match text.toList.head? with
      | some 'o' => pure (.base 8 7)
      | some 'd' => pure (.base 10 7)
      | some 'x' => pure (.base 16 6)
      | some 'n' => pure .none
      | c => fail 1 ("invalid output address radix '" ++ ((c.map Char.toString).getD "") ++
          "'; it must be one character from [doxn]")
  let skipped ← count "j"
  let limit ← count "N"
  let views ← a.switches.flatMapM fun (key, value) => do
    if key == "t" then types value (value.length + 1) value.toList
    else return ((shortViews.lookup key).map fun v => [v]).getD []
  let views := if views.isEmpty then [⟨.octal, 2, false⟩] else views
  let step := (views.map View.size).foldl Nat.lcm 1
  let perLine ← match a.get? "w" with
    | none => pure (max step (16 / step * step))
    | some "" => pure 32
    | some text =>
      match Numeral.natural? text with
      | none => fail 1 ("invalid -w argument " ++ Quotation.quoted text)
      | some n =>
        if n == 0 || n % step != 0 then
          complain ("warning: invalid width " ++ toString n ++ "; using " ++ toString step ++ " instead")
          pure step
        else pure n
  -- a place to start at may stand after the name of the file
  let place? (text : String) : Option Nat :=
    if text.startsWith "+" then
      let digits := (text.drop 1).toString
      if !digits.isEmpty && digits.all Numeral.isOctal then some (Numeral.valueOf 8 digits.toList) else none
    else none
  let (operands, skipped) := match a.operands with
    | [path, last] => match place? last with
      | some n => ([path], some n)
      | none => (a.operands, skipped)
    | operands => (operands, skipped)
  let parts ← (if operands.isEmpty then ["-"] else operands).filterMapM fun path => do
    match ← contents path with
    | .ok data => return some data
    | .error fault =>
      complainAbout path fault
      return if fault == .isDirectory then some .empty else none
  if parts.isEmpty then return
  let data := parts.foldl (· ++ ·) ByteArray.empty
  let start := skipped.getD 0
  if start > data.size then fail 1 "cannot skip past end of combined input"
  let data := data.extract start (match limit with | some n => start + n | none => data.size)
  let p : Plan := ⟨views, radix, perLine, a.has "v", a.get? "endian" == some "big"⟩
  (lines p start data).forM fun line => printLine (String.ofList line)
  if radix != .none then printLine (String.ofList (addressText radix (start + data.size)))

end Dump
end BuildRunner.Sandbox.Utility
