import BuildRunner.Sandbox.Utility.Reading

/-! Octets written with few characters: bits are taken in groups, and each group is a letter. -/
namespace BuildRunner.Sandbox.Utility
namespace Encode
open Act Text

/-- Letters for groups of bits. A whole number of octets makes a whole number of letters; what is
lacking at the end is filled up with equals signs if the code does so. -/
structure Code where
  bits : Nat
  letters : List Char
  isFilled : Bool
  foldsCase : Bool

def upper : List Char := "ABCDEFGHIJKLMNOPQRSTUVWXYZ".toList
def lower : List Char := "abcdefghijklmnopqrstuvwxyz".toList
def digits : List Char := "0123456789".toList

def code64 : Code := ⟨6, upper ++ lower ++ digits ++ ['+', '/'], true, false⟩
def code64Safe : Code := ⟨6, upper ++ lower ++ digits ++ ['-', '_'], true, false⟩
def code32 : Code := ⟨5, upper ++ "234567".toList, true, false⟩
def code32Hex : Code := ⟨5, digits ++ upper.take 22, true, false⟩
def code16 : Code := ⟨4, digits ++ upper.take 6, false, false⟩
def code2 : Code := ⟨1, ['0', '1'], false, false⟩

/-- How many octets, and how many letters for them, make a group. -/
def Code.octets (c : Code) : Nat := if c.bits == 6 then 3 else if c.bits == 5 then 5 else 1

def Code.width (c : Code) : Nat := 8 * c.octets / c.bits

/-- The letters for the octets of one group. -/
def group (c : Code) (octets : List UInt8) : List Char :=
  let number := (octets ++ List.replicate (c.octets - octets.length) 0).foldl (fun (n : Nat) (b : UInt8) => n * 256 + b.toNat) 0
  let count := (8 * octets.length + c.bits - 1) / c.bits
  let letter (i : Nat) : Char := c.letters.getD (number >>> (c.bits * (c.width - 1 - i)) % (1 <<< c.bits)) '?'
  (List.range count).map letter ++ (if c.isFilled then List.replicate (c.width - count) '=' else [])

def encode (c : Code) (data : ByteArray) : List Char :=
  (List.range ((data.size + c.octets - 1) / c.octets)).flatMap fun i =>
    group c (data.extract (i * c.octets) ((i + 1) * c.octets)).toList

def wrap (width : Nat) : Nat → List Char → List Char
  | 0, _ => []
  | _, [] => []
  | fuel + 1, text => text.take width ++ '\n' :: wrap width fuel (text.drop width)

/-- The octets of one group of letters, and whether all is right with it. -/
def ungroup (c : Code) (letters : List Char) : List UInt8 × Bool :=
  let plain := letters.takeWhile (· ≠ '=')
  let values := plain.map c.letters.idxOf?
  let good := (values.takeWhile Option.isSome).filterMap id
  let number := good.foldl (fun n v => (n <<< c.bits) + v) 0
  let count := good.length * c.bits / 8
  let spare := good.length * c.bits - 8 * count
  let whole := number >>> spare
  let octets := (List.range count).map fun i => UInt8.ofNat (whole >>> (8 * (count - 1 - i)) % 256)
  let fills := letters.drop plain.length
  let isWhole := letters.length == c.width && fills.all (· == '=') && good.length == plain.length
  -- as few letters as the octets need
  let isShort := c.isFilled && count > 0 && plain.length == (8 * count + c.bits - 1) / c.bits
  (octets, good.length == plain.length && fills.all (· == '=') && (isWhole && plain.length == c.width || isWhole && isShort ||
    (fills.isEmpty && isShort)))

/-- The octets up to the first group that is wrong, and whether there is none. -/
def decode (c : Code) : Nat → List Char → List UInt8 × Bool
  | 0, _ => ([], true)
  | _, [] => ([], true)
  | fuel + 1, text =>
    let (octets, isGood) := ungroup c (text.take c.width)
    if !isGood then (octets, false)
    else
      let (more, isGood) := decode c fuel (text.drop c.width)
      (octets ++ more, isGood)

def commonSwitches : List Switch := [.flag 'd' "decode", .flag 'i' "ignore-garbage", .value 'w' "wrap"]

def perform (c : Code) (a : Arguments) : Act Unit := do
  let width ← match a.get? "w" with
    | none => pure 76
    | some text =>
      match Numeral.natural? text with
      | some n => pure n
      | none => fail 1 ("invalid wrap size: " ++ Quotation.quoted text)
  if let extra :: _ := a.operands.drop 1 then misused 1 ("extra operand " ++ Quotation.quoted extra)
  let path := a.operands.headD "-"
  let data ← match ← contents path with
    | .ok data => pure data
    | .error fault =>
      if fault == .isDirectory then fail 1 ("read error: " ++ fault.reason)
      fail 1 (Quotation.shown path ++ ": " ++ fault.reason)
  if a.has "d" then
    let text := (Octets.ofByteArray data).toList.filter (· ≠ '\n')
    let text := if a.has "i" then text.filter fun ch => c.letters.contains ch || ch == '=' else text
    let (octets, isGood) := decode c (text.length + 1) text
    print (Octets.ofBytes octets)
    if !isGood then
      flush
      fail 1 "invalid input"
  else
    let text := encode c data
    print (String.ofList (if width == 0 then text else wrap width (text.length + 1) text))

def run (c : Code) : Act Unit := do perform c (← readArguments 1 commonSwitches)

def codes : List (String × Code) :=
  [("base64", code64), ("base64url", code64Safe), ("base32", code32), ("base32hex", code32Hex),
   ("base16", code16), ("base2msbf", code2)]

def runChosen : Act Unit := do
  let a ← readArguments 1 (commonSwitches ++ codes.map fun (word, _) => .word word .plain)
  match (a.lastOf (codes.map (·.1))).bind fun word => codes.lookup word with
  | some c => perform c a
  | none => misused 1 "missing encoding type"

end Encode
end BuildRunner.Sandbox.Utility
