/-! UTF-8. A byte sequence is read as characters and ill-formed stretches, each of these as long
as it still begins some character; a strict reading has none, a lossy one replaces each. -/
namespace BuildRunner.Text.Utf8

/-- A character begun but not ended: its bits so far, how many bytes it lacks, and the bounds of
the next one. -/
structure Unfinished where
  bits : Nat
  missing : Nat
  low : UInt8
  high : UInt8

/-- What the first byte of a sequence says about the rest. -/
inductive Lead where
  | single (c : Char)
  | begins (u : Unfinished)
  | invalid

/-- Bounds of the second byte exclude overlong forms, surrogates and what lies above U+10FFFF. -/
def lead (b : UInt8) : Lead :=
  if b < 0x80 then .single (Char.ofNat b.toNat)
  else if b < 0xC2 then .invalid
  else if b < 0xE0 then .begins ⟨b.toNat - 0xC0, 1, 0x80, 0xBF⟩
  else if b < 0xF0 then
    .begins ⟨b.toNat - 0xE0, 2, if b = 0xE0 then 0xA0 else 0x80, if b = 0xED then 0x9F else 0xBF⟩
  else if b < 0xF5 then
    .begins ⟨b.toNat - 0xF0, 3, if b = 0xF0 then 0x90 else 0x80, if b = 0xF4 then 0x8F else 0xBF⟩
  else .invalid

def Unfinished.accepts (u : Unfinished) (b : UInt8) : Bool := u.low ≤ b && b ≤ u.high

def Unfinished.push (u : Unfinished) (b : UInt8) : Unfinished :=
  ⟨u.bits * 64 + (b.toNat - 0x80), u.missing - 1, 0x80, 0xBF⟩

/-- What a first byte adds to the characters, and what it leaves unfinished. -/
def start (b : UInt8) : List (Option Char) × Option Unfinished :=
  match lead b with
  | .single c => ([some c], none)
  | .begins u => ([], some u)
  | .invalid => ([none], none)

/-- One byte. A byte that cannot continue what is unfinished ends it as ill-formed and starts anew. -/
def step : Option Unfinished → UInt8 → List (Option Char) × Option Unfinished
  | none, b => start b
  | some u, b =>
    if u.accepts b then
      let v := u.push b
      if v.missing = 0 then ([some (Char.ofNat v.bits)], none) else ([], some v)
    else (none :: (start b).1, (start b).2)

/-- Characters of the bytes that follow an unfinished start, `none` for every ill-formed stretch. -/
def scanFrom : Option Unfinished → List UInt8 → List (Option Char)
  | u, [] => if u.isSome then [none] else []
  | u, b :: rest => (step u b).1 ++ scanFrom (step u b).2 rest

def scan (bytes : List UInt8) : List (Option Char) := scanFrom none bytes

def decode? (bytes : List UInt8) : Option (List Char) := (scan bytes).mapM id

/-- The characters, with U+FFFD in place of every ill-formed stretch. -/
def decodeLossy (bytes : List UInt8) : List Char := (scan bytes).map (·.getD '\uFFFD')

def lineFeed : UInt8 := 0x0A

def encode (s : List Char) : List UInt8 := s.flatMap String.utf8EncodeChar

def bytesOf (s : String) : List UInt8 := encode s.toList

end BuildRunner.Text.Utf8
