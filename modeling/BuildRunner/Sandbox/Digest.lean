import BuildRunner.Sandbox.Number

/-! Digests of octets: functions that mix blocks of fixed size into a few words, and sums of other
kinds. -/
namespace BuildRunner.Sandbox.Digest

/-! Blocks -/

def littleEndian : Nat → Nat → List UInt8
  | 0, _ => []
  | count + 1, n => UInt8.ofNat n :: littleEndian count (n / 256)

def bigEndian (count n : Nat) : List UInt8 := (littleEndian count n).reverse

/-- Octets filled up to whole blocks: a bit that is set, zeros, and the count of bits before. -/
def padded (block lengthSize : Nat) (little : Bool) (data : ByteArray) : ByteArray :=
  let zeros := (2 * block - (data.size + 1 + lengthSize) % block) % block
  let bits := 8 * data.size
  let ending := if little then littleEndian lengthSize bits else bigEndian lengthSize bits
  data ++ ⟨(0x80 :: (List.replicate zeros 0 ++ ending)).toArray⟩

def wordAt (little : Bool) (data : ByteArray) (start size : Nat) : Nat :=
  let octets := (List.range size).map fun i => (data.get! (start + i)).toNat
  (if little then octets.reverse else octets).foldl (fun n b => n * 256 + b) 0

def hexadecimal (octets : List UInt8) : String :=
  String.ofList (octets.flatMap fun b =>
    let digit (n : Nat) : Char := (Nat.toDigits 16 n).headD '0'
    [digit (b.toNat / 16), digit (b.toNat % 16)])

def overBlocks {State : Type} (block : Nat) (data : ByteArray) (start : State)
    (mix : State → Nat → State) : State :=
  (List.range (data.size / block)).foldl (fun s i => mix s (i * block)) start

/-! The digest of four words of 32 bits with sines. -/

/-- The first 32 bits after the point of the sines of the numbers from one on. -/
def sines : Array UInt32 :=
  #[
   0xd76aa478, 0xe8c7b756, 0x242070db, 0xc1bdceee, 0xf57c0faf, 0x4787c62a,
   0xa8304613, 0xfd469501, 0x698098d8, 0x8b44f7af, 0xffff5bb1, 0x895cd7be,
   0x6b901122, 0xfd987193, 0xa679438e, 0x49b40821, 0xf61e2562, 0xc040b340,
   0x265e5a51, 0xe9b6c7aa, 0xd62f105d, 0x02441453, 0xd8a1e681, 0xe7d3fbc8,
   0x21e1cde6, 0xc33707d6, 0xf4d50d87, 0x455a14ed, 0xa9e3e905, 0xfcefa3f8,
   0x676f02d9, 0x8d2a4c8a, 0xfffa3942, 0x8771f681, 0x6d9d6122, 0xfde5380c,
   0xa4beea44, 0x4bdecfa9, 0xf6bb4b60, 0xbebfbc70, 0x289b7ec6, 0xeaa127fa,
   0xd4ef3085, 0x04881d05, 0xd9d4d039, 0xe6db99e5, 0x1fa27cf8, 0xc4ac5665,
   0xf4292244, 0x432aff97, 0xab9423a7, 0xfc93a039, 0x655b59c3, 0x8f0ccc92,
   0xffeff47d, 0x85845dd1, 0x6fa87e4f, 0xfe2ce6e0, 0xa3014314, 0x4e0811a1,
   0xf7537e82, 0xbd3af235, 0x2ad7d2bb, 0xeb86d391]

def turns : Array (Array UInt32) :=
  #[#[7, 12, 17, 22], #[5, 9, 14, 20], #[4, 11, 16, 23], #[6, 10, 15, 21]]

def turned (x n : UInt32) : UInt32 := (x <<< n) ||| (x >>> (32 - n))

structure Four where
  a : UInt32
  b : UInt32
  c : UInt32
  d : UInt32

def Four.step (words : Array UInt32) (s : Four) (i : Nat) : Four :=
  let (mixed, k) :=
    if i < 16 then ((s.b &&& s.c) ||| ((~~~s.b) &&& s.d), i)
    else if i < 32 then ((s.d &&& s.b) ||| ((~~~s.d) &&& s.c), (5 * i + 1) % 16)
    else if i < 48 then (s.b ^^^ s.c ^^^ s.d, (3 * i + 5) % 16)
    else (s.c ^^^ (s.b ||| ~~~s.d), (7 * i) % 16)
  let sum := s.a + mixed + sines.getD i 0 + words.getD k 0
  ⟨s.d, s.b + turned sum ((turns.getD (i / 16) #[]).getD (i % 4) 0), s.b, s.c⟩

def md5 (data : ByteArray) : String :=
  let data := padded 64 8 true data
  let mix (s : Four) (start : Nat) : Four :=
    let words := Array.ofFn fun i : Fin 16 => UInt32.ofNat (wordAt true data (start + 4 * i.val) 4)
    let t := (List.range 64).foldl (Four.step words) s
    ⟨s.a + t.a, s.b + t.b, s.c + t.c, s.d + t.d⟩
  let s := overBlocks 64 data ⟨0x67452301, 0xefcdab89, 0x98badcfe, 0x10325476⟩ mix
  hexadecimal ([s.a, s.b, s.c, s.d].flatMap fun w => littleEndian 4 w.toNat)

/-! The digest of five words of 32 bits. -/

structure Five where
  a : UInt32
  b : UInt32
  c : UInt32
  d : UInt32
  e : UInt32

def Five.step (words : Array UInt32) (s : Five) (i : Nat) : Five :=
  let (mixed, constant) : UInt32 × UInt32 :=
    if i < 20 then ((s.b &&& s.c) ||| ((~~~s.b) &&& s.d), 0x5a827999)
    else if i < 40 then (s.b ^^^ s.c ^^^ s.d, 0x6ed9eba1)
    else if i < 60 then ((s.b &&& s.c) ||| (s.b &&& s.d) ||| (s.c &&& s.d), 0x8f1bbcdc)
    else (s.b ^^^ s.c ^^^ s.d, 0xca62c1d6)
  ⟨turned s.a 5 + mixed + s.e + constant + words.getD i 0, s.a, turned s.b 30, s.c, s.d⟩

def sha1 (data : ByteArray) : String :=
  let data := padded 64 8 false data
  let mix (s : Five) (start : Nat) : Five :=
    let first := Array.ofFn fun i : Fin 16 => UInt32.ofNat (wordAt false data (start + 4 * i.val) 4)
    let words := (List.range 64).foldl
      (fun (w : Array UInt32) i =>
        w.push (turned (w.getD (i + 13) 0 ^^^ w.getD (i + 8) 0 ^^^ w.getD (i + 2) 0 ^^^ w.getD i 0) 1)) first
    let t := (List.range 80).foldl (Five.step words) s
    ⟨s.a + t.a, s.b + t.b, s.c + t.c, s.d + t.d, s.e + t.e⟩
  let s := overBlocks 64 data ⟨0x67452301, 0xefcdab89, 0x98badcfe, 0x10325476, 0xc3d2e1f0⟩ mix
  hexadecimal ([s.a, s.b, s.c, s.d, s.e].flatMap fun w => bigEndian 4 w.toNat)

/-! Digests of eight words. Their constants are the first bits after the point of roots of primes. -/

def primes (count : Nat) : List Nat :=
  ((List.range (6 * count + 20)).filter fun n =>
    n ≥ 2 && (List.range n).all fun d => d < 2 || d * d > n || n % d != 0).take count

/-- The greatest number below a power of two whose power is not above another number. -/
def root (power n : Nat) : Nat → Nat → Nat
  | 0, found => found
  | bit + 1, found =>
    let next := found + (1 <<< bit)
    root power n bit (if Nat.pow next power ≤ n then next else found)

/-- The first 64 bits after the point of a root of a number below 512. -/
def rootBits (power n : Nat) : UInt64 := UInt64.ofNat (root power (n <<< (64 * power)) 70 0)

def cubeBits (_ : Unit) : Array UInt64 := ((primes 80).map (rootBits 3)).toArray

def squareBits (skipped : Nat) : List UInt64 := ((primes 16).drop skipped |>.take 8).map (rootBits 2)

structure Mixing where
  size : Nat
  rounds : Nat
  /-- Turns of the first word and of the fifth, and those of the words that are added, the last of
  each a shift for these. -/
  first : Nat × Nat × Nat
  fifth : Nat × Nat × Nat
  early : Nat × Nat × Nat
  late : Nat × Nat × Nat

def narrow : Mixing := ⟨32, 64, (2, 13, 22), (6, 11, 25), (7, 18, 3), (17, 19, 10)⟩

def wide : Mixing := ⟨64, 80, (28, 34, 39), (14, 18, 41), (1, 8, 7), (19, 61, 6)⟩

namespace Mixing

/-- Words are kept in 64 bits; those of 32 bits leave the upper half empty. -/
def cut (m : Mixing) (x : UInt64) : UInt64 := if m.size == 32 then x &&& 0xffffffff else x

def right (m : Mixing) (x : UInt64) (n : Nat) : UInt64 :=
  let k := UInt64.ofNat n
  m.cut ((x >>> k) ||| (x <<< (UInt64.ofNat m.size - k)))

def turn (m : Mixing) (x : UInt64) (t : Nat × Nat × Nat) : UInt64 :=
  m.right x t.1 ^^^ m.right x t.2.1 ^^^ m.right x t.2.2

def spread (m : Mixing) (x : UInt64) (t : Nat × Nat × Nat) : UInt64 :=
  m.right x t.1 ^^^ m.right x t.2.1 ^^^ (x >>> UInt64.ofNat t.2.2)

def step (m : Mixing) (constants words : Array UInt64) (s : Array UInt64) (i : Nat) : Array UInt64 :=
  let w (k : Nat) : UInt64 := s.getD k 0
  let constant := if m.size == 32 then constants.getD i 0 >>> 32 else constants.getD i 0
  let choice := (w 4 &&& w 5) ^^^ ((~~~w 4) &&& w 6)
  let majority := (w 0 &&& w 1) ^^^ (w 0 &&& w 2) ^^^ (w 1 &&& w 2)
  let one := w 7 + m.turn (w 4) m.fifth + choice + constant + words.getD i 0
  let two := m.turn (w 0) m.first + majority
  #[m.cut (one + two), w 0, w 1, w 2, m.cut (w 3 + one), w 4, w 5, w 6]

def digest (m : Mixing) (start : List UInt64) (length : Nat) (data : ByteArray) : String :=
  let octets := m.size / 8
  let block := 16 * octets
  let data := padded block (2 * octets) false data
  let constants := cubeBits ()
  let mix (s : Array UInt64) (place : Nat) : Array UInt64 :=
    let first := Array.ofFn fun i : Fin 16 => UInt64.ofNat (wordAt false data (place + octets * i.val) octets)
    let words := (List.range (m.rounds - 16)).foldl
      (fun (w : Array UInt64) i =>
        w.push (m.cut (w.getD i 0 + m.spread (w.getD (i + 1) 0) m.early + w.getD (i + 9) 0 +
          m.spread (w.getD (i + 14) 0) m.late))) first
    let t := (List.range m.rounds).foldl (m.step constants words) s
    (s.zip t).map fun (x, y) => m.cut (x + y)
  let s := overBlocks block data start.toArray mix
  hexadecimal ((s.toList.flatMap fun w => bigEndian octets w.toNat).take length)

end Mixing

def sha224 (data : ByteArray) : String :=
  narrow.digest ((squareBits 8).map (· &&& 0xffffffff)) 28 data

def sha256 (data : ByteArray) : String := narrow.digest ((squareBits 0).map fun (x : UInt64) => x >>> (32 : UInt64)) 32 data

def sha384 (data : ByteArray) : String := wide.digest (squareBits 8) 48 data

def sha512 (data : ByteArray) : String := wide.digest (squareBits 0) 64 data

/-! Sums -/

/-- One octet into a remainder of polynomials with a divisor of degree 32. -/
def remainderStep (r : UInt32) (b : UInt8) : UInt32 :=
  (List.range 8).foldl
    (fun (r : UInt32) _ => if r &&& 0x80000000 != 0 then (r <<< 1) ^^^ 0x04c11db7 else r <<< 1)
    (r ^^^ (b.toUInt32 <<< 24))

/-- The remainder of the octets and of their count after them. -/
def remainder (data : ByteArray) : UInt32 :=
  let count := littleEndian ((Nat.toDigits 256 data.size).length) data.size
  let count := if data.size == 0 then [] else count
  ~~~(count.foldl remainderStep (data.foldl remainderStep 0))

/-- A sum of 16 bits that is turned by one before each octet. -/
def turnedSum (data : ByteArray) : Nat :=
  data.foldl (fun s b => ((s >>> 1) + ((s &&& 1) <<< 15) + b.toNat) % 65536) 0

def foldedSum (data : ByteArray) : Nat :=
  let sum := data.foldl (fun s b => s + b.toNat) 0 % 4294967296
  let once := sum % 65536 + sum / 65536
  once % 65536 + once / 65536

end BuildRunner.Sandbox.Digest
