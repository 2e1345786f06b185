import BuildRunner.Sandbox.Number

/-! Escapes: what a backslash and the characters after it stand for. -/
namespace BuildRunner.Sandbox

inductive Escape where
  | octets (text : List Char)
  | stop
  | malformed (message : String)
deriving Repr

namespace Escape

def octet (n : Nat) : Escape := .octets [Char.ofNat (n % 256)]

def control? (c : Char) : Option Nat :=
  match c with
  | 'a' => some 7
  | 'b' => some 8
  | 'f' => some 12
  | 'n' => some 10
  | 'r' => some 13
  | 't' => some 9
  | 'v' => some 11
  | '\\' => some 92
  | _ => none

/-- Up to some digits as one octet, and what follows them. -/
def number (base count : Nat) (text : List Char) : Escape × List Char :=
  let digits := (text.take count).takeWhile fun c => Numeral.digitOf c < base
  (octet (Numeral.valueOf base digits), text.drop digits.length)

/-- A backslash that stands for itself, with the character after it. -/
def literal : List Char → Escape × List Char
  | [] => (.octets ['\\'], [])
  | c :: rest => (.octets ['\\', c], rest)

def hexadecimal (text : List Char) : Option (Escape × List Char) :=
  if text.head?.any Numeral.isHex then some (number 16 2 text) else none

/-- A character by its code point. Where only ASCII can be written, others stay escapes. -/
def codePoint (mark : Char) (count : Nat) (text : List Char) : Escape × List Char :=
  let digits := text.take count
  if digits.length < count || !digits.all Numeral.isHex then
    (.malformed "missing hexadecimal number in escape", [])
  else
    let n := Numeral.valueOf 16 digits
    let rest := text.drop count
    let written (least : Nat) : List Char :=
      let shown := Nat.toDigits 16 n
      List.replicate (least - shown.length) '0' ++ shown
    if n ≤ 0x9F && n != 0x24 && n != 0x40 && n != 0x60 || 0xD800 ≤ n && n ≤ 0xDFFF then
      (.malformed ("invalid universal character name \\" ++ mark.toString ++
        String.ofList (written count)), [])
    else if n < 0x80 then (octet n, rest)
    else if n < 0x10000 then (.octets ('\\' :: 'u' :: (written 4).map Char.toUpper), rest)
    else (.octets ('\\' :: 'U' :: (written 8).map Char.toUpper), rest)

/-- What follows a backslash in a format. A leading zero does not count among the three octal digits
where `zeroLead` holds. -/
def inFormat (zeroLead : Bool) (text : List Char) : Escape × List Char :=
  match text with
  | [] => literal []
  | c :: rest =>
    match control? c with
    | some n => (octet n, rest)
    | none =>
      match c with
      | '"' => (octet 34, rest)
      | 'e' => (octet 27, rest)
      | 'c' => (.stop, rest)
      | 'x' => (hexadecimal rest).getD (.malformed "missing hexadecimal number in escape", [])
      | 'u' => codePoint 'u' 4 rest
      | 'U' => codePoint 'U' 8 rest
      | _ =>
        if Numeral.isOctal c then number 8 3 (if zeroLead && c == '0' then rest else text)
        else literal text

/-- The same in words that are printed as they are. -/
def inWord (text : List Char) : Escape × List Char :=
  match text with
  | [] => literal []
  | c :: rest =>
    match control? c with
    | some n => (octet n, rest)
    | none =>
      match c with
      | 'e' => (octet 27, rest)
      | 'c' => (.stop, rest)
      | 'x' => (hexadecimal rest).getD (literal text)
      | '0' => number 8 3 rest
      | _ => if Numeral.isOctal c then number 8 3 text else literal text

/-- A text with its escapes read, up to a stop or a malformed one, which is told last. -/
def expand (read : List Char → Escape × List Char) :
    Nat → List Char → List Char × Option Escape
  | 0, _ | _, [] => ([], none)
  | fuel + 1, '\\' :: rest =>
    match read rest with
    | (.octets text, rest) =>
      let (more, last) := expand read fuel rest
      (text ++ more, last)
    | (last, _) => ([], some last)
  | fuel + 1, c :: rest =>
    let (more, last) := expand read fuel rest
    (c :: more, last)

def expandAll (read : List Char → Escape × List Char) (text : String) : String × Option Escape :=
  let (chars, last) := expand read (text.length + 1) text.toList
  (String.ofList chars, last)

end Escape
end BuildRunner.Sandbox
