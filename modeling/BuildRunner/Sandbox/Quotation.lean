/-! How programs show names in their messages: in quotes that a shell would read back as the name.
Octets that are not printable become escapes in a quotation of their own kind. -/
namespace BuildRunner.Sandbox.Quotation

def isPrintable (c : Char) : Bool := ' ' ≤ c && c ≤ '~'

def letter? (c : Char) : Option Char :=
  match c.toNat with
  | 7 => some 'a'
  | 8 => some 'b'
  | 9 => some 't'
  | 10 => some 'n'
  | 11 => some 'v'
  | 12 => some 'f'
  | 13 => some 'r'
  | _ => none

def octal (c : Char) : List Char :=
  let digit (n : Nat) : Char := Char.ofNat ('0'.toNat + n % 8)
  [digit (c.toNat / 64), digit (c.toNat / 8), digit c.toNat]

def escapeTail (c : Char) : List Char :=
  match letter? c with
  | some l => [l]
  | none => octal c

/-- The inside of single quotes. An unprintable octet changes to a quotation with escapes, which
lasts until the next printable one. -/
def single : Bool → List Char → List Char
  | _, [] => []
  | escaping, c :: rest =>
    if c == '\'' then '\'' :: '\\' :: '\'' :: '\'' :: single false rest
    else if isPrintable c then (if escaping then ['\'', '\''] else []) ++ c :: single false rest
    else (if escaping then [] else ['\'', '$', '\'']) ++ '\\' :: escapeTail c ++ single true rest

/-- Characters that mean the same in double quotes as in single ones. -/
def isPlain (first alone : Bool) (c : Char) : Bool :=
  c.isAlphanum || "%+,-./:]_ @'".toList.contains c ||
    (first && (c == '#' || c == '~')) || (alone && (c == '{' || c == '}'))

def isSpecial (first alone : Bool) (c : Char) : Bool :=
  !isPrintable c || " !\"$&()*;<=>[^`|'\\?".toList.contains c ||
    (first && (c == '#' || c == '~')) || (alone && (c == '{' || c == '}'))

def anyChar (test : Bool → Bool → Char → Bool) (name : List Char) : Bool :=
  match name with
  | [] => false
  | c :: rest => test true rest.isEmpty c || rest.any (test false false)

/-- A name in quotes. One with a single quote and nothing that is special in double quotes stands
in these. -/
def named (name : String) : String :=
  let chars := name.toList
  if chars.contains '\'' && !anyChar (fun first alone c => !isPlain first alone c) chars then
    "\"" ++ name ++ "\""
  else "'" ++ String.ofList (single false chars) ++ "'"

/-- A name as it is, or in quotes where a shell would not read it back, or where a colon would
blur its end. -/
def shown (name : String) : String :=
  let chars := name.toList
  if chars.isEmpty || chars.contains ':' || anyChar isSpecial chars then named name else name

/-- The same without regard to colons. -/
def bare (name : String) : String :=
  let chars := name.toList
  if chars.isEmpty || anyChar isSpecial chars then named name else name

def quoted (text : String) : String :=
  let escape (c : Char) : List Char :=
    if c == '\'' || c == '\\' then ['\\', c]
    else if isPrintable c then [c]
    else '\\' :: escapeTail c
  "'" ++ String.ofList (text.toList.flatMap escape) ++ "'"

end BuildRunner.Sandbox.Quotation
