/-! Mode bits of files: how they are written, and how a change to them is given, in octal digits or
in letters. -/
namespace BuildRunner.Sandbox.FileMode

def triple (bits : Nat) (special : Bool) (mark : Char) : List Char :=
  let x := bits &&& 1 != 0
  [if bits &&& 4 != 0 then 'r' else '-', if bits &&& 2 != 0 then 'w' else '-',
   if special then (if x then mark else mark.toUpper) else if x then 'x' else '-']

def letters (mode : Nat) : String :=
  String.ofList (triple (mode / 64 % 8) (mode &&& 0o4000 != 0) 's' ++
    triple (mode / 8 % 8) (mode &&& 0o2000 != 0) 's' ++ triple (mode % 8) (mode &&& 0o1000 != 0) 't')

def octal (width n : Nat) : String :=
  let digits := Nat.toDigits 8 n
  String.ofList (List.replicate (width - digits.length) '0' ++ digits)

/-- A change: which bits are meant, what is done with them, and what is given. -/
structure Change where
  users : List Char
  operator : Char
  permissions : List Char

def isOperator (c : Char) : Bool := c == '+' || c == '-' || c == '='

def actions (users : List Char) : Nat → List Char → Option (List Change)
  | 0, _ => none
  | _, [] => some []
  | fuel + 1, c :: rest =>
    if isOperator c then
      let permissions := rest.takeWhile (!isOperator ·)
      if permissions.all "rwxXstugo".toList.contains then
        (actions users fuel (rest.drop permissions.length)).map (⟨users, c, permissions⟩ :: ·)
      else none
    else none

def clause (text : List Char) : Option (List Change) :=
  let users := text.takeWhile "ugoa".toList.contains
  let rest := text.drop users.length
  if rest.isEmpty then none else actions users (rest.length + 1) rest

def changes? (text : String) : Option (List Change) :=
  (text.toList.splitOnP (· == ',')).foldr
    (fun part more => do return (← clause part) ++ (← more)) (some [])

def userBits (users : List Char) : Nat :=
  users.foldl
    (fun bits c => bits ||| (match c with
      | 'u' => 0o4700
      | 'g' => 0o2070
      | 'o' => 0o1007
      | _ => 0o7777)) 0

/-- The bits that a letter stands for, of all users together. -/
def permissionBits (mode : Nat) (isDirectory : Bool) (c : Char) : Nat :=
  match c with
  | 'r' => 0o444
  | 'w' => 0o222
  | 'x' => 0o111
  | 'X' => if isDirectory || mode &&& 0o111 != 0 then 0o111 else 0
  | 's' => 0o6000
  | 't' => 0o1000
  | 'u' => (mode / 64 % 8) * 0o111
  | 'g' => (mode / 8 % 8) * 0o111
  | _ => (mode % 8) * 0o111

def without (mode bits : Nat) : Nat := mode - (mode &&& bits)

/-- A mode after a change. Where no user is named, the masked bits stay as they are. -/
def Change.apply (mask : Nat) (isDirectory : Bool) (mode : Nat) (c : Change) : Nat :=
  let named := userBits c.users
  let allowed := if c.users.isEmpty then without 0o7777 mask else named
  let bits := (c.permissions.foldl (fun b p => b ||| permissionBits mode isDirectory p) 0) &&& allowed
  match c.operator with
  | '+' => mode ||| bits
  | '-' => without mode bits
  | _ =>
    let cleared := if c.users.isEmpty then 0o7777 else named
    let kept := if isDirectory then 0o6000 else 0
    without mode (without cleared kept) ||| bits

def octal? (text : String) : Option Nat :=
  let chars := text.toList
  if !chars.isEmpty && chars.all (fun c => '0' ≤ c && c ≤ '7') then
    some (chars.foldl (fun n c => n * 8 + (c.toNat - '0'.toNat)) 0)
  else none

/-- How a text alters modes, given the masked bits, whether the mode is that of a directory, and the
mode. Short numbers leave the special bits of a directory as they are. -/
def alteration? (text : String) : Option (Nat → Bool → Nat → Nat) :=
  match octal? text with
  | some n =>
    if n > 0o7777 then none
    else some fun _ isDirectory mode =>
      if isDirectory && text.length < 5 then n ||| (mode &&& 0o6000) else n
  | none =>
    match changes? text with
    | some changes => some fun mask isDirectory mode => changes.foldl (Change.apply mask isDirectory) mode
    | none => none

end BuildRunner.Sandbox.FileMode
