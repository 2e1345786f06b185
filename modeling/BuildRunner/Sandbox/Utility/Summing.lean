import BuildRunner.Sandbox.Digest
import BuildRunner.Sandbox.Utility.Reading

/-! Digests of files, and lists of digests that are compared with the files. -/
namespace BuildRunner.Sandbox.Utility
namespace Checksum
open Act Text

structure Algorithm where
  tag : String
  digits : Nat
  compute : ByteArray → String

def md5 : Algorithm := ⟨"MD5", 32, Digest.md5⟩
def sha1 : Algorithm := ⟨"SHA1", 40, Digest.sha1⟩
def sha224 : Algorithm := ⟨"SHA224", 56, Digest.sha224⟩
def sha256 : Algorithm := ⟨"SHA256", 64, Digest.sha256⟩
def sha384 : Algorithm := ⟨"SHA384", 96, Digest.sha384⟩
def sha512 : Algorithm := ⟨"SHA512", 128, Digest.sha512⟩

/-- A name with escapes for what would break its line, and whether it has any. -/
def escaped (name : String) : String × Bool :=
  let chars := name.toList.flatMap fun c =>
    if c == '\\' then ['\\', '\\'] else if c == '\n' then ['\\', 'n'] else if c == '\r' then ['\\', 'r'] else [c]
  (String.ofList chars, chars.length != name.length)

def unescaped : List Char → List Char
  | '\\' :: 'n' :: rest => '\n' :: unescaped rest
  | '\\' :: 'r' :: rest => '\r' :: unescaped rest
  | '\\' :: c :: rest => c :: unescaped rest
  | c :: rest => c :: unescaped rest
  | [] => []

def isDigest (x : Algorithm) (text : String) : Bool := text.length == x.digits && text.all Numeral.isHex

def entry? (x : Algorithm) (line : String) : Option (String × String) :=
  let (line, hasEscapes) := if line.startsWith "\\" then ((line.drop 1).toString, true) else (line, false)
  let name (text : String) : String := if hasEscapes then String.ofList (unescaped text.toList) else text
  let front := x.tag ++ " ("
  if line.startsWith front then
    let rest := (line.drop front.length).toString
    match (rest.splitOn ") = ").reverse with
    | digest :: parts =>
      if parts.isEmpty || !isDigest x digest then none
      else some (digest, name (") = ".intercalate parts.reverse))
    | [] => none
  else
    let digest := (line.take x.digits).toString
    let rest := (line.drop x.digits).toString
    if !isDigest x digest then none
    else
      match rest.toList with
      | ' ' :: c :: more =>
        if (c == ' ' || c == '*') && !more.isEmpty then some (digest, name (String.ofList more))
        else some (digest, name (String.ofList (c :: more)))
      | _ => none

/-- What came of the lines of a list: how many were right, of another form, unreadable, and other
than their files. -/
structure Tally where
  good : Nat
  malformed : Nat
  unread : Nat
  other : Nat
  entries : Nat

def plural (n : Nat) (one many : String) : String :=
  "WARNING: " ++ toString n ++ " " ++ (if n == 1 then one else many)

def checkLine (x : Algorithm) (a : Arguments) (listName : String) (t : Tally) (number : Nat) (line : String) : Act Tally := do
  let isQuiet := a.has "quiet" || a.has "status"
  if line.startsWith "#" then return t
  match entry? x line with
  | none =>
    if a.has "w" then
      complain (Quotation.shown listName ++ ": " ++ toString number ++ ": improperly formatted " ++ x.tag ++
        " checksum line")
    return { t with malformed := t.malformed + 1 }
  | some (digest, name) =>
    let (shown, hasEscapes) := escaped name
    let shown := if hasEscapes then "\\" ++ shown else shown
    match ← contents name with
    | .error fault =>
      if fault == .notFound && a.has "ignore-missing" then return { t with entries := t.entries + 1 }
      complain (Quotation.shown name ++ ": " ++ fault.reason)
      if !a.has "status" then printLine (shown ++ ": FAILED open or read")
      return { t with unread := t.unread + 1, entries := t.entries + 1 }
    | .ok data =>
      if x.compute data == digest.map Char.toLower then
        if !isQuiet then printLine (shown ++ ": OK")
        return { t with good := t.good + 1, entries := t.entries + 1 }
      else
        if !a.has "status" then printLine (shown ++ ": FAILED")
        return { t with other := t.other + 1, entries := t.entries + 1 }

def checkList (x : Algorithm) (a : Arguments) (path : String) : Act Unit := do
  let listName := if path == "-" then "standard input" else path
  match ← textOf path with
  | .error fault =>
    complain (Quotation.shown path ++ ": " ++ (if fault == .isDirectory then "read error: " else "") ++ fault.reason)
    atLeast 1
  | .ok text =>
    let lines := linesOf text
    let numbered := ((List.range lines.length).map (· + 1)).zip lines
    let t ← numbered.foldlM (fun t (n, line) => checkLine x a listName t n line) ⟨0, 0, 0, 0, 0⟩
    flush
    if t.entries == 0 then
      complain (Quotation.shown listName ++ ": no properly formatted checksum lines found")
      atLeast 1
    else
      if !a.has "status" then
        if t.malformed > 0 then complain (plural t.malformed "line is improperly formatted" "lines are improperly formatted")
        if t.unread > 0 then complain (plural t.unread "listed file could not be read" "listed files could not be read")
        if t.other > 0 then complain (plural t.other "computed checksum did NOT match" "computed checksums did NOT match")
        if a.has "ignore-missing" && t.good == 0 && t.other == 0 then
          complain (Quotation.shown listName ++ ": no file was verified")
      if t.unread > 0 || t.other > 0 || (a.has "strict" && t.malformed > 0) || (a.has "ignore-missing" && t.good == 0) then
        atLeast 1

def switches : List Switch :=
  [.flag 'b' "binary", .flag 'c' "check", .word "ignore-missing" .plain, .word "quiet" .plain,
   .word "status" .plain, .word "strict" .plain, .word "tag" .plain, .flag 't' "text", .flag 'w' "warn",
   .flag 'z' "zero"]

def showLine (x : Algorithm) (a : Arguments) (tagged : Bool) (path : String) (data : ByteArray) : Act Unit := do
  let (shown, hasEscapes) := if a.has "z" then (path, false) else escaped path
  let front := if hasEscapes then "\\" else ""
  let mark := if a.lastOf ["b", "t"] == some "b" then "*" else " "
  let line := if tagged then front ++ x.tag ++ " (" ++ shown ++ ") = " ++ x.compute data
    else front ++ x.compute data ++ " " ++ mark ++ shown
  print (line.push (if a.has "z" then '\x00' else '\n'))

def perform (x : Algorithm) (a : Arguments) (tagged : Bool) : Act Unit := do
  if a.has "c" then
    if a.has "tag" then misused 1 "the --tag option is meaningless when verifying checksums"
    if a.has "b" || a.has "t" then misused 1 "the --binary and --text options are meaningless when verifying checksums"
    if a.has "z" then misused 1 "the --zero option is not supported when verifying checksums"
    (if a.operands.isEmpty then ["-"] else a.operands).forM (checkList x a)
  else
    (["ignore-missing", "status", "warn", "quiet", "strict"]).forM fun key => do
      if a.has key || (key == "warn" && a.has "w") then
        misused 1 ("the --" ++ key ++ " option is meaningful only when verifying checksums")
    (if a.operands.isEmpty then ["-"] else a.operands).forM fun path => do
      match ← contents path with
      | .error fault => complainAbout path fault
      | .ok data => showLine x a tagged path data

def run (x : Algorithm) : Act Unit := do
  let a ← readArguments 1 switches
  perform x a (a.has "tag")

/-- A line with a sum of sixteen bits and a count of blocks, and the name if it was given. -/
def sumLine (folded : Bool) (data : ByteArray) (name : Option String) : String :=
  let after := (name.map (" " ++ ·)).getD ""
  let pad (width : Nat) (fill : Char) (n : Nat) : String :=
    let digits := toString n
    String.ofList (List.replicate (width - digits.length) fill) ++ digits
  if folded then toString (Digest.foldedSum data) ++ " " ++ toString ((data.size + 511) / 512) ++ after
  else pad 5 '0' (Digest.turnedSum data) ++ " " ++ pad 5 ' ' ((data.size + 1023) / 1024) ++ after

def eachFile (a : Arguments) (line : ByteArray → Option String → String) : Act Unit :=
  (if a.operands.isEmpty then ["-"] else a.operands).forM fun path => do
    match ← contents path with
    | .error fault => complainAbout path fault
    | .ok data => printLine (line data (if a.operands.isEmpty then none else some path))

def runSum : Act Unit := do
  let a ← readArguments 1 [.flag 'r' "", .flag 's' "sysv"]
  eachFile a (sumLine (a.lastOf ["r", "s"] == some "s"))

def crcLine (data : ByteArray) (name : Option String) : String :=
  toString (Digest.remainder data).toNat ++ " " ++ toString data.size ++ (name.map (" " ++ ·)).getD ""

def algorithms : List (String × Algorithm) :=
  [("md5", md5), ("sha1", sha1), ("sha224", sha224), ("sha256", sha256), ("sha384", sha384), ("sha512", sha512)]

def runChosen : Act Unit := do
  let a ← readArguments 1
    (switches ++ [.value 'a' "algorithm", .word "untagged" .plain, .value 'l' "length", .word "raw" .plain,
      .word "base64" .plain])
  let names := ["bsd", "sysv", "crc", "md5", "sha1", "sha224", "sha256", "sha384", "sha512", "blake2b", "sm3"]
  let kind ← match a.get? "a" with
    | none => pure "crc"
    | some given => choose 1 "--algorithm" (names.map ([·])) given
  match algorithms.lookup kind with
  | some x => perform x a (!a.has "untagged")
  | none =>
    if a.has "c" then
      if a.has "a" then fail 1 "--check is not supported with --algorithm=\x7bbsd,sysv,crc\x7d"
      (if a.operands.isEmpty then ["-"] else a.operands).forM (checkList md5 a)
    else if kind == "bsd" then eachFile a (sumLine false)
    else if kind == "sysv" then eachFile a (sumLine true)
    else eachFile a crcLine

end Checksum
end BuildRunner.Sandbox.Utility
