import BuildRunner.Sandbox.Utility.Reading

/-! Orders of lines, by keys within them and in several manners, and what is done with ordered
lines. -/
namespace BuildRunner.Sandbox.Utility
open Act Text

namespace LineOrder

/-- How two keys are compared. -/
inductive Manner where
  | octets
  | numeric
  | general
  | human
  | month
  | version
deriving DecidableEq

structure Rules where
  manner : Manner
  skipsStart : Bool
  skipsEnd : Bool
  dictionary : Bool
  foldsCase : Bool
  printable : Bool
  reverses : Bool

def Rules.none : Rules := ⟨.octets, false, false, false, false, false, false⟩

/-- Part of a line: from a character of a field to one of another field, or to the end. -/
structure Key where
  startField : Nat
  startChar : Nat
  stop : Option (Nat × Nat)
  options : Rules

def isBlank (c : Char) : Bool := c == ' ' || c == '\t'

/-- What is left of a line after some fields. A separator belongs to no field; without one the blanks
before a field do. -/
def afterFields (separator : Option Char) : Nat → List Char → List Char
  | 0, s => s
  | n + 1, s =>
    match separator with
    | some c => afterFields separator n ((s.dropWhile (· ≠ c)).drop 1)
    | none => afterFields separator n ((s.dropWhile isBlank).dropWhile (!isBlank ·))

def stopOf (separator : Option Char) (k : Key) (s : List Char) : Nat :=
  match k.stop with
  | none => s.length
  | some (field, 0) =>
    let rest := afterFields separator (field - 1) s
    let last := match separator with
      | some c => rest.dropWhile (· ≠ c)
      | none => (rest.dropWhile isBlank).dropWhile (!isBlank ·)
    s.length - last.length
  | some (field, char) =>
    let rest := afterFields separator (field - 1) s
    let rest := if k.options.skipsEnd then rest.dropWhile isBlank else rest
    s.length - (rest.drop char).length

def keyOf (separator : Option Char) (k : Key) (s : List Char) : List Char :=
  let rest := afterFields separator k.startField s
  let rest := if k.options.skipsStart then rest.dropWhile isBlank else rest
  let rest := rest.drop k.startChar
  let stop := stopOf separator k s
  rest.take (stop - (s.length - rest.length))

def decimal (s : List Char) : Bool × List Char × List Char :=
  let s := s.dropWhile isBlank
  let (negative, s) := match s with
    | '-' :: rest => (true, rest)
    | s => (false, s)
  let whole := s.takeWhile Char.isDigit
  let part := match s.drop whole.length with
    | '.' :: rest => rest.takeWhile Char.isDigit
    | _ => []
  (negative, whole.dropWhile (· == '0'), (part.reverse.dropWhile (· == '0')).reverse)

def compareText (a b : List Char) : Ordering :=
  let x := String.ofList a
  let y := String.ofList b
  if x < y then .lt else if y < x then .gt else .eq

def compareMagnitudes (a b : List Char × List Char) : Ordering :=
  (compare a.1.length b.1.length).then ((compareText a.1 b.1).then (compareText a.2 b.2))

def compareDecimals (a b : List Char) : Ordering :=
  let (m, w, p) := decimal a
  let (n, v, q) := decimal b
  let isZero (w p : List Char) : Bool := w.isEmpty && p.isEmpty
  let sign (negative : Bool) (w p : List Char) : Int := if isZero w p then 0 else if negative then -1 else 1
  match compare (sign m w p) (sign n v q) with
  | .eq => if m then compareMagnitudes (v, q) (w, p) else compareMagnitudes (w, p) (v, q)
  | other => other

def unitRank (s : List Char) : Int :=
  let (negative, whole, part) := decimal s
  let rest := s.dropWhile isBlank
  let rest := if rest.head? == some '-' then rest.tail else rest
  let rest := rest.dropWhile Char.isDigit
  let rest := if rest.head? == some '.' then rest.tail.dropWhile Char.isDigit else rest
  if whole.isEmpty && part.isEmpty then 0
  else
    let rank : Int := match rest.head? with
      | some c => ((("KMGTPEZYRQ".toList.idxOf? (if c == 'k' then 'K' else c)).map (· + 1)).getD 0 : Nat)
      | none => 0
    if negative then -rank else rank

def monthOf (s : List Char) : Nat :=
  let name := ((s.dropWhile isBlank).take 3).map Char.toUpper
  (((["JAN", "FEB", "MAR", "APR", "MAY", "JUN", "JUL", "AUG", "SEP", "OCT", "NOV", "DEC"].map String.toList).idxOf?
    name).map (· + 1)).getD 0

/-- The place of a character in versions: a tilde comes before the end, letters before the rest. -/
def versionRank (c : Option Char) : Int :=
  match c with
  | some '~' => -1
  | none => 0
  | some c => if c.isDigit then 0 else if c.isAlpha then c.toNat else (c.toNat : Int) + 256

def compareVersions : Nat → List Char → List Char → Ordering
  | 0, _, _ => .eq
  | _, [], [] => .eq
  | fuel + 1, a, b =>
    let isText (c : Option Char) : Bool := c.any (!Char.isDigit ·)
    if isText a.head? || isText b.head? then
      match compare (versionRank a.head?) (versionRank b.head?) with
      | .eq => compareVersions fuel a.tail b.tail
      | other => other
    else
      let x := a.takeWhile Char.isDigit
      let y := b.takeWhile Char.isDigit
      let number (s : List Char) : List Char := s.dropWhile (· == '0')
      match compareMagnitudes (number x, []) (number y, []) with
      | .eq => compareVersions fuel (a.drop x.length) (b.drop y.length)
      | other => other

/-- The ending of a file name, dots with letters behind them, which versions leave for last. -/
def withoutEnding (s : List Char) : List Char :=
  let rec go : Nat → List Char → List Char
    | 0, r => r
    | fuel + 1, r =>
      let word := r.takeWhile fun c => c.isAlphanum || c == '~'
      match r.drop word.length with
      | '.' :: more =>
        if word.getLast?.any fun c => c.isAlpha || c == '~' then go fuel more else r
      | _ => r
  (go s.length s.reverse).reverse

def versions (a b : List Char) : Ordering :=
  if a == b then .eq
  else
    let special (s : List Char) : Nat :=
      if s.isEmpty then 0 else if s == ['.'] then 1 else if s == ['.', '.'] then 2 else if s.head? == some '.' then 3 else 4
    match compare (special a) (special b) with
    | .eq =>
      let fuel := a.length + b.length + 2
      match compareVersions fuel (withoutEnding a) (withoutEnding b) with
      | .eq => compareVersions fuel a b
      | other => other
    | other => other

/-- General numbers: what is none comes first, then what is not a number. -/
def compareGeneral (a b : List Char) : Ordering :=
  match Numeral.real? Real.extended a, Numeral.real? Real.extended b with
  | none, none => .eq
  | none, some _ => .lt
  | some _, none => .gt
  | some (x, _), some (y, _) => x.cmp y

def translated (o : Rules) (s : List Char) : List Char :=
  let s := if o.dictionary then s.filter fun c => isBlank c || c.isAlphanum else s
  let s := if o.printable then s.filter Quotation.isPrintable else s
  if o.foldsCase then s.map Char.toUpper else s

def compareKeys (o : Rules) (a b : List Char) : Ordering :=
  let result := match o.manner with
    | .octets => compareText (translated o a) (translated o b)
    | .numeric => compareDecimals a b
    | .general => compareGeneral a b
    | .human => (compare (unitRank a) (unitRank b)).then (compareDecimals a b)
    | .month => compare (monthOf a) (monthOf b)
    | .version => versions a b
  if o.reverses then result.swap else result

structure Plan where
  separator : Option Char
  keys : List Key
  reverses : Bool
  isStable : Bool
  isUnique : Bool

def compareByKeys (p : Plan) (a b : List Char) : Ordering :=
  p.keys.foldl (fun result k =>
    result.then (compareKeys k.options (keyOf p.separator k a) (keyOf p.separator k b))) .eq

/-- How two lines compare: by their keys, and at last as a whole. -/
def compareLines (p : Plan) (a b : String) : Ordering :=
  let byKeys := compareByKeys p a.toList b.toList
  if byKeys != .eq || (!p.keys.isEmpty && (p.isStable || p.isUnique)) then byKeys
  else
    let whole : Ordering := if a < b then .lt else if b < a then .gt else .eq
    if p.reverses then whole.swap else whole

end LineOrder

namespace Sorting
open LineOrder

def mannerLetters : List (Char × Manner) :=
  [('g', .general), ('h', .human), ('M', .month), ('n', .numeric), ('V', .version)]

/-- Ordering letters on top of others; which of the two blanks are skipped depends on where they
stand. -/
def withLetter (start stop : Bool) (o : Rules) (c : Char) : Option Rules :=
  match mannerLetters.lookup c with
  | some manner => some { o with manner }
  | none =>
    match c with
    | 'b' => some { o with skipsStart := o.skipsStart || start, skipsEnd := o.skipsEnd || stop }
    | 'd' => some { o with dictionary := true }
    | 'f' => some { o with foldsCase := true }
    | 'i' => some { o with printable := true }
    | 'r' => some { o with reverses := true }
    | 'R' => some o
    | _ => none

/-- Letters up to the first one that is none of these. -/
def withLetters (start stop : Bool) (o : Rules) : List Char → Rules × List Char
  | [] => (o, [])
  | c :: rest =>
    match withLetter start stop o c with
    | some o => withLetters start stop o rest
    | none => (o, c :: rest)

def isPlain (o : Rules) : Bool :=
  o.manner == .octets && !o.skipsStart && !o.skipsEnd && !o.dictionary && !o.foldsCase && !o.printable && !o.reverses

def fieldCount (what : String) (s : List Char) : Act (Nat × List Char) := do
  let digits := s.takeWhile Char.isDigit
  if digits.isEmpty then
    fail 2 (what ++ ": invalid count at start of " ++ Quotation.quoted (String.ofList s))
  return (Numeral.valueOf 10 digits, s.drop digits.length)

def key (text : String) : Act Key := do
  let bad {α : Type} (what : String) : Act α :=
    fail 2 (what ++ ": invalid field specification " ++ Quotation.quoted text)
  let (field, rest) ← fieldCount "invalid number at field start" text.toList
  if field == 0 then bad "field number is zero"
  let (char, rest) ← match rest with
    | '.' :: rest => do
      let (n, rest) ← fieldCount "invalid number after '.'" rest
      if n == 0 then bad "character offset is zero"
      pure (n - 1, rest)
    | rest => pure (0, rest)
  let (o, rest) := withLetters true false .none rest
  match rest with
  | [] => return ⟨field - 1, char, none, o⟩
  | ',' :: rest =>
    let (stop, rest) ← fieldCount "invalid number after ','" rest
    if stop == 0 then bad "field number is zero"
    let (stopChar, rest) ← match rest with
      | '.' :: rest => fieldCount "invalid number after '.'" rest
      | rest => pure (0, rest)
    let (o, rest) := withLetters false true o rest
    if !rest.isEmpty then bad "stray character in field spec"
    return ⟨field - 1, char, some (stop, stopChar), o⟩
  | _ => bad "stray character in field spec"

def switches : List Switch :=
  [.flag 'b' "ignore-leading-blanks", .flag 'd' "dictionary-order", .flag 'f' "ignore-case",
   .flag 'g' "general-numeric-sort", .flag 'i' "ignore-nonprinting", .flag 'M' "month-sort",
   .flag 'h' "human-numeric-sort", .flag 'n' "numeric-sort", .flag 'R' "random-sort", .flag 'r' "reverse",
   .flag 'V' "version-sort", .letter 'c' "" .plain, .word "check" .optional, .flag 'C' "",
   .value 'k' "key", .flag 'm' "merge", .value 'o' "output", .flag 's' "stable", .value 'S' "buffer-size",
   .value 't' "field-separator", .value 'T' "temporary-directory", .word "parallel" .required,
   .flag 'u' "unique", .flag 'z' "zero-terminated", .word "sort" .required]

def distinct (p : Plan) : List String → List String
  | a :: b :: rest =>
    if compareLines p a b == .eq then distinct p (a :: rest) else a :: distinct p (b :: rest)
  | lines => lines
termination_by lines => lines.length

/-- The number of the first line that does not come after the one before, and the line. -/
def disorder? (p : Plan) (number : Nat) : List String → Option (Nat × String)
  | a :: b :: rest =>
    let result := compareLines p a b
    if result == .gt || (p.isUnique && result == .eq) then some (number + 1, b)
    else disorder? p (number + 1) (b :: rest)
  | _ => none

/-- Merges lists of lines; of lines that come first in their lists and compare alike, that of the
earlier list is taken. -/
def merge (p : Plan) (xs ys : List String) : List String := List.merge xs ys fun x y => compareLines p x y != .gt

def manners : List (List String × String) :=
  [(["general-numeric"], "g"), (["human-numeric"], "h"), (["month"], "M"), (["numeric"], "n"),
   (["random"], "R"), (["version"], "V")]

def conflicting (o : List Char) : List Char :=
  let manners := "ghMnV".toList.filter o.contains
  let manners := if o.contains 'R' then manners ++ ['R'] else manners
  let text := "di".toList.filter o.contains
  if manners.length > 1 || (!text.isEmpty && manners.any fun c => c != 'V' && c != 'R') then
    "dghiMnRV".toList.filter o.contains
  else []

/-- A place as it was once written: fields and characters that come before it, and letters. -/
def place? (text : List Char) : Option (Nat × Nat × String) :=
  let field := text.takeWhile Char.isDigit
  let after := text.drop field.length
  let char := if after.head? == some '.' then after.tail.takeWhile Char.isDigit else []
  let letters := if after.head? == some '.' then after.tail.drop char.length else after
  if field.isEmpty then none
  else some (Numeral.valueOf 10 field, Numeral.valueOf 10 char, String.ofList letters)

/-- Rewrites keys that are given by what comes before them, with a plus, and before their end, with a
minus. -/
def modern : List String → List String
  | [] => []
  | w :: rest =>
    match w.toList with
    | '-' :: '-' :: [] => w :: rest
    | '+' :: start =>
      match place? start with
      | none => w :: modern rest
      | some (field, char, letters) =>
        let head := "-k" ++ toString (field + 1) ++ "." ++ toString (char + 1) ++ letters
        match rest with
        | [] => [head]
        | x :: more =>
          match x.toList with
          | '-' :: stop =>
            match place? stop with
            | none => head :: modern (x :: more)
            | some (field, char, letters) =>
              let stop := if char == 0 then toString field else toString (field + 1) ++ "." ++ toString char
              (head ++ "," ++ stop ++ letters) :: modern more
          | _ => head :: modern (x :: more)
    | _ => w :: modern rest

def run : Act Unit := do
  modify fun r => { r with process := { r.process with arguments := modern r.process.arguments } }
  let a ← readArguments 2 switches
  let worded ← match a.get? "sort" with
    | none => pure none
    | some given => some <$> choose 1 "--sort" (manners.map (·.1)) given
  let worded := worded.bind fun w => (manners.find? (·.1.contains w)).map (·.2)
  let letters := "bdfgiMhnRrV".toList.filter fun c => a.has c.toString || worded == some c.toString
  let (o, _) := withLetters true true Rules.none letters
  let keys ← (a.getAll "k").mapM key
  let keys := keys.map fun k => if isPlain k.options then { k with options := o } else k
  let keys := if keys.isEmpty && !isPlain { o with reverses := false } then [⟨0, 0, none, o⟩] else keys
  let clash := conflicting letters
  if !clash.isEmpty then fail 2 ("options '-" ++ String.ofList clash ++ "' are incompatible")
  let separator ← match a.get? "t" with
    | none => pure none
    | some "" => fail 2 "empty tab"
    | some "\\0" => pure (some '\x00')
    | some text =>
      if text.length > 1 then fail 2 ("multi-character tab " ++ Quotation.quoted text)
      pure text.toList.head?
  let quiet := a.has "C" || (a.get? "check").any fun v => v == "quiet" || v == "silent"
  let checks := a.has "c" || quiet || a.has "check"
  let p : Plan := ⟨separator, keys, o.reverses, a.has "s", a.has "u"⟩
  let mark := if a.has "z" then '\x00' else '\n'
  if checks && a.has "o" then
    fail 2 ("options '-" ++ (if quiet then "C" else "c") ++ "o' are incompatible")
  if checks then
    if let extra :: _ := a.operands.drop 1 then
      fail 2 ("extra operand " ++ Quotation.quoted extra ++ " not allowed with -" ++ (if quiet then "C" else "c"))
    let path := a.operands.headD "-"
    match ← textOf path with
    | .error .isDirectory => fail 2 ("read failed: " ++ Quotation.shown path ++ ": " ++ Fault.reason .isDirectory)
    | .error fault => fail 2 ("open failed: " ++ Quotation.shown path ++ ": " ++ fault.reason)
    | .ok text =>
      if let some (number, line) := disorder? p 1 (recordsOf mark text) then
        if !quiet then
          complain (path ++ ":" ++ toString number ++ ": disorder: " ++ line)
        exit 1
  else
    let texts ← (if a.operands.isEmpty then ["-"] else a.operands).mapM fun path => do
      match ← textOf path with
      | .ok text => return recordsOf mark text
      | .error fault =>
        if fault == .isDirectory then
          fail 2 ("read failed: " ++ Quotation.shown path ++ ": " ++ fault.reason)
        fail 2 ("cannot read: " ++ Quotation.shown path ++ ": " ++ fault.reason)
    let sorted :=
      if a.has "m" then texts.foldl (merge p) []
      else texts.flatten.mergeSort fun x y => compareLines p x y != .gt
    let sorted := if p.isUnique then distinct p sorted else sorted
    let shown := joinRecords mark sorted
    match a.get? "o" with
    | none => print shown
    | some path =>
      if let some fault ← store path (Octets.toByteArray shown) then
        fail 2 ("open failed: " ++ Quotation.shown path ++ ": " ++ fault.reason)

end Sorting

namespace Uniq

def groups (same : String → String → Bool) (lines : List String) : List (List String) := lines.splitBy same

def switches : List Switch :=
  [.flag 'c' "count", .flag 'd' "repeated", .letter 'D' "" .plain, .word "all-repeated" .optional,
   .value 'f' "skip-fields", .word "group" .optional, .flag 'i' "ignore-case", .value 's' "skip-chars",
   .flag 'u' "unique", .value 'w' "check-chars", .flag 'z' "zero-terminated"]

def compared (fields chars : Nat) (width : Option Nat) (foldsCase : Bool) (line : String) : List Char :=
  let rest := (LineOrder.afterFields none fields line.toList).drop chars
  let rest := match width with
    | some n => rest.take n
    | none => rest
  if foldsCase then rest.map Char.toUpper else rest

/-- Rewrites counts of fields and of characters that are given as bare numbers. -/
def modern (words : List String) : List String :=
  words.map fun w =>
    match w.toList with
    | '-' :: c :: rest => if c.isDigit then "-f" ++ String.ofList (c :: rest) else w
    | '+' :: c :: rest => if c.isDigit then "-s" ++ String.ofList (c :: rest) else w
    | _ => w

def number (a : Arguments) (key what : String) : Act (Option Nat) := do
  match a.get? key with
  | none => return none
  | some text =>
    match Numeral.natural? text with
    | some n => return some n
    | none => fail 1 (text ++ ": invalid number of " ++ what)

/-- The word of a switch that may stand without one. -/
def manner (a : Arguments) (key standard : String) (choices : List String) : Act String := do
  match a.get? key with
  | none => return ""
  | some "" => return standard
  | some given => choose 1 ("--" ++ key) (choices.map ([·])) given

def run : Act Unit := do
  modify fun r => { r with process := { r.process with arguments := modern r.process.arguments } }
  let a ← readArguments 1 switches
  let spacing ← manner a "all-repeated" "none" ["none", "prepend", "separate"]
  let grouping ← manner a "group" "separate" ["prepend", "append", "separate", "both"]
  if let extra :: _ := a.operands.drop 2 then misused 1 ("extra operand " ++ Quotation.quoted extra)
  let every := a.has "D" || a.has "all-repeated"
  if !grouping.isEmpty && (every || a.has "c" || a.has "d" || a.has "u") then
    misused 1 "--group is mutually exclusive with -c/-d/-D/-u"
  if every && a.has "c" then misused 1 "printing all duplicated lines and repeat counts is meaningless"
  let fields ← number a "f" "fields to skip"
  let chars ← number a "s" "bytes to skip"
  let width ← number a "w" "bytes to compare"
  let path := a.operands.headD "-"
  let mark := if a.has "z" then '\x00' else '\n'
  let text ← match ← textOf path with
    | .ok text => pure text
    | .error fault =>
      if fault == .isDirectory then fail 1 ("error reading " ++ Quotation.named path ++ ": " ++ fault.reason)
      fail 1 (Quotation.shown path ++ ": " ++ fault.reason)
  let part := compared (fields.getD 0) (chars.getD 0) width (a.has "i")
  let found := groups (fun x y => part x == part y) (recordsOf mark text)
  let chosen := found.filter fun g =>
    (!(a.has "d" || every) || g.length > 1) && (!a.has "u" || g.length == 1)
  let counted (g : List String) : String :=
    let n := toString g.length
    (if a.has "c" then String.ofList (List.replicate (7 - n.length) ' ') ++ n ++ " " else "") ++ g.headD ""
  let shown :=
    if !grouping.isEmpty then
      let body := mark.toString.intercalate (found.map (joinRecords mark))
      match grouping with
      | "prepend" => mark.toString ++ body
      | "append" => body ++ mark.toString
      | "both" => mark.toString ++ body ++ mark.toString
      | _ => body
    else if every then
      let parts := chosen.map (joinRecords mark)
      match spacing with
      | "prepend" => String.join (parts.map (mark.toString ++ ·))
      | "separate" => mark.toString.intercalate parts
      | _ => String.join parts
    else joinRecords mark (chosen.map counted)
  match a.operands[1]? with
  | none | some "-" => print shown
  | some target =>
    if let some fault ← store target (Octets.toByteArray shown) then
      fail 1 (Quotation.shown target ++ ": " ++ fault.reason)

end Uniq

namespace Comm

/-- A line with the column it stands in (of the first file only, of the second only, of both) and
the files whose next line should have come before it. -/
structure Row where
  column : Nat
  line : String
  misplaced : List Nat

/-- The file, if it goes on with a line that should have come before. -/
def misplaced (checks : Bool) (file : Nat) (line : String) (rest : List String) : List Nat :=
  if checks && rest.head?.any (· < line) then [file] else []

/-- Order is watched from the first line on, or from the first one that only one file has. -/
def merge : Nat → Bool → List String → List String → List Row
  | 0, _, _, _ => []
  | _, _, [], [] => []
  | fuel + 1, _, a :: as, [] => ⟨1, a, misplaced true 1 a as⟩ :: merge fuel true as []
  | fuel + 1, _, [], b :: bs => ⟨2, b, misplaced true 2 b bs⟩ :: merge fuel true [] bs
  | fuel + 1, checks, a :: as, b :: bs =>
    if a == b then
      ⟨3, a, misplaced checks 1 a as ++ misplaced checks 2 b bs⟩ :: merge fuel checks as bs
    else if a < b then ⟨1, a, misplaced true 1 a as⟩ :: merge fuel true as (b :: bs)
    else ⟨2, b, misplaced true 2 b bs⟩ :: merge fuel true (a :: as) bs

def run : Act Unit := do
  let a ← readArguments 1
    [.flag '1' "", .flag '2' "", .flag '3' "", .word "check-order" .plain, .word "nocheck-order" .plain,
     .word "output-delimiter" .required, .word "total" .plain, .flag 'z' "zero-terminated"]
  match a.operands with
  | [] => misused 1 "missing operand"
  | [one] => misused 1 ("missing operand after " ++ Quotation.quoted one)
  | _ :: _ :: extra :: _ => misused 1 ("extra operand " ++ Quotation.quoted extra)
  | [first, second] =>
    let mark := if a.has "z" then '\x00' else '\n'
    let read (path : String) : Act (List String) := do
      match ← textOf path with
      | .ok text => return recordsOf mark text
      | .error fault => fail 1 (Quotation.shown path ++ ": " ++ fault.reason)
    let xs ← read first
    let ys ← read second
    let between := match a.get? "output-delimiter" with
      | some "" => "\x00"
      | some d => d
      | none => "\t"
    let hidden (n : Nat) : Bool := a.has (toString n)
    let front (n : Nat) : String :=
      String.join (((List.range n).filter fun k => k > 0 && !hidden k).map fun _ => between)
    let strict := a.has "check-order"
    let rows := merge (xs.length + ys.length + 1) strict xs ys
    let good := if strict then rows.takeWhile (·.misplaced.isEmpty) else rows
    -- the row after which the order breaks is still written
    let shown := good ++ (rows.drop good.length).take 1
    print (joinRecords mark ((shown.filter fun r => !hidden r.column).map fun r => front r.column ++ r.line))
    if strict then
      if let some r := rows[good.length]? then
        fail 1 ("file " ++ toString (r.misplaced.headD 1) ++ " is not in sorted order")
    if a.has "total" then
      let count (n : Nat) : String := toString (rows.filter (·.column == n)).length
      print (between.intercalate [count 1, count 2, count 3, "total"] ++ mark.toString)
    let bad := (rows.flatMap (·.misplaced)).eraseDups
    if !a.has "nocheck-order" && !bad.isEmpty then
      bad.forM fun n => complain ("file " ++ toString n ++ " is not in sorted order")
      complain "input is not in sorted order"
      atLeast 1

end Comm

namespace Topological

/-- Pairs of a name and one that comes after it, the latest first. -/
abbrev Pairs := List (String × String)

def followers (pairs : Pairs) (x : String) : List String := (pairs.filter (·.1 == x)).map (·.2)

def isFree (pairs : Pairs) (x : String) : Bool := !pairs.any (·.2 == x)

/-- Names that are free now and those that become free by them, and the pairs that are left. -/
def drain : Nat → List String → Pairs → List String × Pairs
  | 0, _, pairs => ([], pairs)
  | _, [], pairs => ([], pairs)
  | fuel + 1, x :: queue, pairs =>
    let after := followers pairs x
    let rest := pairs.filter (·.1 != x)
    let freed := ((after.reverse.eraseDups).reverse).filter (isFree rest)
    let (more, rest) := drain fuel (queue ++ freed) rest
    (x :: more, rest)

/-- A search for a cycle goes through the names in turn, again and again, and steps back from a name
to one that it follows. What it has is the place where it stands and the steps that led there. -/
structure Search where
  here : Option String
  steps : List (String × String)

def trail (steps : List (String × String)) (last : String) : Nat → String → List String
  | 0, _ => []
  | fuel + 1, x =>
    if x == last then [x]
    else x :: ((steps.lookup x).map (trail steps last fuel)).getD []

/-- The names of a cycle, and the pair that closes it. -/
def cycle? (pairs : Pairs) (all : List String) :
    Nat → List String → Search → Option (List String × (String × String))
  | 0, _, _ => none
  | fuel + 1, [], s => cycle? pairs all fuel all s
  | fuel + 1, k :: rest, s =>
    if isFree pairs k then cycle? pairs all fuel rest s
    else
      match s.here with
      | none => cycle? pairs all fuel rest { s with here := some k }
      | some here =>
        if (followers pairs k).contains here then
          if (s.steps.lookup k).isSome then
            some (trail s.steps k (s.steps.length + 1) here, (k, here))
          else cycle? pairs all fuel rest ⟨some k, (k, here) :: s.steps⟩
        else cycle? pairs all fuel rest s

/-- Names in an order in which each comes after those that lead to it. A cycle is told and broken. -/
def arrange (tell : List String → Act Unit) : Nat → List String → Pairs → Act Unit
  | 0, _, _ => return
  | _, [], _ => return
  | fuel + 1, names, pairs => do
    let (sorted, pairs) := drain (names.length + 1) (names.filter (isFree pairs)) pairs
    print (joinRecords '\n' sorted)
    let names := names.filter (!sorted.contains ·)
    if !names.isEmpty then
      match cycle? pairs names (2 * (names.length + 2) * (names.length + 2)) names ⟨none, []⟩ with
      | none => return
      | some (found, closing) =>
        tell found
        arrange tell fuel names (pairs.erase closing)

def run : Act Unit := do
  let a ← readArguments 1 []
  if let extra :: _ := a.operands.drop 1 then misused 1 ("extra operand " ++ Quotation.quoted extra)
  let path := a.operands.headD "-"
  match ← textOf path with
  | .error fault =>
    let reading := if fault == .isDirectory then "read error: " else ""
    fail 1 (Quotation.shown path ++ ": " ++ reading ++ fault.reason)
  | .ok text =>
    let words := ((text.toList.splitOnP Numeral.isSpace).filter (!·.isEmpty)).map String.ofList
    if words.length % 2 == 1 then fail 1 (Quotation.shown path ++ ": input contains an odd number of tokens")
    let rec pairs : List String → Pairs
      | x :: y :: rest => (x, y) :: pairs rest
      | _ => []
    let all := (pairs words).reverse.filter fun (x, y) => x != y
    let names := (words.mergeSort fun x y => x ≤ y).eraseDups
    let tell (found : List String) : Act Unit := do
      complain (Quotation.shown path ++ ": input contains a loop:")
      found.forM complain
      atLeast 1
    arrange tell (names.length + all.length + 1) names all

end Topological
end BuildRunner.Sandbox.Utility
