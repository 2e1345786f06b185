import BuildRunner.Sandbox.Utility.Reading

/-! Programs that work on the columns of lines: they cut them out, paste them together, fold long
lines, and turn tabs into blanks and back. -/
namespace BuildRunner.Sandbox.Utility
open Act Text

namespace Cut

/-- Places from one on, up to another one if it is given. -/
structure Stretch where
  first : Nat
  last : Option Nat

def holds (list : List Stretch) (n : Nat) : Bool :=
  list.any fun s => s.first ≤ n && s.last.all (n ≤ ·)

def stretch (what : String) (text : String) : Act Stretch := do
  let number (part : String) : Act Nat := do
    match Numeral.natural? part with
    | some n =>
      if n + 1 ≥ 1 <<< 64 then
        misused 1 ((if what == "field" then "field number " else "byte/character offset ") ++
          Quotation.quoted part ++ " is too large")
      return n
    | none => misused 1 ("invalid " ++ what ++ " value " ++ Quotation.quoted text)
  let nonzero (n : Nat) : Act Nat := do
    if n == 0 then
      misused 1 ((if what == "field" then "fields" else "byte/character positions") ++ " are numbered from 1")
    return n
  match text.splitOn "-" with
  | [""] => nonzero 0 >>= fun n => return ⟨n, none⟩
  | [part] =>
    let n ← nonzero (← number part)
    return ⟨n, some n⟩
  | ["", ""] => misused 1 "invalid range with no endpoint: -"
  | [low, ""] => return ⟨← nonzero (← number low), none⟩
  | ["", high] => return ⟨1, some (← number high)⟩
  | [low, high] =>
    let first ← nonzero (← number low)
    let last ← number high
    if last < first then misused 1 "invalid decreasing range"
    return ⟨first, some last⟩
  | _ => misused 1 (if what == "field" then "invalid field range" else "invalid byte or character range")

def list (what text : String) : Act (List Stretch) := do
  let separators := fun c => c == ',' || c == ' ' || c == '\t'
  (text.toList.splitOnP separators).mapM fun part => stretch what (String.ofList part)

/-- Chosen octets of a line, with a text between stretches that do not touch. -/
def octets (chosen : Nat → Bool) (between : String) : Nat → Bool → Bool → List Char → List (List Char)
  | _, _, _, [] => []
  | n, any, adjacent, c :: rest =>
    if chosen n then
      (if any && !adjacent then between.toList ++ [c] else [c]) :: octets chosen between (n + 1) true true rest
    else octets chosen between (n + 1) any false rest

def switches : List Switch :=
  [.value 'b' "bytes", .value 'c' "characters", .value 'f' "fields", .value 'd' "delimiter",
   .flag 's' "only-delimited", .flag 'n' "", .flag 'z' "zero-terminated", .word "complement" .plain,
   .word "output-delimiter" .required]

def run : Act Unit := do
  let a ← readArguments 1 switches
  let lists := a.switches.filter fun (k, _) => k == "b" || k == "c" || k == "f"
  let (key, text) ← match lists with
    | [] => misused 1 "you must specify a list of bytes, characters, or fields"
    | [one] => pure one
    | _ => misused 1 "only one list may be specified"
  let isFields := key == "f"
  let delimiter := match a.get? "d" with
    | some "" => "\x00"
    | some d => d
    | none => "\t"
  if delimiter.length > 1 then misused 1 "the delimiter must be a single character"
  let list ← list (if isFields then "field" else "byte/character position") text
  if !isFields && a.has "d" then
    misused 1 "an input delimiter may be specified only when operating on fields"
  if !isFields && a.has "s" then
    misused 1 "suppressing non-delimited lines makes sense\n\tonly when operating on fields"
  let chosen (n : Nat) : Bool := holds list n != a.has "complement"
  let mark := if a.has "z" then '\x00' else '\n'
  let line (text : String) : Option String :=
    if isFields then
      let parts := text.splitOn delimiter
      if parts.length ≤ 1 then (if a.has "s" then none else some text)
      else
        let found := ((List.range parts.length).zip parts).filter fun (n, _) => chosen (n + 1)
        some (((a.get? "output-delimiter").getD delimiter).intercalate (found.map (·.2)))
    else
      let between := (a.get? "output-delimiter").getD ""
      some (String.ofList (octets chosen between 1 false false text.toList).flatten)
  eachInput a.operands complainAbout fun _ text =>
    print (joinRecords mark ((recordsOf mark text).filterMap line))

end Cut

namespace Paste

/-- A list of separators, with escapes; an empty one stands for nothing. -/
def separators : List Char → Option (List String)
  | [] => some []
  | ['\\'] => none
  | '\\' :: c :: rest =>
    let found := match c with
      | '0' => ""
      | 'n' => "\n"
      | 't' => "\t"
      | 'b' => "\x08"
      | 'f' => "\x0c"
      | 'r' => "\r"
      | 'v' => "\x0b"
      | c => c.toString
    (separators rest).map (found :: ·)
  | c :: rest => (separators rest).map (c.toString :: ·)

/-- Parts with separators between them, which are used in turn. -/
def joined (all : List String) : List String → List String → String
  | [], _ => ""
  | [last], _ => last
  | part :: rest, [] => part ++ (all.headD "") ++ joined all rest all.tail
  | part :: rest, s :: more => part ++ s ++ joined all rest more

def rows : Nat → List (List String) → List (List String)
  | 0, _ => []
  | fuel + 1, columns =>
    if columns.all List.isEmpty then []
    else columns.map (·.headD "") :: rows fuel (columns.map List.tail)

def run : Act Unit := do
  let a ← readArguments 1 [.value 'd' "delimiters", .flag 's' "serial", .flag 'z' "zero-terminated"]
  let given := (a.get? "d").getD "\t"
  let all ← match separators (if given.isEmpty then ['\\', '0'] else given.toList) with
    | some all => pure all
    | none => fail 1 ("delimiter list ends with an unescaped backslash: " ++ given)
  let mark := if a.has "z" then '\x00' else '\n'
  let paths := if a.operands.isEmpty then ["-"] else a.operands
  let dashes := (paths.filter (· == "-")).length
  if a.has "s" then
    eachInput paths complainAbout fun _ text =>
      print ((joined all (recordsOf mark text) all).push mark)
  else
    let input ← if dashes > 0 then textOf "-" else pure (.ok "")
    let (columns, _) ← paths.foldlM
      (fun ((columns, dash) : List (List String) × Nat) path => do
        let text ← if path == "-" then pure input else textOf path
        match text with
        | .error fault =>
          complain (Quotation.shown path ++ ": " ++ fault.reason)
          exit 1
        | .ok text =>
          let lines := recordsOf mark text
          if path == "-" then
            let mine := ((List.range lines.length).zip lines).filter fun (n, _) => n % dashes == dash
            return (columns ++ [mine.map (·.2)], dash + 1)
          else return (columns ++ [lines], dash))
      ([], 0)
    let count := columns.foldl (fun n c => max n c.length) 0
    print (joinRecords mark ((rows count columns).map fun row => joined all row all))

end Paste

/-! Tabs and widths -/

namespace Fold

/-- The column after a character. -/
def column (inOctets : Bool) (column : Nat) (c : Char) : Nat :=
  if inOctets then column + 1
  else
    match c with
    | '\x08' => column - 1
    | '\r' => 0
    | '\t' => column + 8 - column % 8
    | _ => column + 1

def columnsOf (inOctets : Bool) (line : List Char) : Nat := line.foldl (column inOctets) 0

def folded (width : Nat) (inOctets atBlanks : Bool) : Nat → List Char → List Char → List String
  | 0, held, rest => [String.ofList (held.reverse ++ rest)]
  | _, held, [] => [String.ofList held.reverse]
  | fuel + 1, held, c :: rest =>
    if columnsOf inOctets (c :: held).reverse > width && !held.isEmpty then
      let tail := held.takeWhile fun c => c != ' ' && c != '\t'
      if atBlanks && tail.length < held.length then
        String.ofList (held.drop tail.length).reverse :: folded width inOctets atBlanks fuel tail (c :: rest)
      else String.ofList held.reverse :: folded width inOctets atBlanks fuel [] (c :: rest)
    else folded width inOctets atBlanks fuel (c :: held) rest

/-- Rewrites widths that are given as bare numbers. -/
def modern (words : List String) : List String :=
  words.map fun w =>
    match w.toList with
    | '-' :: c :: rest => if c.isDigit then "-w" ++ String.ofList (c :: rest) else w
    | _ => w

def run : Act Unit := do
  modify fun r => { r with process := { r.process with arguments := modern r.process.arguments } }
  let a ← readArguments 1 [.flag 'b' "bytes", .flag 'c' "characters", .flag 's' "spaces", .value 'w' "width"]
  let width ← match a.get? "w" with
    | none => pure 80
    | some text =>
      match Numeral.natural? text with
      | some 0 => fail 1 ("invalid number of columns: " ++ Quotation.quoted text ++ ": Numerical result out of range")
      | some n => pure n
      | none => fail 1 ("invalid number of columns: " ++ Quotation.quoted text)
  eachInput a.operands complainAbout fun _ text => do
    let lines := (linesOf text).flatMap fun line =>
      folded width (a.has "b") (a.has "s") (2 * line.length + 2) [] line.toList
    let shown := "\n".intercalate lines
    print (if isOpenEnded '\n' text || text.isEmpty then shown else shown ++ "\n")

end Fold

/-- Places of tabs: at fixed columns, and then at multiples of a width or, if there is none, at every
column. -/
structure Tabs where
  fixed : List Nat
  /-- What further places are multiples of, counted from a column. -/
  every : Option (Nat × Nat)

namespace Tabs

/-- The place of the next tab after a column; nothing if no tab is left. -/
def next? (t : Tabs) (column : Nat) : Option Nat :=
  match t.fixed.find? (column < ·) with
  | some place => some place
  | none => t.every.map fun (start, n) => column + n - (column - start) % n

def parse (text : String) : Act Tabs := do
  let parts := text.toList.splitOnP fun c => c == ',' || c == ' ' || c == '\t'
  let numbers ← (parts.filter (!·.isEmpty)).mapM fun part => do
    let mark := part.headD ' '
    let digits := if mark == '/' || mark == '+' then part.tail else part
    match Numeral.natural? (String.ofList digits) with
    | some 0 => if mark == '/' || mark == '+' then pure (mark, 0) else fail 1 "tab size cannot be 0"
    | some n => pure (mark, n)
    | none =>
      fail 1 ("tab size contains invalid character(s): " ++
        Quotation.quoted (String.ofList (digits.dropWhile Char.isDigit)))
  let isPlain (c : Char) : Bool := c != '/' && c != '+'
  let plain := (numbers.filter fun (c, _) => isPlain c).map (·.2)
  let every := ((numbers.filter fun (c, n) => !isPlain c && n > 0)).getLast?
  if (plain.zip plain.tail).any fun (a, b) => b ≤ a then fail 1 "tab sizes must be ascending"
  match plain, every with
  | [], none => return ⟨[], some (0, 8)⟩
  | [n], none => return ⟨[], some (0, n)⟩
  | plain, every =>
    return ⟨plain, every.map fun (c, n) => (if c == '+' then plain.getLastD 0 else 0, n)⟩

/-- Rewrites places that are given as bare numbers. -/
def modern (words : List String) : List String :=
  words.map fun w =>
    match w.toList with
    | '-' :: c :: rest => if c.isDigit then "-t" ++ String.ofList (c :: rest) else w
    | _ => w

def read (a : Arguments) : Act Tabs :=
  match a.getAll "t" with
  | [] => return ⟨[], some (0, 8)⟩
  | all => parse (",".intercalate all)

end Tabs

namespace Expand

/-- Blanks in place of tabs. Once something else has come, tabs may be left alone. -/
def line (t : Tabs) (onlyFirst : Bool) : Nat → Bool → List Char → List Char
  | _, _, [] => []
  | column, started, c :: rest =>
    if c == '\t' && !(onlyFirst && started) then
      let place := (t.next? column).getD (column + 1)
      List.replicate (place - column) ' ' ++ line t onlyFirst place started rest
    else
      let after := if c == '\x08' then column - 1 else column + 1
      c :: line t onlyFirst after (started || (c != ' ' && c != '\t')) rest

def run : Act Unit := do
  modify fun r => { r with process := { r.process with arguments := Tabs.modern r.process.arguments } }
  let a ← readArguments 1 [.flag 'i' "initial", .value 't' "tabs"]
  let t ← Tabs.read a
  eachInput a.operands complainAbout fun _ text => do
    let lines := (linesOf text).map fun l => String.ofList (line t (a.has "i") 0 false l.toList)
    let shown := "\n".intercalate lines
    print (if isOpenEnded '\n' text || text.isEmpty then shown else shown ++ "\n")

end Expand

namespace Unexpand

/-- Tabs in place of blanks that lead up to their places: at the start of a line, or everywhere. One
blank alone before a place inside of a line stays. -/
def line (t : Tabs) (everywhere : Bool) : Nat → List Char → Bool → Bool → List Char → List Char
  | _, held, _, _, [] => held.reverse
  | column, held, active, blankBefore, c :: rest =>
    if active && (c == ' ' || c == '\t') then
      match t.next? column with
      | none => held.reverse ++ c :: rest
      | some place =>
        if c == '\t' then
          '\t' :: line t everywhere place [] active true rest
        else
          let column := column + 1
          if column == place then
            if held.isEmpty && !blankBefore && column > 1 && rest.head? != some ' ' && rest.head? != some '\t' then
              ' ' :: line t everywhere column [] active true rest
            else '\t' :: line t everywhere column [] active true rest
          else line t everywhere column (' ' :: held) active blankBefore rest
    else
      let column := if c == '\x08' then column - 1 else column + 1
      held.reverse ++ c :: line t everywhere column [] (active && everywhere) false rest

def run : Act Unit := do
  modify fun r => { r with process := { r.process with arguments := Tabs.modern r.process.arguments } }
  let a ← readArguments 1 [.flag 'a' "all", .word "first-only" .plain, .value 't' "tabs"]
  let t ← Tabs.read a
  let everywhere := (a.has "a" || a.has "t") && !a.has "first-only"
  eachInput a.operands complainAbout fun _ text => do
    let lines := (linesOf text).map fun l => String.ofList (line t everywhere 0 [] true false l.toList)
    let shown := "\n".intercalate lines
    print (if isOpenEnded '\n' text || text.isEmpty then shown else shown ++ "\n")

end Unexpand
end BuildRunner.Sandbox.Utility
