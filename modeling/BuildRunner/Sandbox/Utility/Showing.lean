import BuildRunner.Sandbox.Regex
import BuildRunner.Sandbox.Utility.Reading

/-! Programs that show files: whole, backwards, from their beginning or up to their end, and with
numbered lines. -/
namespace BuildRunner.Sandbox.Utility
open Act Text

namespace Cat

structure Style where
  numbers : Bool
  numbersFilled : Bool
  squeezes : Bool
  showsEnds : Bool
  showsTabs : Bool
  showsControls : Bool

/-- Where the writing stands: the number of the last line, whether a line begins here, and how many
empty lines came before. -/
structure State where
  line : Nat
  atStart : Bool
  blanks : Nat

def control (c : Char) : List Char := ['^', Char.ofNat ((c.toNat + 64) % 128)]

def visible (s : Style) (c : Char) : List Char :=
  let n := c.toNat
  if c == '\t' then (if s.showsTabs then ['^', 'I'] else [c])
  else if !s.showsControls then [c]
  else
    let low (n : Nat) : List Char :=
      if n < 32 then control (Char.ofNat n) else if n < 127 then [Char.ofNat n] else ['^', '?']
    if n < 128 then low n else 'M' :: '-' :: low (n - 128)

def numberOf (n : Nat) : List Char :=
  let digits := Nat.toDigits 10 n
  List.replicate (6 - digits.length) ' ' ++ digits ++ ['\t']

def render (s : Style) : State → List Char → List (List Char) → State × List (List Char)
  | st, [], done => (st, done)
  | st, c :: rest, done =>
    if c == '\n' then
      let blanks := if st.atStart then st.blanks + 1 else 0
      if st.atStart && s.squeezes && blanks ≥ 2 then render s { st with blanks } rest done
      else
        let counts := st.atStart && s.numbers && !s.numbersFilled
        let line := if counts then st.line + 1 else st.line
        let ending := (if counts then numberOf line else []) ++ (if s.showsEnds then ['$', '\n'] else ['\n'])
        render s ⟨line, true, blanks⟩ rest (ending :: done)
    else
      let counts := st.atStart && s.numbers
      let line := if counts then st.line + 1 else st.line
      let shown :=
        if c == '\r' && s.showsEnds && rest.head? == some '\n' then ['^', 'M'] else visible s c
      render s ⟨line, false, st.blanks⟩ rest (((if counts then numberOf line else []) ++ shown) :: done)

def all (s : Style) : State → List String → Act Unit
  | _, [] => return
  | st, path :: rest => do
    match ← textOf path with
    | .error fault =>
      complainAbout path fault
      all s st rest
    | .ok text =>
      let (st, done) := render s st text.toList []
      emit (Octets.toByteArray (String.ofList done.reverse.flatten))
      all s st rest

def switches : List Switch :=
  [.flag 'b' "number-nonblank", .flag 'n' "number", .flag 's' "squeeze-blank", .flag 'v' "show-nonprinting",
   .flag 'E' "show-ends", .flag 'T' "show-tabs", .flag 'A' "show-all", .flag 'e' "", .flag 't' "", .flag 'u' ""]

/-- Copies files as they are. A file that is being written to is not copied into itself. -/
def plain (paths : List String) : Act Unit := do
  let sink := (← process).descriptor? 1
  paths.forM fun path => do
    match ← openInput path with
    | .error fault => complainAbout path fault
    | .ok source =>
      let m ← machine
      let isSame := match sink with
        | some sink =>
          let a := m.openFile source
          let b := m.openFile sink
          match a.channel, b.channel with
          | .node x, .node y => x == y && (m.files.node x).size > a.offset &&
              (match (m.files.node x).content with | .file _ => true | _ => false)
          | _, _ => false
        | none => false
      if isSame then
        complain (Quotation.shown path ++ ": input file is output file")
        atLeast 1
      else
        match m.read source none with
        | .error fault => complainAbout path fault
        | .ok (data, m) =>
          setMachine m
          emit data

def run : Act Unit := do
  let a ← readArguments 1 switches
  let paths := if a.operands.isEmpty then ["-"] else a.operands
  if ((← process).descriptor? 1).isNone then fail 1 ("standard output: " ++ Fault.reason .badDescriptor)
  let s : Style :=
    { numbers := a.has "n" || a.has "b", numbersFilled := a.has "b", squeezes := a.has "s"
      showsEnds := a.has "E" || a.has "A" || a.has "e", showsTabs := a.has "T" || a.has "A" || a.has "t"
      showsControls := a.has "v" || a.has "A" || a.has "e" || a.has "t" }
  if s.numbers || s.squeezes || s.showsEnds || s.showsTabs || s.showsControls then
    all s ⟨0, true, 0⟩ paths
  else plain paths
  if paths.contains "-" && ((← process).descriptor? 0).isNone then
    fail 1 ("closing standard input: " ++ Fault.reason .badDescriptor)

end Cat

namespace Tac

/-- The pieces of a text, each with the separator after it or before it, last piece first. -/
def pieces (separator : String) (isBefore : Bool) (s : String) : List String :=
  let parts := s.splitOn separator
  if isBefore then
    match parts with
    | first :: rest => ((if first.isEmpty then [] else [first]) ++ rest.map (separator ++ ·)).reverse
    | [] => []
  else
    let last := parts.getLastD ""
    (if last.isEmpty then [] else [last]) ++ (parts.dropLast.map (· ++ separator)).reverse

def run : Act Unit := do
  let a ← readArguments 1 [.flag 'b' "before", .flag 'r' "regex", .value 's' "separator"]
  let separator := (a.get? "s").getD "\n"
  let refuse (path : String) (fault : Fault) : Act Unit := do
    if fault == .isDirectory then
      complain (Quotation.shown path ++ ": read error: " ++ Fault.reason .invalidArgument)
    else complain ("failed to open " ++ Quotation.named path ++ " for reading: " ++ fault.reason)
    atLeast 1
  eachInput a.operands refuse fun _ text =>
    print (String.join (pieces (if separator.isEmpty then "\x00" else separator) (a.has "b") text))

end Tac

/-! Beginnings and ends of files -/

structure Portion where
  count : Nat
  inOctets : Bool
  /-- Whether the count is marked: all but the last for a beginning, from there on for an end. -/
  isMarked : Bool

def afterMarks (mark : UInt8) (data : ByteArray) : Nat → Nat → Nat → Nat
  | 0, _, i => i
  | fuel + 1, count, i =>
    if count == 0 || i ≥ data.size then i
    else afterMarks mark data fuel (if data.get! i == mark then count - 1 else count) (i + 1)

/-- The place after which a number of lines is left, counting from the end. -/
def beforeMarks (mark : UInt8) (data : ByteArray) : Nat → Nat → Nat
  | 0, _ => 0
  | i + 1, count =>
    if data.get! i == mark then
      if count == 0 then i + 1 else beforeMarks mark data i (count - 1)
    else beforeMarks mark data i count

/-- Where the last lines of a file begin. A last line counts without its mark, too. -/
def lastStart (mark : UInt8) (data : ByteArray) (count : Nat) : Nat :=
  if count == 0 then data.size
  else
    let isClosed := data.size > 0 && data.get! (data.size - 1) == mark
    if isClosed then beforeMarks mark data (data.size - 1) (count - 1)
    else beforeMarks mark data data.size (count - 1)

/-- Where the text after a number of lines begins. -/
def skipped (mark : UInt8) (p : Portion) (data : ByteArray) : Nat :=
  if p.inOctets then min p.count data.size else afterMarks mark data (data.size + 1) p.count 0

def tailStart (mark : UInt8) (p : Portion) (data : ByteArray) : Nat :=
  if p.inOctets then data.size - p.count else lastStart mark data p.count

/-- Old forms of a count: digits and letters behind a sign. -/
def oldCount? (word : List Char) : Option (Nat × List Char) :=
  let digits := word.takeWhile Char.isDigit
  if digits.isEmpty then none else some (Numeral.valueOf 10 digits, word.drop digits.length)

def showParts (operands : List String) (titled : Bool) (part : ByteArray → ByteArray)
    (consumed : ByteArray → Nat) : Act Unit := do
  let isFirst ← (if operands.isEmpty then ["-"] else operands).foldlM
    (fun (isFirst : Bool) path => do
      let refuse (fault : Fault) : Act Bool := do
        if fault == .isDirectory then
          if titled then
            print ((if isFirst then "" else "\n") ++ "==> " ++ path ++ " <==\n")
          complain ("error reading " ++ Quotation.named path ++ ": " ++ fault.reason)
          atLeast 1
          return isFirst && !titled
        complain ("cannot open " ++ Quotation.named path ++ " for reading: " ++ fault.reason)
        atLeast 1
        return isFirst
      match ← openInput path with
      | .error fault => refuse fault
      | .ok number =>
        let offset := ((← machine).openFile number).offset
        match (← machine).read number none with
        | .error fault => refuse fault
        | .ok (data, m) =>
          let place := offset + consumed data
          setMachine { m with opened := m.opened.modify number fun f =>
            match f.channel with
            | .node _ => { f with offset := place }
            | .pipe _ => f }
          if titled then
            let name := if path == "-" then "standard input" else path
            print ((if isFirst then "" else "\n") ++ "==> " ++ name ++ " <==\n")
          print (Octets.ofByteArray (part data))
          return false)
    true
  let _ := isFirst

def portion (a : Arguments) (isMarked : Char → Bool) (start : Nat) : Act Portion := do
  match (a.switches.filter fun (k, _) => k == "n" || k == "c").getLast? with
  | none => return ⟨start, false, false⟩
  | some (key, value) =>
    let marked := value.toList.head?.any isMarked
    let given := if marked || value.startsWith "-" || value.startsWith "+" then (value.drop 1).toString else value
    match scaled? given with
    | some n => return ⟨n, key == "c", marked⟩
    | none =>
      let shown := if marked then given else value
      fail 1 ("invalid number of " ++ (if key == "c" then "bytes" else "lines") ++ ": " ++ Quotation.quoted shown)

def portionSwitches : List Switch :=
  [.value 'n' "lines", .value 'c' "bytes", .letter 'q' "quiet" .plain, .word "silent" .plain,
   .flag 'v' "verbose", .flag 'z' "zero-terminated"]

def isTitled (a : Arguments) : Bool :=
  match a.lastOf ["q", "v", "silent"] with
  | some "v" => true
  | some _ => false
  | none => a.operands.length > 1

def markOf (a : Arguments) : UInt8 := if a.has "z" then 0 else Utf8.lineFeed

namespace Head

/-- Rewrites an old form of the first argument, a count behind a dash. -/
def modern : List String → List String
  | word :: rest =>
    match word.toList with
    | '-' :: more =>
      match oldCount? more with
      | some (n, letters) =>
        let isOctets := letters.any "cbkm".toList.contains
        let unit := (letters.filter "bkm".toList.contains).map fun c => if c == 'b' then 'b' else c.toUpper
        let others := (letters.filter "qv".toList.contains).map fun c => String.ofList ['-', c]
        [if isOctets then "-c" else "-n", toString n ++ String.ofList unit] ++ others ++ rest
      | none => word :: rest
    | _ => word :: rest
  | [] => []

def run : Act Unit := do
  modify fun r => { r with process := { r.process with arguments := modern r.process.arguments } }
  let a ← readArguments 1 portionSwitches
  let p ← portion a (· == '-') 10
  let mark := markOf a
  let stop (data : ByteArray) : Nat :=
    if p.isMarked then tailStart mark p data else skipped mark p data
  showParts a.operands (isTitled a) (fun data => data.extract 0 (stop data)) stop

end Head

namespace Tail

def filesOf (rest : List String) : List String := if rest.head? == some "--" then rest.tail else rest

/-- Rewrites an old form of the first argument, a count behind a dash or a plus sign, if at most one
file follows. -/
def modern : List String → List String
  | word :: rest =>
    let sign := word.toList.headD ' '
    if (sign == '-' || sign == '+') && (filesOf rest).length ≤ 1 then
      let digits := word.toList.tail.takeWhile Char.isDigit
      let letters := word.toList.drop (digits.length + 1)
      let unit := letters.takeWhile "bcl".toList.contains
      let after := (letters.drop unit.length).dropWhile (· == 'f')
      let isOld := after.isEmpty && unit.length ≤ 1 &&
        (!digits.isEmpty || (!unit.isEmpty && (sign == '+' || unit == ['b'])))
      if isOld then
        let count := (if sign == '+' then "+" else "") ++ (if digits.isEmpty then "10" else String.ofList digits)
        let isOctets := unit == ['c'] || unit == ['b']
        (if isOctets then "-c" else "-n") :: (count ++ (if unit == ['b'] then "b" else "")) :: rest
      else word :: rest
    else word :: rest
  | [] => []

def switches : List Switch :=
  portionSwitches ++ [.letter 'f' "follow" .plain, .flag 'F' "", .word "retry" .plain,
    .value 's' "sleep-interval", .word "pid" .required]

def run : Act Unit := do
  let given ← arguments
  let isCount := match (given.headD "").toList with
    | '-' :: c :: _ => c.isDigit
    | _ => false
  if isCount && modern given == given then
    fail 1 ("option used in invalid context -- " ++ String.ofList (((given.headD "").toList.drop 1).take 1))
  modify fun r => { r with process := { r.process with arguments := modern given } }
  let a ← readArguments 1 switches
  let p ← portion a (· == '+') 10
  if p.count == 0 && !p.isMarked then return
  let mark := markOf a
  let start (data : ByteArray) : Nat :=
    if p.isMarked then skipped mark { p with count := p.count - 1 } data else tailStart mark p data
  showParts a.operands (isTitled a) (fun data => data.extract (start data) data.size) ByteArray.size

end Tail

namespace Tee

def run : Act Unit := do
  let a ← readArguments 1
    [.flag 'a' "append", .flag 'i' "ignore-interrupts", .flag 'p' "", .word "output-error" .optional]
  let mode : OpenMode := if a.has "a" then .appending else .writing
  let files ← a.operands.filterMapM fun path => do
    match ← openPath path mode with
    | .ok number => return some (path, number)
    | .error fault =>
      complainAbout path fault
      return none
  match ← readAll 0 with
  | .error fault => fail 1 ("read error: " ++ fault.reason)
  | .ok data =>
    if let some fault ← writeTo 1 data then
      complain ("standard output: " ++ fault.reason)
      atLeast 1
    files.forM fun (path, number) => do
      match (← machine).write number data with
      | .ok m => setMachine m
      | .error fault => complainAbout path fault

end Tee

namespace Number

inductive Choice where
  | all
  | filled
  | none
  | matching (r : Regex)

structure Layout where
  header : Choice
  body : Choice
  footer : Choice
  delimiter : String
  step : Int
  start : Int
  blanks : Nat
  separator : String
  width : Nat
  format : String
  renumbers : Bool

structure State where
  choice : Choice
  next : Int
  blanks : Nat

def choice (what value : String) : Act Choice := do
  match value.toList with
  | ['a'] => return .all
  | ['t'] => return .filled
  | ['n'] => return .none
  | 'p' :: pattern =>
    match Regex.parse false false (String.ofList pattern) with
    | .ok (r, _) => return .matching r
    | .error message => fail 1 message
  | _ => misused 1 ("invalid " ++ what ++ " numbering style: " ++ Quotation.quoted value)

def numbered (l : Layout) (n : Int) : String :=
  let digits := toString n.natAbs
  let sign := if n < 0 then "-" else ""
  let fill (c : Char) (used : Nat) : String := String.ofList (List.replicate (l.width - used) c)
  let used := digits.length + sign.length
  match l.format with
  | "ln" => sign ++ digits ++ fill ' ' used
  | "rz" => sign ++ fill '0' used ++ digits
  | _ => fill ' ' used ++ sign ++ digits

/-- One line: what is written for it, and how things stand after it. -/
def line (l : Layout) (s : State) (text : String) : State × String :=
  let start := if l.renumbers then l.start else s.next
  let d := l.delimiter
  if !d.isEmpty && text == d ++ d ++ d then (⟨l.header, start, 0⟩, "\n")
  else if !d.isEmpty && text == d ++ d then (⟨l.body, start, 0⟩, "\n")
  else if !d.isEmpty && text == d then (⟨l.footer, start, 0⟩, "\n")
  else
    let plain := String.ofList (List.replicate (l.width + l.separator.length) ' ') ++ text ++ "\n"
    let counted (s : State) : State × String :=
      ({ s with next := s.next + l.step }, numbered l s.next ++ l.separator ++ text ++ "\n")
    match s.choice with
    | .all =>
      if l.blanks > 1 then
        if !text.isEmpty then counted { s with blanks := 0 }
        else if s.blanks + 1 == l.blanks then counted { s with blanks := 0 }
        else ({ s with blanks := s.blanks + 1 }, plain)
      else counted s
    | .filled => if text.isEmpty then (s, plain) else counted s
    | .none => (s, plain)
    | .matching r => if r.finds text then counted s else (s, plain)

def switches : List Switch :=
  [.value 'b' "body-numbering", .value 'd' "section-delimiter", .value 'f' "footer-numbering",
   .value 'h' "header-numbering", .value 'i' "line-increment", .value 'l' "join-blank-lines",
   .value 'n' "number-format", .flag 'p' "no-renumber", .value 's' "number-separator",
   .value 'v' "starting-line-number", .value 'w' "number-width"]

def integer (a : Arguments) (key what : String) (usual least : Int) : Act Int := do
  match a.get? key with
  | none => return usual
  | some text =>
    match Numeral.decimal? text.toList with
    | some (n, []) =>
      if n ≥ least then return n
      fail 1 ("invalid " ++ what ++ ": " ++ Quotation.quoted text ++ ": Numerical result out of range")
    | _ => fail 1 ("invalid " ++ what ++ ": " ++ Quotation.quoted text)

def run : Act Unit := do
  let a ← readArguments 1 switches
  let style (key what usual : String) : Act Choice := do choice what ((a.get? key).getD usual)
  let format := (a.get? "n").getD "rn"
  if !(["ln", "rn", "rz"].contains format) then
    misused 1 ("invalid line numbering format: " ++ Quotation.quoted format)
  let given := (a.get? "d").getD "\\:"
  let l : Layout :=
    { body := ← style "b" "body" "t", header := ← style "h" "header" "n", footer := ← style "f" "footer" "n"
      delimiter := if given.length == 1 then given ++ ":" else given
      step := ← integer a "i" "line number increment" 1 Word64.least
      start := ← integer a "v" "starting line number" 1 Word64.least
      blanks := (← integer a "l" "line number of blank lines" 1 1).toNat
      width := (← integer a "w" "line number field width" 6 1).toNat
      separator := (a.get? "s").getD "\t", format, renumbers := !a.has "p" }
  let s ← (if a.operands.isEmpty then ["-"] else a.operands).foldlM
    (fun (s : State) path => do
      match ← textOf path with
      | .error fault =>
        complainAbout path fault
        return s
      | .ok text =>
        let (s, done) := (linesOf text).foldl
          (fun (s, done) text => let (s, shown) := line l s text; (s, shown :: done)) (s, ([] : List String))
        print (String.join done.reverse)
        return s)
    ⟨l.body, l.start, 0⟩
  let _ := s

end Number
end BuildRunner.Sandbox.Utility
