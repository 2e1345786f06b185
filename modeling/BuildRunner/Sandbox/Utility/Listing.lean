import BuildRunner.Sandbox.Calendar
import BuildRunner.Sandbox.FileMode
import BuildRunner.Sandbox.Shell.Pattern
import BuildRunner.Sandbox.Tree
import BuildRunner.Sandbox.Utility.Ordering

/-! The list of what is in directories: which names are shown, in which order, with what is known of
each, in a line of their own or in columns. -/
namespace BuildRunner.Sandbox.Utility
namespace Listing
open Act Text

inductive Shape where
  | lines
  | long
  | commas
  | down
  | across
deriving DecidableEq

inductive Order where
  | name
  | none
  | size
  | time
  | ending
  | version
  | width
deriving DecidableEq

inductive Hidden where
  | hide
  | almostAll
  | all
deriving DecidableEq

inductive Marks where
  | none
  | slash
  | kinds
  | all
deriving DecidableEq

structure Manner where
  shape : Shape
  order : Order
  reverses : Bool
  hidden : Hidden
  skipped : List Shell.Pattern
  hides : List Shell.Pattern
  marks : Marks
  onlyDirectory : Bool
  isDeep : Bool
  followsOperands : Bool
  followsAll : Bool
  showsBlocks : Bool
  showsNumber : Bool
  isHuman : Bool
  thousand : Nat
  numericOwner : Bool
  showsOwner : Bool
  showsGroup : Bool
  directoriesFirst : Bool
  width : Nat
  tab : Nat
  mark : Char
  quote : String → String
  timeStyle : String
  now : Nat

/-- A name with the node that it shows, and the kind of what a link leads to. -/
structure Item where
  name : String
  path : String
  id : NodeId
  node : Node
  target : Option Node

def blocks (node : Node) : Nat :=
  match node.content with
  | .file _ | .directory .. | .binary _ => (node.size + 4095) / 4096 * 4
  | _ => 0

def markOf (marks : Marks) (node : Node) : String :=
  match marks, node.content with
  | .none, _ => ""
  | _, .directory .. => "/"
  | .slash, _ => ""
  | _, .link _ => "@"
  | _, .fifo => "|"
  | .all, .file _ | .all, .binary _ => if node.mode &&& 0o111 != 0 then "*" else ""
  | _, _ => ""

def kindLetter (node : Node) : Char :=
  match node.content with
  | .directory .. => 'd'
  | .link _ => 'l'
  | .fifo => 'p'
  | .device _ => 'c'
  | _ => '-'

/-- A size with a unit, rounded up to one place where it has one digit. -/
def human (base : Nat) (size : Nat) : String :=
  let units := if base == 1000 then "kMGTPE".toList else "KMGTPE".toList
  let rec go : Nat → Nat → List Char → String
    | _, _, [] => toString size
    | 0, _, _ => toString size
    | fuel + 1, scale, u :: rest =>
      let tenths := (size * 10 + scale - 1) / scale
      if tenths < 100 then toString (tenths / 10) ++ "." ++ toString (tenths % 10) ++ u.toString
      else
        let whole := (size + scale - 1) / scale
        if whole < base then toString whole ++ u.toString else go fuel (scale * base) rest
  if size < base then toString size else go 10 base units

/-! Quoting -/

def escaped (inQuotes : Bool) (name : String) : String :=
  let body := name.toList.flatMap fun c =>
    if c == '\\' then ['\\', '\\']
    else if c == '"' && inQuotes then ['\\', '"']
    else if c == ' ' && !inQuotes then ['\\', ' ']
    else if Quotation.isPrintable c then [c]
    else '\\' :: Quotation.escapeTail c
  if inQuotes then "\"" ++ String.ofList body ++ "\"" else String.ofList body

def covered (name : String) : String := name.map fun c => if Quotation.isPrintable c then c else '?'

def shellAlways (name : String) : String :=
  if name.contains '\'' && !(name.any fun c => "\"$\\!".toList.contains c || c == '\x60') then "\"" ++ name ++ "\""
  else "'" ++ "'\\''".intercalate (name.splitOn "'") ++ "'"

def quoting? (style : String) : String → String :=
  match style with
  | "c" => escaped true
  | "escape" => escaped false
  | "shell" => fun name => if Quotation.bare name == name then name else shellAlways name
  | "shell-always" => shellAlways
  | "shell-escape" => Quotation.bare
  | "shell-escape-always" => Quotation.named
  | _ => id

/-! Order -/

def endingOf (name : String) : String :=
  match (name.splitOn ".").reverse with
  | last :: _ :: _ => "." ++ last
  | _ => ""

def precedes (how : Manner) (a b : Item) : Bool :=
  let byName := a.name ≤ b.name
  match how.order with
  | .name => byName
  | .none => true
  | .size => if a.node.size == b.node.size then byName else a.node.size > b.node.size
  | .time => if a.node.changed == b.node.changed then byName else a.node.changed > b.node.changed
  | .ending => if endingOf a.name == endingOf b.name then byName else endingOf a.name < endingOf b.name
  | .version => Utility.LineOrder.versions a.name.toList b.name.toList != .gt
  | .width => if a.name.length == b.name.length then byName else a.name.length < b.name.length

def isDirectoryItem (i : Item) : Bool := i.node.isDirectory || i.target.any (·.isDirectory)

def arranged (how : Manner) (items : List Item) : List Item :=
  let sorted := if how.order == .none then items else items.mergeSort (precedes how)
  let sorted := if how.reverses && how.order != .none then
      -- equal ones cannot be told apart, so that the reverse list is the list in reverse
      sorted.reverse
    else sorted
  if how.directoriesFirst then
    sorted.filter isDirectoryItem ++ sorted.filter (!isDirectoryItem ·)
  else sorted

/-! Layout -/

def padLeft (width : Nat) (s : String) : String := String.ofList (List.replicate (width - s.length) ' ') ++ s

def padRight (width : Nat) (s : String) : String := s ++ String.ofList (List.replicate (width - s.length) ' ')

def widest (texts : List String) : Nat := (texts.map String.length).foldl max 0

def shownName (how : Manner) (i : Item) : String := how.quote i.name ++ markOf how.marks i.node

/-- What stands in front of a name: its number and its size in blocks. -/
def front (how : Manner) (numbers sizes : Nat) (i : Item) : String :=
  (if how.showsNumber then padLeft numbers (toString i.id) ++ " " else "") ++
    (if how.showsBlocks then padLeft sizes (if how.isHuman then human how.thousand (blocks i.node * 1024) else toString (blocks i.node)) ++ " "
    else "")

def fronts (how : Manner) (items : List Item) : List String :=
  let numbers := widest (items.map fun i => toString i.id)
  let sizes := widest (items.map fun i =>
    if how.isHuman then human how.thousand (blocks i.node * 1024) else toString (blocks i.node))
  items.map (front how numbers sizes)

def indent (tab : Nat) : Nat → Nat → Nat → String
  | 0, _, _ => ""
  | fuel + 1, start, stop =>
    if start ≥ stop then ""
    else if tab != 0 && stop / tab > (start + 1) / tab then "\t" ++ indent tab fuel (start + tab - start % tab) stop
    else " " ++ indent tab fuel (start + 1) stop

def columns (width : Nat) (down : Bool) (lengths : List Nat) : List Nat :=
  let n := lengths.length
  let most := max 1 (min (if width == 0 then n else width / 3) n)
  let indexed := (List.range n).zip lengths
  let widths (count : Nat) : List Nat :=
    (List.range count).map fun column =>
      let mine := indexed.filter fun (k, _) =>
        (if down then k / ((n + count - 1) / count) else k % count) == column
      (mine.map fun (_, len) => len + (if column + 1 == count then 0 else 2)).foldl max 3
  let fits (count : Nat) : Bool := width == 0 || (widths count).foldl (· + ·) 0 < width
  let best := ((List.range most).reverse.map (· + 1)).find? fits
  widths (best.getD 1)

def table (how : Manner) (down : Bool) (names : List String) : String :=
  let lengths := names.map String.length
  let widths := columns how.width down lengths
  let count := widths.length
  let n := names.length
  let rows := (n + count - 1) / count
  let rowText (cells : List Nat) : String :=
    let rec go : List (Nat × Nat) → Nat → String
      | [], _ => ""
      | [(k, _)], _ => names.getD k ""
      | (k, w) :: rest, start =>
        let name := names.getD k ""
        name ++ indent how.tab 1000 (start + name.length) (start + w) ++ go rest (start + w)
    go (cells.zip widths) 0
  String.join ((List.range rows).map fun row =>
    let cells := if down then (List.range count).map (row + · * rows) else (List.range count).map (row * count + ·)
    rowText (cells.filter (· < n)) ++ how.mark.toString)

def commaText (how : Manner) : Nat → List String → String
  | _, [] => ""
  | _, [name] => name
  | place, name :: next :: rest =>
    let place := place + name.length
    if how.width == 0 || place + next.length + 2 < how.width then
      name ++ ", " ++ commaText how (place + 2) (next :: rest)
    else name ++ ",\n" ++ commaText how 0 (next :: rest)

def timeText (how : Manner) (moment : Nat) : String :=
  let giga : Nat := 1000000000
  let t := Calendar.ofSeconds (moment / giga)
  let write (format : String) : String := Calendar.format (moment % giga) t (format.length + 1) format.toList
  let isRecent := moment ≤ how.now && how.now - moment < 15778476 * giga
  match how.timeStyle with
  | "full-iso" => write "%Y-%m-%d %H:%M:%S.%N %z"
  | "long-iso" => write "%Y-%m-%d %H:%M"
  | "iso" => write (if isRecent then "%m-%d %H:%M" else "%Y-%m-%d ")
  | style =>
    if style.startsWith "+" then write (style.drop 1).toString
    else write (if isRecent then "%b %e %H:%M" else "%b %e  %Y")

/-- One line for each item with all that is known of it. -/
def longText (how : Manner) (items : List Item) : String :=
  let owner := if how.numericOwner then "0" else "root"
  let size (i : Item) : String :=
    match i.node.content with
    | .device .null => "1, 3"
    | .device .zero => "1, 5"
    | .device .full => "1, 7"
    | _ => if how.isHuman then human how.thousand i.node.size else toString i.node.size
  let links := widest (items.map fun i => toString i.node.links)
  let sizes := widest (items.map size)
  String.join ((items.zip (fronts how items)).map fun (i, front) =>
    let target := match i.node.content with
      | .link text => " -> " ++ how.quote text ++ (i.target.elim "" (markOf how.marks))
      | _ => ""
    let mark := match i.node.content with | .link _ => "" | _ => markOf how.marks i.node
    front ++ (kindLetter i.node).toString ++ FileMode.letters i.node.mode ++ " " ++
      padLeft links (toString i.node.links) ++ " " ++
      (if how.showsOwner then owner ++ " " else "") ++ (if how.showsGroup then owner ++ " " else "") ++
      padLeft sizes (size i) ++ " " ++ timeText how i.node.changed ++ " " ++ how.quote i.name ++ mark ++ target ++
      how.mark.toString)

def text (how : Manner) (items : List Item) : String :=
  if items.isEmpty then ""
  else
    let plain := (items.zip (fronts how items)).map fun (i, front) => front ++ shownName how i
    match how.shape with
    | .long => longText how items
    | .lines => String.join (plain.map (·.push how.mark))
    | .commas => (commaText how 0 plain).push how.mark
    | .down | .across =>
      if how.width == 0 then ("  ".intercalate plain).push how.mark else table how (how.shape == .down) plain

/-! Walking -/

def itemOf (how : Manner) (isOperand : Bool) (name path : String) : Act (Except Fault Item) := do
  let follow := how.followsAll || (isOperand && how.followsOperands)
  let make (id : NodeId) : Act Item := do
    let node ← nodeOf id
    let target ← if node.isLink then node? path true else pure none
    return ⟨name, path, id, node, target⟩
  match ← findNode path (follow || path.endsWith "/") with
  | .error fault =>
    if isOperand then return .error fault
    match ← findNode path false with
    | .error fault => return .error fault
    | .ok id => return .ok (← make id)
  | .ok id =>
    -- a link among the operands stands for the directory it leads to, unless links are shown as such
    let item ← make id
    let steps := isOperand && !follow && !how.onlyDirectory && how.shape != .long && how.marks != .all
    if steps && item.target.any (·.isDirectory) then
      match ← findNode path true with
      | .ok id => return .ok (← make id)
      | .error _ => return .ok item
    else return .ok item

def isShown (how : Manner) (name : String) : Bool :=
  let visible := how.hidden != .hide || !name.startsWith "."
  let matched (p : Shell.Pattern) : Bool :=
    p.matches name.toList && (!name.startsWith "." || p.head?.any (·.1 == '.'))
  visible && !how.skipped.any matched && !(how.hidden == .hide && how.hides.any matched)

def total (how : Manner) (items : List Item) : String :=
  if how.shape == .long || how.showsBlocks then
    let sum := (items.map fun i => blocks i.node).foldl (· + ·) 0
    "total " ++ (if how.isHuman then human how.thousand (sum * 1024) else toString sum) ++ how.mark.toString
  else ""

/-- Shows directories one after another, those in them too if this is asked for. -/
def showAll (how : Manner) (named : Bool) : Nat → Bool → List (Bool × String) → Act Unit
  | 0, _, _ => return
  | _, _, [] => return
  | fuel + 1, first, (isOperand, path) :: rest => do
    match ← findNode path true with
    | .error fault =>
      complain ("cannot open directory " ++ Quotation.named path ++ ": " ++ fault.reason)
      atLeast (if isOperand then 2 else 1)
      showAll how named fuel first rest
    | .ok id =>
      let own := if how.hidden == .all then [".", ".."] else []
      let names := own ++ ((← machine).files.sortedEntries id).map (·.1)
      let items ← (names.filter (isShown how)).filterMapM fun name => do
        return (← itemOf how false name (joined path name)).toOption
      let items := arranged how items
      if named then
        print ((if first then "" else "\n") ++ how.quote path ++ ":\n")
      print (total how items ++ text how items)
      let inner := if how.isDeep then
          (items.filter fun i => i.node.isDirectory && i.name != "." && i.name != "..").map fun i =>
            (false, joined path i.name)
        else []
      showAll how named fuel false (inner ++ rest)

def switches : List Switch :=
  [.flag 'a' "all", .flag 'A' "almost-all", .word "author" .plain, .flag 'b' "escape", .word "block-size" .required,
   .flag 'B' "ignore-backups", .flag 'c' "", .flag 'C' "", .word "color" .optional, .flag 'd' "directory",
   .flag 'D' "dired", .flag 'f' "", .letter 'F' "" .plain, .word "classify" .optional, .word "file-type" .plain,
   .word "format" .required, .word "full-time" .plain, .flag 'g' "", .word "group-directories-first" .plain,
   .flag 'G' "no-group", .flag 'h' "human-readable", .word "si" .plain, .flag 'H' "dereference-command-line",
   .word "dereference-command-line-symlink-to-dir" .plain, .word "hide" .required, .word "hyperlink" .optional,
   .word "indicator-style" .required, .flag 'i' "inode", .value 'I' "ignore", .flag 'k' "kibibytes", .flag 'l' "",
   .flag 'L' "dereference", .flag 'm' "", .flag 'n' "numeric-uid-gid", .flag 'N' "literal", .flag 'o' "",
   .flag 'p' "", .flag 'q' "hide-control-chars", .word "show-control-chars" .plain, .flag 'Q' "quote-name",
   .word "quoting-style" .required, .flag 'r' "reverse", .flag 'R' "recursive", .flag 's' "size", .flag 'S' "",
   .word "sort" .required, .word "time" .required, .word "time-style" .required, .flag 't' "", .value 'T' "tabsize",
   .flag 'u' "", .flag 'U' "", .flag 'v' "", .value 'w' "width", .flag 'x' "", .flag 'X' "", .flag 'Z' "context",
   .word "zero" .plain, .flag '1' ""]

/-- The last of some switches, its own value resolved among choices. -/
def resolved (a : Arguments) (key : String) (choices : List (List String)) : Act (Option String) := do
  match a.get? key with
  | none => return none
  | some given => some <$> choose 1 ("--" ++ key) choices given

def shapeOf (a : Arguments) : Act Shape := do
  let word ← resolved a "format"
    [["verbose", "long"], ["commas"], ["horizontal", "across"], ["vertical"], ["single-column"]]
  let keys := ((a.switches.map (·.1)).filter ["l", "g", "o", "n", "m", "C", "x", "1", "format", "full-time", "zero"].contains)
  return keys.foldl
    (fun shape key =>
      match key with
      | "m" => .commas
      | "C" => .down
      | "x" => .across
      | "1" => if shape == .long || shape == .commas then shape else .lines
      | "zero" => if shape == .long then shape else .lines
      | "format" =>
        match word with
        | some "commas" => .commas
        | some "horizontal" => .across
        | some "vertical" => .down
        | some "single-column" => .lines
        | _ => .long
      | _ => .long)
    .lines

def orderOf (a : Arguments) (shape : Shape) : Act Order := do
  let word ← resolved a "sort"
    [["none"], ["time"], ["size"], ["extension"], ["version"], ["width"]]
  let byTime := (a.has "c" || a.has "u" || a.has "time") && shape != .long
  return match a.lastOf ["t", "S", "U", "X", "v", "f", "sort"] with
    | some "t" => .time
    | some "S" => .size
    | some "U" | some "f" => .none
    | some "X" => .ending
    | some "v" => .version
    | some "sort" =>
      match word with
      | some "none" => .none
      | some "time" => .time
      | some "size" => .size
      | some "extension" => .ending
      | some "version" => .version
      | _ => .width
    | _ => if byTime then .time else .name

def marksOf (a : Arguments) : Act Marks := do
  let word ← resolved a "indicator-style" [["none"], ["slash"], ["file-type"], ["classify"]]
  let always ← match a.get? "classify" with
    | none => pure false
    | some "" => pure true
    | some given =>
      pure ((← choose 1 "--classify" [["always", "yes", "force"], ["never", "no", "none"], ["auto", "tty", "if-tty"]] given)
        == "always")
  return match a.lastOf ["F", "p", "file-type", "indicator-style", "classify"] with
    | some "F" => .all
    | some "classify" => if always then .all else .none
    | some "p" => .slash
    | some "file-type" => .kinds
    | some _ =>
      match word with
      | some "slash" => .slash
      | some "file-type" => .kinds
      | some "classify" => .all
      | _ => .none
    | none => .none

/-- Lists what the operands name. Switches may be taken for given. -/
def run (given : List String) : Act Unit := do
  let a ← readArguments 2 switches
  let a := { a with switches := given.map (fun key => (key, "")) ++ a.switches }
  discard <| resolved { a with switches := a.switches.filter fun (k, v) => k != "color" || v != "" } "color"
    [["always", "yes", "force"], ["never", "no", "none"], ["auto", "tty", "if-tty"]]
  let shape ← shapeOf a
  let order ← orderOf a shape
  let marks ← marksOf a
  let style ← resolved a "quoting-style"
    [["literal"], ["shell"], ["shell-always"], ["shell-escape"], ["shell-escape-always"], ["c"], ["c-maybe"],
     ["escape"], ["locale"], ["clocale"]]
  let style := match a.lastOf ["Q", "b", "N", "quoting-style"] with
    | some "Q" => "c"
    | some "b" => "escape"
    | some "quoting-style" => style.getD ""
    | _ => "literal"
  let quote (name : String) : String := quoting? style (if a.has "q" && style == "literal" then covered name else name)
  let number (key : String) (standard : Nat) (what : String) : Act Nat := do
    match a.get? key with
    | none => return standard
    | some text =>
      match Numeral.natural? text with
      | some n => return n
      | none => fail 2 (what ++ ": " ++ Quotation.quoted text)
  let columnsGiven := ((← process).environment.lookup "COLUMNS").bind Numeral.natural?
  let width ← number "w" (columnsGiven.getD 80) "invalid line width"
  let tab ← number "T" 8 "invalid tab size"
  let patterns (texts : List String) : List Shell.Pattern := texts.map fun s => s.toList.map (·, false)
  let how : Manner :=
    { shape, order, reverses := a.has "r"
      hidden := match a.lastOf ["a", "A", "f"] with
        | some "A" => .almostAll
        | some _ => .all
        | none => .hide
      skipped := patterns (a.getAll "I" ++ (if a.has "B" then ["*~", ".*~"] else []))
      hides := patterns (a.getAll "hide"), marks, onlyDirectory := a.has "d", isDeep := a.has "R" && !a.has "d"
      followsOperands := a.has "H", followsAll := a.has "L", showsBlocks := a.has "s", showsNumber := a.has "i"
      isHuman := a.has "h" || a.has "si", thousand := if a.has "si" then 1000 else 1024
      numericOwner := a.has "n", showsOwner := !a.has "g", showsGroup := !a.has "o" && !a.has "G"
      directoriesFirst := a.has "group-directories-first", width, tab
      mark := if a.has "zero" then '\x00' else '\n', quote
      timeStyle := if a.has "full-time" then "full-iso" else (a.get? "time-style").getD ""
      now := (← machine).now }
  let operands := if a.operands.isEmpty then ["."] else a.operands
  let items ← operands.filterMapM fun path => do
    match ← itemOf how true path path with
    | .ok item => return some item
    | .error fault =>
      complain ("cannot access " ++ Quotation.named path ++ ": " ++ fault.reason)
      atLeast 2
      return none
  let items := arranged how items
  let isOpened (i : Item) : Bool := i.node.isDirectory && !how.onlyDirectory
  let files := items.filter (!isOpened ·)
  let directories := items.filter isOpened
  print (text how files)
  let named := how.isDeep || operands.length > 1
  showAll how named 100000 files.isEmpty (directories.map fun i => (true, i.path))

end Listing

namespace Stat
open Act Text Listing

def kindOf (node : Node) : String :=
  match node.content with
  | .file data => if data.isEmpty then "regular empty file" else "regular file"
  | .binary _ => "regular file"
  | .directory .. => "directory"
  | .link _ => "symbolic link"
  | .device _ => "character special file"
  | .fifo => "fifo"

/-- The bits that tell the kind of a file, above those of its mode. -/
def kindBits (node : Node) : Nat :=
  match node.content with
  | .file _ | .binary _ => 0o100000
  | .directory .. => 0o40000
  | .link _ => 0o120000
  | .device _ => 0o20000
  | .fifo => 0o10000

def hexadecimal (n : Nat) : String := String.ofList (Nat.toDigits 16 n)

def moment (changed : Nat) : String :=
  let giga : Nat := 1000000000
  Calendar.format (changed % giga) (Calendar.ofSeconds (changed / giga)) 100 "%Y-%m-%d %H:%M:%S.%N %z".toList

/-- What a letter stands for; and whether that is a number. -/
def piece (path : String) (id : NodeId) (node : Node) (letter : Char) : Option (String × Bool) :=
  let seconds := toString (node.changed / 1000000000)
  let text (s : String) : Option (String × Bool) := some (s, false)
  let number (n : Nat) : Option (String × Bool) := some (toString n, true)
  match letter with
  | 'n' => text path
  | 'N' =>
    text (Quotation.named path ++ (match node.content with
      | .link target => " -> " ++ Quotation.named target
      | _ => ""))
  | 's' => number node.size
  | 'F' => text (kindOf node)
  | 'a' => some (FileMode.octal 0 node.mode, true)
  | 'A' => text ((kindLetter node).toString ++ FileMode.letters node.mode)
  | 'f' => some (hexadecimal (kindBits node + node.mode), true)
  | 'h' => number node.links
  | 'u' | 'g' => number 0
  | 'U' | 'G' => text "root"
  | 'i' => number (id + 1000)
  | 'b' => number (2 * blocks node)
  | 'B' => number 512
  | 'o' => number 4096
  | 'd' => number 64769
  | 'D' => some ("fd01", true)
  | 't' | 'T' => number 0
  | 'm' => text "/"
  | 'X' | 'Y' | 'Z' | 'W' => some (seconds, true)
  | 'x' | 'y' | 'z' | 'w' => text (moment node.changed)
  | 'C' => text "?"
  | _ => none

def format (escapes : Bool) (path : String) (id : NodeId) (node : Node) : Nat → List Char → String
  | 0, _ => ""
  | _, [] => ""
  | fuel + 1, '%' :: rest =>
    let flags := rest.takeWhile "#-+ 0'".toList.contains
    let after := rest.drop flags.length
    let digits := after.takeWhile Char.isDigit
    let after := after.drop digits.length
    let point := after.head? == some '.'
    let places := if point then after.tail.takeWhile Char.isDigit else []
    let after := if point then after.tail.drop places.length else after
    let after := match after with
      | 'H' :: c :: more | 'L' :: c :: more => if c == 'd' || c == 'r' then c :: more else after
      | _ => after
    match after with
    | '%' :: more => "%" ++ format escapes path id node fuel more
    | c :: more =>
      match piece path id node c with
      | none => "?" ++ format escapes path id node fuel more
      | some (text, isNumber) =>
        let width := Numeral.valueOf 10 digits
        let text :=
          if point && !isNumber then (text.take (Numeral.valueOf 10 places)).toString
          else if point && "XYZW".toList.contains c then
            text ++ "." ++ (Calendar.format (node.changed % 1000000000) (Calendar.ofSeconds 0) 5
              ("%" ++ (if places.isEmpty then "9" else String.ofList places) ++ "N").toList)
          else text
        let text := if c == 'a' && flags.contains '#' && text != "0" then "0" ++ text else text
        let shown :=
          if flags.contains '-' then padRight width text
          else if flags.contains '0' && isNumber then String.ofList (List.replicate (width - text.length) '0') ++ text
          else padLeft width text
        shown ++ format escapes path id node fuel more
    | [] => "%"
  | fuel + 1, '\\' :: c :: rest =>
    if !escapes then "\\" ++ format escapes path id node fuel (c :: rest)
    else if Numeral.isOctal c then
      let digits := ((c :: rest).take 3).takeWhile Numeral.isOctal
      (Char.ofNat (Numeral.valueOf 8 digits % 256)).toString ++
        format escapes path id node fuel ((c :: rest).drop digits.length)
    else
      let found := match c with
        | 'a' => "\x07"
        | 'b' => "\x08"
        | 'e' => "\x1b"
        | 'f' => "\x0c"
        | 'n' => "\n"
        | 'r' => "\r"
        | 't' => "\t"
        | 'v' => "\x0b"
        | c => c.toString
      found ++ format escapes path id node fuel rest
  | fuel + 1, c :: rest => c.toString ++ format escapes path id node fuel rest

def standard : String :=
  "  File: %N\n  Size: %-10s\tBlocks: %-10b IO Block: %-6o %F\n" ++
    "Device: 253,1\tInode: %-11i Links: %h\n" ++
    "Access: (%04a/%10.10A)  Uid: (%5u/%8U)   Gid: (%5g/%8G)\n" ++
    "Access: %x\nModify: %y\nChange: %z\n Birth: %w\n"

def terse : String := "%n %s %b %f %u %g %D %i %h %t %T %X %Y %Z %W %o\n"

def run : Act Unit := do
  let a ← readArguments 1
    [.flag 'L' "dereference", .flag 'f' "file-system", .value 'c' "format", .word "printf" .required,
     .flag 't' "terse", .word "cached" .required]
  if a.operands.isEmpty then misused 1 "missing operand"
  let (escapes, text) := match a.lastOf ["c", "printf"] with
    | some "c" => (false, (a.get? "c").getD "" ++ "\n")
    | some _ => (true, (a.get? "printf").getD "")
    | none => (false, if a.has "t" then terse else standard)
  a.operands.forM fun path => do
    match ← findNode path (a.has "L" || path.endsWith "/") with
    | .error fault =>
      complain ("cannot statx " ++ Quotation.named path ++ ": " ++ fault.reason)
      atLeast 1
    | .ok id => print (format escapes path id (← nodeOf id) (text.length + 1) text.toList)

end Stat
end BuildRunner.Sandbox.Utility
