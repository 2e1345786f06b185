import BuildRunner.Sandbox.Utility.Copying
import BuildRunner.Sandbox.Utility.Ordering

/-! Files taken apart into pieces and joined by their fields, blocks of files, and lines in any
order. -/
namespace BuildRunner.Sandbox.Utility
open Act Text

namespace Split

inductive Measure where
  | lines (n : Nat)
  | octets (n : Nat)
  | lineOctets (n : Nat)
  | chunks (n : Nat)
  | lineChunks (n : Nat)

def wholeLines (text : String) : List String :=
  let lines := linesOf text
  if isOpenEnded '\n' text then lines.dropLast.map (·.push '\n') ++ [lines.getLastD ""]
  else lines.map (·.push '\n')

def pieces (n : Nat) : Nat → List String → List String
  | 0, _ => []
  | _, [] => []
  | fuel + 1, lines => String.join (lines.take n) :: pieces n fuel (lines.drop n)

/-- Pieces of whole lines, as many as fit into a size. -/
def packed (n : Nat) : List Char → List String → List String
  | held, [] => if held.isEmpty then [] else [String.ofList held]
  | held, line :: rest =>
    if held.length + line.length ≤ n then packed n (held ++ line.toList) rest
    else (if held.isEmpty then [] else [String.ofList held]) ++
      (if line.length ≤ n then packed n line.toList rest
      else
        let full := line.length / n
        (List.range full).map (fun i => ((line.drop (i * n)).take n).toString) ++
          packed n (line.toList.drop (full * n)) rest)

/-- Where a chunk begins; the first chunks are larger by one octet if the size asks for it. -/
def chunkStart (count size k : Nat) : Nat := k * (size / count) + min k (size % count)

/-- Lines by the chunks in which they begin. -/
def byChunks (count size : Nat) : Nat → Nat → List String → List String → List String
  | 0, _, held, lines => [String.join (held ++ lines)]
  | _ + 1, _, held, [] => [String.join held]
  | left + 1, place, held, line :: rest =>
    if place < chunkStart count size (count - (left + 1)) then
      byChunks count size (left + 1) (place + line.length) (held ++ [line]) rest
    else String.join held :: byChunks count size left place [] (line :: rest)
termination_by left _ _ lines => left + lines.length

def cut (m : Measure) (text : String) : List String :=
  match m with
  | .lines n => pieces n (text.length + 1) (wholeLines text)
  | .octets n =>
    (List.range ((text.length + n - 1) / n)).map fun i => ((text.drop (i * n)).take n).toString
  | .lineOctets n => packed n [] (wholeLines text)
  | .chunks n =>
    let start := chunkStart n text.length
    (List.range n).map fun i => ((text.drop (start i)).take (start (i + 1) - start i)).toString
  | .lineChunks n =>
    let parts := byChunks n text.length (n - 1) 0 [] (wholeLines text)
    parts ++ List.replicate (n - parts.length) ""

def numbering (letters : List Char) : Nat → Nat → List Char
  | 0, _ => []
  | width + 1, n => numbering letters width (n / letters.length) ++ [letters.getD (n % letters.length) '?']

def switches : List Switch :=
  [.value 'a' "suffix-length", .word "additional-suffix" .required, .value 'b' "bytes", .value 'C' "line-bytes",
   .flag 'd' "", .word "numeric-suffixes" .optional, .flag 'x' "", .word "hex-suffixes" .optional,
   .flag 'e' "elide-empty-files", .word "filter" .required, .value 'l' "lines", .value 'n' "number",
   .value 't' "separator", .flag 'u' "unbuffered", .word "verbose" .plain]

def modern (words : List String) : List String :=
  words.map fun w =>
    match w.toList with
    | '-' :: c :: rest => if (c :: rest).all Char.isDigit then "-l" ++ String.ofList (c :: rest) else w
    | _ => w

def run : Act Unit := do
  modify fun r => { r with process := { r.process with arguments := modern r.process.arguments } }
  let a ← readArguments 1 switches
  let ways := a.switches.filter fun (key, _) => ["b", "C", "l", "n"].contains key
  let positive (what text : String) : Act Nat := do
    match scaled? text with
    | some n => if n > 0 then return n else fail 1 ("invalid number of " ++ what ++ ": " ++ Quotation.quoted text)
    | none => fail 1 ("invalid number of " ++ what ++ ": " ++ Quotation.quoted text)
  let measure ← match ways with
    | [] => pure (Measure.lines 1000)
    | [("l", text)] => .lines <$> positive "lines" text
    | [("b", text)] => .octets <$> positive "bytes" text
    | [("C", text)] => .lineOctets <$> positive "lines" text
    | [(_, text)] =>
      if text.startsWith "l/" then .lineChunks <$> positive "chunks" (text.drop 2).toString
      else .chunks <$> positive "chunks" text
    | _ => misused 1 "cannot split in more than one way"
  if let extra :: _ := a.operands.drop 2 then misused 1 ("extra operand " ++ Quotation.quoted extra)
  let path := a.operands.headD "-"
  let front := a.operands.getD 1 "x"
  let text ← match ← textOf path with
    | .ok text => pure text
    | .error fault =>
      if fault == .isDirectory then fail 1 (Quotation.shown path ++ ": " ++ fault.reason)
      fail 1 ("cannot open " ++ Quotation.named path ++ " for reading: " ++ fault.reason)
  let start := match a.get? "numeric-suffixes", a.get? "hex-suffixes" with
    | some n, _ => (Numeral.natural? n).getD 0
    | _, some n => Numeral.valueOf 16 n.toList
    | _, _ => 0
  let letters := match a.lastOf ["d", "numeric-suffixes", "x", "hex-suffixes"] with
    | some "x" | some "hex-suffixes" => "0123456789abcdef".toList
    | some _ => "0123456789".toList
    | none => "abcdefghijklmnopqrstuvwxyz".toList
  let parts := cut measure text
  let parts := if a.has "e" then parts.filter (!·.isEmpty) else parts
  let width ← match a.get? "a" with
    | none => pure none
    | some text =>
      match Numeral.natural? text with
      | some n => pure (if n == 0 then none else some n)
      | none => fail 1 ("invalid suffix length: " ++ Quotation.quoted text)
  let name (k : Nat) : Option String :=
    let base := letters.length
    match width with
    | some w => if k ≥ Nat.pow base w then none else some (String.ofList (numbering letters w k))
    | none =>
      -- names grow each time the first letter would reach its last value
      let rec grow : Nat → Nat → Nat → String
        | 0, _, _ => ""
        | fuel + 1, w, k =>
          let room := (base - 1) * Nat.pow base (w - 1)
          if k < room then String.ofList (numbering letters w k)
          else String.ofList [letters.getLastD 'z'] ++ grow fuel (w + 1) (k - room)
      some (grow 10 2 k)
  for (i, part) in (List.range parts.length).zip parts do
    match name (start + i) with
    | none => fail 1 "output file suffixes exhausted"
    | some ending =>
      let target := front ++ ending ++ (a.get? "additional-suffix").getD ""
      if a.has "verbose" then printLine ("creating file " ++ Quotation.named target)
      if let some fault ← store target (Octets.toByteArray part) then
        fail 1 (Quotation.shown target ++ ": " ++ fault.reason)

end Split

namespace Join

/-- What a column of the result is: the field that both share, or a field of one file. -/
inductive Column where
  | shared
  | field (file number : Nat)

structure Manner where
  separator : Option Char
  keys : Nat × Nat
  unpaired : List Nat
  onlyUnpaired : Bool
  empty : String
  columns : Option (List Column)
  foldsCase : Bool

def fieldsOf (separator : Option Char) (line : String) : List String :=
  match separator with
  | some c => line.splitOn c.toString
  | none => ((line.toList.splitOnP fun c => c == ' ' || c == '\t').filter (!·.isEmpty)).map String.ofList

def keyOf (how : Manner) (number : Nat) (fields : List String) : String :=
  let key := fields.getD (number - 1) ""
  if how.foldsCase then key.map Char.toLower else key

/-- The line for a pair, or for one side alone. -/
def row (how : Manner) (left right : Option (List String)) : String :=
  let between := how.separator.getD ' '
  let orEmpty (text : String) : String := if text.isEmpty then how.empty else text
  let key := match left, right with
    | some f, _ => f.getD (how.keys.1 - 1) ""
    | none, some f => f.getD (how.keys.2 - 1) ""
    | none, none => ""
  let without (number : Nat) (fields : List String) : List String := fields.eraseIdx (number - 1)
  let cells := match how.columns with
    | some columns => columns.map fun
      | .shared => orEmpty key
      | .field file number => orEmpty (((if file == 1 then left else right).getD []).getD (number - 1) "")
    | none =>
      orEmpty key :: ((left.map (without how.keys.1)).getD [] ++ (right.map (without how.keys.2)).getD []).map orEmpty
  between.toString.intercalate cells

def merge (how : Manner) : Nat → List (String × List String) → List (String × List String) → List String
  | 0, _, _ => []
  | _, [], [] => []
  | fuel + 1, x :: xs, [] =>
    (if how.unpaired.contains 1 then [row how (some x.2) none] else []) ++ merge how fuel xs []
  | fuel + 1, [], y :: ys =>
    (if how.unpaired.contains 2 then [row how none (some y.2)] else []) ++ merge how fuel [] ys
  | fuel + 1, x :: xs, y :: ys =>
    if x.1 < y.1 then
      (if how.unpaired.contains 1 then [row how (some x.2) none] else []) ++ merge how fuel xs (y :: ys)
    else if y.1 < x.1 then
      (if how.unpaired.contains 2 then [row how none (some y.2)] else []) ++ merge how fuel (x :: xs) ys
    else
      let left := (x :: xs).takeWhile (·.1 == x.1)
      let right := (y :: ys).takeWhile (·.1 == x.1)
      let pairs := if how.onlyUnpaired then []
        else left.flatMap fun l => right.map fun r => row how (some l.2) (some r.2)
      pairs ++ merge how fuel ((x :: xs).drop left.length) ((y :: ys).drop right.length)

/-- The number of the first line that does not come after the one before, with the line. -/
def disorder? (lines : List (String × String)) (number : Nat) : Option (Nat × String) :=
  match lines with
  | a :: b :: rest => if b.1 < a.1 then some (number + 1, b.2) else disorder? (b :: rest) (number + 1)
  | _ => none
termination_by lines.length

def switches : List Switch :=
  [.value '1' "", .value '2' "", .value 'j' "", .value 'a' "", .value 'v' "", .value 'e' "", .flag 'i' "ignore-case",
   .value 'o' "", .value 't' "", .word "check-order" .plain, .word "nocheck-order" .plain, .word "header" .plain,
   .flag 'z' "zero-terminated"]

def column (text : String) : Act Column := do
  if text == "0" then return .shared
  match text.splitOn "." with
  | [file, number] =>
    if file != "1" && file != "2" then fail 1 ("invalid file number in field spec: " ++ Quotation.quoted text)
    match Numeral.natural? number with
    | some n => if n > 0 then return .field (if file == "1" then 1 else 2) n else fail 1 ("invalid field number: " ++ Quotation.quoted number)
    | none => fail 1 ("invalid field number: " ++ Quotation.quoted number)
  | _ => fail 1 ("invalid field specifier: " ++ Quotation.quoted text)

def run : Act Unit := do
  let a ← readArguments 1 switches
  let number (text : String) : Act Nat := do
    match Numeral.natural? text with
    | some n => if n > 0 then return n else fail 1 ("invalid field number: " ++ Quotation.quoted text)
    | none => fail 1 ("invalid field number: " ++ Quotation.quoted text)
  let side (text : String) : Act Nat := do
    if text == "1" then return 1
    if text == "2" then return 2
    fail 1 ("invalid field number: " ++ Quotation.quoted text)
  let both ← (a.get? "j").mapM number
  let first ← (a.get? "1").mapM number
  let second ← (a.get? "2").mapM number
  let shown ← (a.getAll "a").mapM side
  let only ← (a.getAll "v").mapM side
  let separator ← match a.get? "t" with
    | none => pure none
    | some "" => pure (some '\n')
    | some "\\0" => pure (some '\x00')
    | some text =>
      if text.length > 1 then fail 1 ("multi-character tab " ++ Quotation.quoted text)
      pure text.toList.head?
  let texts := (a.getAll "o").filter (· != "auto")
  let columns ← match texts with
    | [] => pure none
    | texts => do
      let parts := (texts.flatMap fun t => (t.toList.splitOnP fun c => c == ',' || c == ' ' || c == '\t')).filter (!·.isEmpty)
      pure (some (← parts.mapM fun p => column (String.ofList p)))
  match a.operands with
  | [] => misused 1 "missing operand"
  | [one] => misused 1 ("missing operand after " ++ Quotation.quoted one)
  | _ :: _ :: extra :: _ => misused 1 ("extra operand " ++ Quotation.quoted extra)
  | [left, right] =>
    let how : Manner :=
      { separator, keys := (first.getD (both.getD 1), second.getD (both.getD 1)), unpaired := shown ++ only
        onlyUnpaired := !only.isEmpty, empty := (a.get? "e").getD "", columns, foldsCase := a.has "i" }
    let mark := if a.has "z" then '\x00' else '\n'
    let read (path : String) : Act (List String) := do
      match ← textOf path with
      | .ok text => return recordsOf mark text
      | .error fault => fail 1 (Quotation.shown path ++ ": " ++ fault.reason)
    let xs ← read left
    let ys ← read right
    let keyed (key : Nat) (lines : List String) : List (String × List String) :=
      lines.map fun line => let f := fieldsOf separator line; (keyOf how key f, f)
    let (head, xs, ys) :=
      if a.has "header" then
        (match xs.head?, ys.head? with
          | some x, some y => [row { how with onlyUnpaired := false } (some (fieldsOf separator x)) (some (fieldsOf separator y))]
          | _, _ => [], xs.tail, ys.tail)
      else ([], xs, ys)
    let kx := keyed how.keys.1 xs
    let ky := keyed how.keys.2 ys
    let rows := merge how (kx.length + ky.length + 1) kx ky
    let isPaired := kx.all (fun x => ky.any (·.1 == x.1)) && ky.all (fun y => kx.any (·.1 == y.1))
    let faults := [(left, disorder? ((kx.map (·.1)).zip xs) 1), (right, disorder? ((ky.map (·.1)).zip ys) 1)]
    let strict := a.has "check-order"
    let found := if a.has "nocheck-order" || (isPaired && !strict) then []
      else faults.filterMap fun (path, fault) => fault.map fun (n, line) => (path, n, line)
    if strict then
      if let (path, n, line) :: _ := found then
        fail 1 (path ++ ":" ++ toString n ++ ": is not sorted: " ++ line)
    print (joinRecords mark (head ++ rows))
    if !found.isEmpty then
      found.forM fun (path, n, line) => complain (path ++ ":" ++ toString n ++ ": is not sorted: " ++ line)
      complain "input is not in sorted order"
      atLeast 1

end Join

/-- Lines, words or numbers in some order; the one in which they stand is as good as any. -/
def shuffle : Act Unit := do
  let a ← readArguments 1
    [.flag 'e' "echo", .value 'i' "input-range", .value 'n' "head-count", .value 'o' "output", .flag 'r' "repeat",
     .word "random-source" .required, .flag 'z' "zero-terminated"]
  let mark := if a.has "z" then '\x00' else '\n'
  let limit ← (a.get? "n").mapM fun text => do
    match Numeral.natural? text with
    | some n => return n
    | none => fail 1 ("invalid line count: " ++ Quotation.quoted text)
  let items ← match a.get? "i" with
    | some text => do
      match (text.splitOn "-").mapM Numeral.natural? with
      | some [low, high] =>
        if high + 1 < low then fail 1 ("invalid input range: " ++ Quotation.quoted text)
        if let some extra := a.operands.head? then misused 1 ("extra operand " ++ Quotation.quoted extra)
        pure ((List.range (high + 1 - low)).map fun k => toString (low + k))
      | _ => fail 1 ("invalid input range: " ++ Quotation.quoted text)
    | none =>
      if a.has "e" then pure a.operands
      else
        if let extra :: _ := a.operands.drop 1 then misused 1 ("extra operand " ++ Quotation.quoted extra)
        let path := a.operands.headD "-"
        match ← textOf path with
        | .ok text => pure (recordsOf mark text)
        | .error fault => fail 1 (Quotation.shown path ++ ": " ++ fault.reason)
  let chosen := match limit with
    | some n => items.take n
    | none => items
  let shown := joinRecords mark chosen
  match a.get? "o" with
  | none => print shown
  | some path =>
    if let some fault ← store path (Octets.toByteArray shown) then fail 1 (Quotation.shown path ++ ": " ++ fault.reason)

namespace Blocks

structure Plan where
  source : Option String
  target : Option String
  inSize : Nat
  outSize : Nat
  count : Option Nat
  skip : Nat
  seek : Nat
  conversions : List String
  status : String

def initial : Plan := ⟨none, none, 512, 512, none, 0, 0, [], ""⟩

def conversionNames : List String :=
  ["ascii", "ebcdic", "ibm", "block", "unblock", "lcase", "ucase", "sparse", "swab", "sync", "excl", "nocreat",
   "notrunc", "noerror", "fdatasync", "fsync"]

def flagNames : List String :=
  ["append", "direct", "directory", "dsync", "sync", "fullblock", "nonblock", "noatime", "nocache", "noctty",
   "nofollow", "count_bytes", "skip_bytes", "seek_bytes"]

def number (text : String) : Act Nat := do
  let factors := (text.splitOn "x").map fun part =>
    match part.toList.getLast? with
    | some 'c' => Numeral.natural? (part.dropEnd 1).toString
    | some 'w' => (Numeral.natural? (part.dropEnd 1).toString).map (2 * ·)
    | some 'B' => scaled? (if part.endsWith "iB" || (part.dropEnd 1).all Char.isDigit then (part.dropEnd 1).toString else part)
    | _ => scaled? part
  match factors.mapM id with
  | some ns => return ns.foldl (· * ·) 1
  | none => fail 1 ("invalid number: " ++ Quotation.quoted text)

def size (text : String) : Act Nat := do
  let n ← number text
  if n == 0 then fail 1 ("invalid number: " ++ Quotation.quoted text)
  return n

def operand (p : Plan) (word : String) : Act Plan := do
  let chars := word.toList
  let name := String.ofList (chars.takeWhile (· ≠ '='))
  let value := String.ofList (chars.drop (name.length + 1))
  let known (what : String) (names : List String) : Act (List String) := do
    let words := value.splitOn ","
    if let some bad := words.find? (!names.contains ·) then
      misused 1 ("invalid " ++ what ++ ": " ++ Quotation.quoted bad)
    return words
  if name.length == chars.length then misused 1 ("unrecognized operand " ++ Quotation.quoted word)
  match name with
  | "if" => return { p with source := some value }
  | "of" => return { p with target := some value }
  | "bs" => do
    let n ← size value
    return { p with inSize := n, outSize := n }
  | "ibs" => return { p with inSize := ← size value }
  | "obs" => return { p with outSize := ← size value }
  | "cbs" => do
    discard <| size value
    return p
  | "count" => return { p with count := some (← number value) }
  | "skip" | "iseek" => return { p with skip := ← number value }
  | "seek" | "oseek" => return { p with seek := ← number value }
  | "conv" => return { p with conversions := p.conversions ++ (← known "conversion" conversionNames) }
  | "iflag" => do
    discard <| known "input flag" flagNames
    return p
  | "oflag" => do
    discard <| known "output flag" flagNames
    return p
  | "status" => do
    if !(["none", "noxfer", "progress"].contains value) then
      misused 1 ("invalid status level: " ++ Quotation.quoted value)
    return { p with status := value }
  | _ => misused 1 ("unrecognized operand " ++ Quotation.quoted word)

def swapped : List UInt8 → List UInt8
  | a :: b :: rest => b :: a :: swapped rest
  | rest => rest

def converted (p : Plan) (data : ByteArray) : ByteArray :=
  let letters (change : Char → Char) (data : ByteArray) : ByteArray :=
    ⟨data.data.map fun b => UInt8.ofNat (change (Char.ofNat b.toNat)).toNat⟩
  let data := if p.conversions.contains "ucase" then letters Char.toUpper data else data
  let data := if p.conversions.contains "lcase" then letters Char.toLower data else data
  let data := if p.conversions.contains "swab" then ⟨(swapped data.toList).toArray⟩ else data
  if p.conversions.contains "sync" then
    let missing := (p.inSize - data.size % p.inSize) % p.inSize
    data ++ ⟨Array.replicate missing 0⟩
  else data

def sayCounts (p : Plan) (data written : Nat) : Act Unit := do
  if p.status != "none" then
    let line (n size : Nat) (what : String) : String :=
      toString (n / size) ++ "+" ++ (if n % size == 0 then "0" else "1") ++ " records " ++ what
    sayError (line data p.inSize "in")
    sayError (line written p.outSize "out")
    if p.status != "noxfer" then
      sayError (toString written ++ " byte" ++ (if written == 1 then "" else "s") ++ " copied, 0.0001 s, " ++
        toString (written * 10) ++ ".0 kB/s")

def run : Act Unit := do
  let a ← readArguments 1 []
  let p ← a.operands.foldlM operand initial
  let source ← match p.source with
    | none =>
      match (← process).descriptor? 0 with
      | some n => pure n
      | none => fail 1 "failed to open 'standard input'"
    | some path =>
      match ← openPath path .reading with
      | .ok n => pure n
      | .error fault => fail 1 ("failed to open " ++ Quotation.named path ++ ": " ++ fault.reason)
  let keeps := p.conversions.contains "notrunc"
  let sink? ← match p.target with
    | none => pure none
    | some path =>
      match ← openPath path
          { OpenMode.writing with
            truncates := !keeps && p.seek == 0, creates := !p.conversions.contains "nocreat"
            exclusive := p.conversions.contains "excl" } with
      | .ok n => pure (some n)
      | .error fault => fail 1 ("failed to open " ++ Quotation.named path ++ ": " ++ fault.reason)
  let take (limit : Option Nat) : Act (Except Fault ByteArray) := do
    match (← machine).read source limit with
    | .ok (data, m) =>
      setMachine m
      return .ok data
    | .error fault => return .error fault
  let skipped ← if p.skip == 0 then pure (.ok ByteArray.empty) else take (some (p.skip * p.inSize))
  let data ← match skipped with
    | .error fault => pure (.error fault)
    | .ok _ => take (p.count.map (· * p.inSize))
  match data with
  | .error fault =>
    complain ("error reading " ++ Quotation.named (p.source.getD "standard input") ++ ": " ++ fault.reason)
    sayCounts p 0 0
    exit 1
  | .ok data =>
    let out := converted p data
    match sink? with
    | none =>
      if let some fault ← writeTo 1 out then
        complain ("error writing 'standard output': " ++ fault.reason)
        sayCounts p data.size 0
        exit 1
    | some number =>
      let m ← machine
      let start := p.seek * p.outSize
      if !keeps && p.seek > 0 then
        if let .node id := (m.openFile number).channel then
          setMachine (m.modifyNode id fun n =>
            match n.content with
            | .file old => { n with content := .file (old.extract 0 start ++ ⟨Array.replicate (start - old.size) 0⟩) }
            | _ => n)
      let m ← machine
      let m := { m with opened := m.opened.modify number fun f => { f with offset := start } }
      match m.write number out with
      | .ok m => setMachine m
      | .error fault =>
        complain ("error writing " ++ Quotation.named (p.target.getD "") ++ ": " ++ fault.reason)
        sayCounts p data.size 0
        exit 1
    sayCounts p data.size out.size

end Blocks
end BuildRunner.Sandbox.Utility
