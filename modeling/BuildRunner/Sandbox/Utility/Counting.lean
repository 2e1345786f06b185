import BuildRunner.Sandbox.Utility.Reading

/-! Counts of the lines, words and octets of files. -/
namespace BuildRunner.Sandbox.Utility
namespace Count
open Act Text

structure Counts where
  lines : Nat
  words : Nat
  octets : Nat
  longest : Nat

structure State where
  lines : Nat
  words : Nat
  longest : Nat
  column : Nat
  inWord : Bool

def step (s : State) (b : UInt8) : State :=
  if b == 10 || b == 12 || b == 13 then
    { s with
      lines := if b == 10 then s.lines + 1 else s.lines
      longest := max s.longest s.column, column := 0, inWord := false }
  else if b == 9 then { s with column := s.column + 8 - s.column % 8, inWord := false }
  else if b == 32 then { s with column := s.column + 1, inWord := false }
  else if b == 11 then { s with inWord := false }
  else
    { s with
      words := if s.inWord then s.words else s.words + 1
      column := if 32 < b && b < 127 then s.column + 1 else s.column
      inWord := true }

def ofData (data : ByteArray) : Counts :=
  let s := data.foldl step ⟨0, 0, 0, 0, false⟩
  ⟨s.lines, s.words, data.size, max s.longest s.column⟩

def add (a b : Counts) : Counts :=
  ⟨a.lines + b.lines, a.words + b.words, a.octets + b.octets, max a.longest b.longest⟩

def switches : List Switch :=
  [.flag 'c' "bytes", .flag 'm' "chars", .flag 'l' "lines", .flag 'w' "words", .flag 'L' "max-line-length",
   .word "total" .required, .word "files0-from" .required, .word "debug" .plain]

def line (keys : List String) (width : Nat) (c : Counts) (name : Option String) : String :=
  let column (key : String) (n : Nat) : List Nat := if keys.contains key then [n] else []
  let numbers := column "l" c.lines ++ column "w" c.words ++ column "m" c.octets ++ column "c" c.octets ++
    column "L" c.longest
  let pad (n : Nat) : String :=
    let digits := toString n
    String.ofList (List.replicate (width - digits.length) ' ') ++ digits
  " ".intercalate (numbers.map pad ++ name.toList) ++ "\n"

/-- How wide numbers are written: as the sizes of the files together need it, or wider if there is
something whose size is not known before it is read. -/
def widthOf (isSingle : Bool) (nodes : List (Option Node)) : Nat :=
  if isSingle then 1
  else
    let known := nodes.filterMap id
    let isRegular (n : Node) : Bool := match n.content with
      | .file _ | .binary _ => true
      | _ => false
    let least := if known.all isRegular then 1 else 7
    let total := ((known.filter isRegular).map Node.size).foldl (· + ·) 0
    if nodes.head?.any (·.isNone) then 1 else max least (toString total).length

def run : Act Unit := do
  let a ← readArguments 1 switches
  let given := ["l", "w", "m", "c", "L"].filter a.has
  let totals ← match a.get? "total" with
    | none => pure "auto"
    | some given => choose 1 "--total" [["auto"], ["always"], ["only"], ["never"]] given
  let keys := if given.isEmpty then ["l", "w", "c"] else given
  let paths := if a.operands.isEmpty then ["-"] else a.operands
  let m ← machine
  let p ← process
  let nodes := paths.map fun path =>
    if path == "-" then
      match (p.descriptor? 0).map fun n => (m.openFile n).channel with
      | some (.node id) => some (m.files.node id)
      | _ => some (⟨.fifo, 0, 0, 0⟩ : Node)
    else m.node? p.workdir path
  let width := if totals == "only" then 1 else widthOf (paths.length == 1 && keys.length == 1) nodes
  let counted ← paths.filterMapM fun path => do
    let say (c : Counts) : Act Unit := do
      if totals != "only" then
        print (line keys width c (if a.operands.isEmpty then none else some path))
    match ← contents path with
    | .ok data =>
      say (ofData data)
      return some (ofData data)
    | .error fault =>
      complainAbout path fault
      if fault == .isDirectory then say ⟨0, 0, 0, 0⟩
      return none
  let total := counted.foldl add ⟨0, 0, 0, 0⟩
  if totals == "only" then print (line keys width total none)
  else if totals == "always" || (totals == "auto" && paths.length > 1) then
    print (line keys width total (some "total"))

end Count
end BuildRunner.Sandbox.Utility
