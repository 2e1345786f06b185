import BuildRunner.Sandbox.FileSystem

/-! The machine that commands run on: its files, the files that processes have open, and the pipes
between them. One process runs at a time; what it leaves in a pipe is read when it has ended. -/
namespace BuildRunner.Sandbox
open Text

/-- What stands in a pipe, how much of it was read, and how much more it takes until its reader is
gone: a number of octets, and of lines where there is a bound on them. -/
structure Pipe where
  data : ByteArray
  taken : Nat
  room : Nat
  lines : Option Nat
deriving Inhabited

inductive Channel where
  | node (id : NodeId)
  | pipe (number : Nat)
deriving DecidableEq, Repr, Inhabited

/-- A file as it was opened. Descriptors that share it share the place in it. -/
structure OpenFile where
  channel : Channel
  offset : Nat
  appends : Bool
  reads : Bool
  writes : Bool
deriving Inhabited

structure Machine where
  files : FileSystem
  opened : Array OpenFile
  pipes : Array Pipe
  /-- Nanoseconds since the epoch. -/
  now : Nat
  lastProcess : Nat
  /-- The moment at which running programs are stopped, if there is one. -/
  deadline : Option Nat
  /-- Signals on their way: the number of the process each is for, and its own. -/
  signals : List (Nat × Nat)

/-- How a file is opened. -/
structure OpenMode where
  reads : Bool
  writes : Bool
  creates : Bool
  truncates : Bool
  appends : Bool
  /-- Refuses a file that is there. -/
  exclusive : Bool

namespace OpenMode

def reading : OpenMode := ⟨true, false, false, false, false, false⟩
def writing : OpenMode := ⟨false, true, true, true, false, false⟩
def appending : OpenMode := ⟨false, true, true, false, true, false⟩

end OpenMode

namespace Machine

/-- How much a pipe takes, and how much a program that never ends writes or a device that never
ends is read. -/
def pipeRoom : Nat := 16777216
def endlessSize : Nat := 1048576

/-- A moment passes with every change. -/
def tick (m : Machine) : Machine := { m with now := m.now + 1000 }

def newPipe (m : Machine) (lines : Option Nat) : Nat × Machine :=
  (m.pipes.size, { m with pipes := m.pipes.push ⟨.empty, 0, pipeRoom, lines⟩ })

def addOpen (m : Machine) (file : OpenFile) : Nat × Machine :=
  (m.opened.size, { m with opened := m.opened.push file })

def openFile (m : Machine) (number : Nat) : OpenFile := m.opened.getD number default

def addPipe (m : Machine) : Nat × Nat × Machine :=
  let (pipe, m) := m.newPipe none
  let (source, m) := m.addOpen ⟨.pipe pipe, 0, false, true, false⟩
  let (sink, m) := m.addOpen ⟨.pipe pipe, 0, false, false, true⟩
  (source, sink, m)

def pipeText (m : Machine) (number : Nat) : ByteArray := (m.pipes.getD number default).data

def modifyNode (m : Machine) (id : NodeId) (change : Node → Node) : Machine :=
  let m := m.tick
  let now := m.now
  { m with files := m.files.modify id fun n => { change n with changed := now } }

def createNode (m : Machine) (dir : NodeId) (name : String) (content : Content) (mode : Nat) :
    NodeId × Machine :=
  let m := m.tick
  let links := match content with | .directory .. => 2 | _ => 1
  let (id, files) := m.files.create dir name ⟨content, mode, links, m.now⟩
  let now := m.now
  (id, { m with files := files.modify dir fun n => { n with changed := now } })

def openPath (m : Machine) (here : NodeId) (path : String) (how : OpenMode) (mode : Nat) :
    Except Fault (Nat × Machine) := do
  if how.creates && path.endsWith "/" then
    -- a slash asks for a directory, which is not made in this way
    discard <| m.files.locate here (String.ofList (path.toList.reverse.dropWhile (· == '/')).reverse) false
    throw .isDirectory
  let found ← m.files.locate here path true
  let file (id : NodeId) : OpenFile := ⟨.node id, 0, how.appends, how.reads, how.writes⟩
  match found.target with
  | some id =>
    if how.exclusive then throw .alreadyExists
    let node := m.files.node id
    if node.isDirectory && (how.writes || how.creates) then throw .isDirectory
    let m := match node.content with
      | .file _ =>
        if how.truncates then m.modifyNode id fun n => { n with content := .file .empty } else m
      | _ => m
    return m.addOpen (file id)
  | none =>
    if !how.creates then throw .notFound
    let (id, m) := m.createNode found.parent found.name (.file .empty) mode
    return m.addOpen (file id)

def read (m : Machine) (number : Nat) (limit : Option Nat) : Except Fault (ByteArray × Machine) := do
  let file := m.openFile number
  if !file.reads then throw .badDescriptor
  match file.channel with
  | .pipe p =>
    let pipe := m.pipes.getD p default
    let stop := match limit with
      | some n => min (pipe.taken + n) pipe.data.size
      | none => pipe.data.size
    return (pipe.data.extract pipe.taken stop,
      { m with pipes := m.pipes.modify p fun pipe => { pipe with taken := stop } })
  | .node id =>
    match (m.files.node id).content with
    | .directory .. => throw .isDirectory
    | .file data =>
      let stop := match limit with
        | some n => min (file.offset + n) data.size
        | none => max file.offset data.size
      return (data.extract file.offset stop,
        { m with opened := m.opened.modify number fun f => { f with offset := stop } })
    | .device .zero | .device .full =>
      return (⟨Array.replicate (min (limit.getD endlessSize) pipeRoom) 0⟩, m)
    | .binary _ => return (⟨#[0x7F, 0x45, 0x4C, 0x46]⟩, m)
    | _ => return (.empty, m)

def lineEnd (data : ByteArray) : Nat → Nat → Nat
  | 0, i => i
  | fuel + 1, i =>
    if i ≥ data.size then data.size
    else if data.get! i == Utf8.lineFeed then i + 1
    else lineEnd data fuel (i + 1)

def readLine (m : Machine) (number : Nat) : Except Fault (ByteArray × Machine) := do
  let file := m.openFile number
  let (data, start) := match file.channel with
    | .pipe p =>
      let pipe := m.pipes.getD p default
      (pipe.data, pipe.taken)
    | .node id =>
      match (m.files.node id).content with
      | .file data => (data, file.offset)
      | _ => (.empty, 0)
  m.read number (some (lineEnd data (data.size + 1) start - start))

def lineFeeds (data : ByteArray) : Nat := data.foldl (fun n b => if b == Utf8.lineFeed then n + 1 else n) 0

/-- Puts octets into a file at a place, zeros between its end and there. -/
def splice (old : ByteArray) (offset : Nat) (data : ByteArray) : ByteArray :=
  if offset == old.size then old ++ data
  else
    let padded := if offset > old.size then old ++ ⟨Array.replicate (offset - old.size) 0⟩ else old
    padded.extract 0 offset ++ data ++ padded.extract (offset + data.size) padded.size

def write (m : Machine) (number : Nat) (data : ByteArray) : Except Fault Machine := do
  let file := m.openFile number
  if !file.writes then throw .badDescriptor
  match file.channel with
  | .pipe p =>
    let pipe := m.pipes.getD p default
    if pipe.data.size ≥ pipe.room || pipe.lines == some 0 then throw .brokenPipe
    let lines := pipe.lines.map (· - lineFeeds data)
    return { m with pipes := m.pipes.modify p fun pipe => { pipe with data := pipe.data ++ data, lines } }
  | .node id =>
    match (m.files.node id).content with
    | .file old =>
      if data.isEmpty then return m
      let offset := if file.appends then old.size else file.offset
      let stop := offset + data.size
      let m := { m with opened := m.opened.modify number fun f => { f with offset := stop } }
      return m.modifyNode id fun n =>
        match n.content with
        | .file old => { n with content := .file (splice old offset data) }
        | _ => n
    | .device .full => if data.isEmpty then return m else throw .noSpace
    | .directory .. => throw .badDescriptor
    | _ => return m

def node? (m : Machine) (here : NodeId) (path : String) : Option Node :=
  (m.files.find here path true).toOption.map m.files.node

end Machine
end BuildRunner.Sandbox
