import BuildRunner.Sandbox.Process

/-! Changes to the tree of files: names are made, removed, moved and given a second time, as the
system does each of these for a process. -/
namespace BuildRunner.Sandbox

/-- A path without the slashes at its end, and whether it has any. -/
def withoutSlashes (path : String) : String × Bool :=
  let short := String.ofList ((path.toList.reverse.dropWhile (· == '/')).reverse)
  if short.isEmpty && !path.isEmpty then ("/", false) else (short, short.length < path.length)

/-- The last name of a path; a slash for the root. -/
def lastName (path : String) : String :=
  let (short, _) := withoutSlashes path
  if short == "/" then short else (short.splitOn "/").getLastD ""

def directoryOf (path : String) : String :=
  match (withoutSlashes path).1.splitOn "/" with
  | [_] => "."
  | names =>
    let (short, _) := withoutSlashes ("/".intercalate names.dropLast)
    if short.isEmpty then "/" else short

/-- A path that leads on from a directory. -/
def joined (directory name : String) : String :=
  if directory.endsWith "/" then directory ++ name
  else directory ++ "/" ++ name

namespace Machine

/-- Where the last name of a path stands, a link there not followed, and whether slashes come after
it. -/
def entryAt (m : Machine) (here : NodeId) (path : String) : Except Fault (Located × Bool) := do
  let (short, slashes) := withoutSlashes path
  return (← m.files.locate here short false, slashes)

def makeDirectory (m : Machine) (here : NodeId) (path : String) (mode : Nat) : Except Fault Machine := do
  let (found, _) ← m.entryAt here path
  if found.target.isSome then throw .alreadyExists
  return (m.createNode found.parent found.name (.directory found.parent []) mode).2

/-- Takes a name away. A node without names is out of reach. -/
def dropEntry (m : Machine) (found : Located) (id : NodeId) : Machine :=
  let isDirectory := (m.files.node id).isDirectory
  let m := m.modifyNode found.parent fun n => if isDirectory then { n with links := n.links - 1 } else n
  { m with files := (m.files.unlink found.parent found.name).modify id fun n => { n with links := n.links - 1 } }

def removeDirectory (m : Machine) (here : NodeId) (path : String) : Except Fault Machine := do
  let (found, _) ← m.entryAt here path
  match found.target with
  | none => throw .notFound
  | some id =>
    if found.name == "." then throw (if id == FileSystem.root then .busy else .invalidArgument)
    if found.name == ".." then throw .notEmpty
    if !(m.files.node id).isDirectory then throw .notDirectory
    if !(m.files.entries id).isEmpty then throw .notEmpty
    return m.dropEntry found id

def removeFile (m : Machine) (here : NodeId) (path : String) : Except Fault Machine := do
  let (found, slashes) ← m.entryAt here path
  match found.target with
  | none => throw .notFound
  | some id =>
    if (m.files.node id).isDirectory then throw .isDirectory
    if slashes then throw .notDirectory
    return m.dropEntry found id

/-- Gives something another name. What has that name goes, if both are directories, the old one
empty, or neither is. -/
def moveEntry (m : Machine) (here : NodeId) (source target : String) : Except Fault Machine := do
  let (found, slashes) ← m.entryAt here source
  let (goal, goalSlashes) ← m.entryAt here target
  let id ← match found.target with
    | some id => pure id
    | none => throw .notFound
  let isSpecial (name : String) : Bool := name == "." || name == ".."
  if isSpecial found.name || isSpecial goal.name then throw .busy
  let isDirectory := (m.files.node id).isDirectory
  if !isDirectory && (slashes || goalSlashes) then throw .notDirectory
  if isDirectory && m.files.liesIn id 1000 goal.parent then throw .invalidArgument
  let place (m : Machine) : Machine :=
    let m := m.dropEntry found id
    let files := m.files.link goal.parent goal.name id
    let files := files.modify id fun n =>
      match n.content with
      | .directory _ entries => { n with content := .directory goal.parent entries, links := n.links + 1 }
      | _ => { n with links := n.links + 1 }
    let files := if isDirectory then files.modify goal.parent fun n => { n with links := n.links + 1 } else files
    { m with files }
  match goal.target with
  | none => return place m
  | some other =>
    if other == id then return m
    let node := m.files.node other
    if isDirectory && !node.isDirectory then throw .notDirectory
    if !isDirectory && node.isDirectory then throw .isDirectory
    if !(m.files.entries other).isEmpty then throw .notEmpty
    return place (m.dropEntry goal other)

def linkFile (m : Machine) (here : NodeId) (follow : Bool) (source target : String) : Except Fault Machine := do
  let id ← m.files.find here source follow
  let (goal, slashes) ← m.entryAt here target
  if goal.target.isSome then throw .alreadyExists
  if slashes then throw .notFound
  if (m.files.node id).isDirectory then throw .notPermitted
  let m := m.modifyNode goal.parent fun n => n
  return { m with files := (m.files.link goal.parent goal.name id).modify id fun n => { n with links := n.links + 1 } }

/-- A new node that is neither a file nor a directory, such as a link. -/
def makeSpecial (m : Machine) (here : NodeId) (path : String) (content : Content) (mode : Nat) :
    Except Fault Machine := do
  if let .link "" := content then throw .notFound
  let (goal, slashes) ← m.entryAt here path
  if goal.target.isSome then throw .alreadyExists
  if slashes then throw .notFound
  return (m.createNode goal.parent goal.name content mode).2

def setMode (m : Machine) (id : NodeId) (mode : Nat) : Machine :=
  { m.tick with files := m.files.modify id fun n => { n with mode } }

def setTime (m : Machine) (id : NodeId) (moment : Nat) : Machine :=
  { m.tick with files := m.files.modify id fun n => { n with changed := moment } }

end Machine

namespace Act

/-- Changes the machine as the process sees it; what goes wrong is given back. -/
def change (act : Machine → NodeId → Except Fault Machine) : Act (Option Fault) := do
  let r ← get
  match act r.machine r.process.workdir with
  | .ok m => setMachine m; return none
  | .error fault => return some fault

def findNode (path : String) (follow : Bool) : Act (Except Fault NodeId) := do
  let r ← get
  return r.machine.files.find r.process.workdir path follow

def nodeOf (id : NodeId) : Act Node := do
  return (← machine).files.node id

def node? (path : String) (follow : Bool) : Act (Option Node) := do
  match ← findNode path follow with
  | .ok id => some <$> nodeOf id
  | .error _ => return none

def isDirectory (path : String) : Act Bool := do
  return (← node? path true).any (·.isDirectory)

/-- The bits of a mode that the process does not hold back. -/
def masked (mode : Nat) : Act Nat := do
  return mode &&& (0o7777 ^^^ ((← process).mask &&& 0o777))

def ask (question : String) : Act Bool := do
  flush
  discard <| writeTo 2 (Text.Octets.toByteArray ((← process).name ++ ": " ++ question ++ "? "))
  match (← process).descriptor? 0 with
  | none => return false
  | some number =>
    match (← machine).readLine number with
    | .error _ => return false
    | .ok (line, m) =>
      setMachine m
      return line.data[0]? == some 0x79 || line.data[0]? == some 0x59

/-- Whether something may be done: without a question, or with the answer to one. -/
def agrees (asks : Bool) (question : String) : Act Bool :=
  if asks then ask question else return true

/-- What a process may be told to do with a path, with what it says when that fails. -/
def attempt (message : String) (act : Machine → NodeId → Except Fault Machine) : Act Bool := do
  match ← change act with
  | none => return true
  | some fault =>
    complain (message ++ ": " ++ fault.reason)
    atLeast 1
    return false

end Act
end BuildRunner.Sandbox
