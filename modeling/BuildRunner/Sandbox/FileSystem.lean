import BuildRunner.Error
import BuildRunner.Text.Octets

/-! A file system in memory: numbered nodes, and directories that name them. A path is walked name
by name from the root or from a directory, through links. -/
namespace BuildRunner.Sandbox

inductive Fault where
  | notPermitted
  | notFound
  | notExecutable
  | badDescriptor
  | accessDenied
  | busy
  | alreadyExists
  | notDirectory
  | isDirectory
  | invalidArgument
  | tooManyLinks
  | noSpace
  | brokenPipe
  | nameTooLong
  | notEmpty
  | illegalSeek
deriving DecidableEq, Repr, Inhabited

namespace Fault

def number : Fault → Nat
  | notPermitted => 1
  | notFound => 2
  | notExecutable => 8
  | badDescriptor => 9
  | accessDenied => 13
  | busy => 16
  | alreadyExists => 17
  | notDirectory => 20
  | isDirectory => 21
  | invalidArgument => 22
  | noSpace => 28
  | illegalSeek => 29
  | brokenPipe => 32
  | nameTooLong => 36
  | notEmpty => 39
  | tooManyLinks => 40

def reason : Fault → String
  | notPermitted => "Operation not permitted"
  | notFound => "No such file or directory"
  | notExecutable => "Exec format error"
  | badDescriptor => "Bad file descriptor"
  | accessDenied => "Permission denied"
  | busy => "Device or resource busy"
  | alreadyExists => "File exists"
  | notDirectory => "Not a directory"
  | isDirectory => "Is a directory"
  | invalidArgument => "Invalid argument"
  | noSpace => "No space left on device"
  | illegalSeek => "Illegal seek"
  | brokenPipe => "Broken pipe"
  | nameTooLong => "File name too long"
  | notEmpty => "Directory not empty"
  | tooManyLinks => "Too many levels of symbolic links"

def toIoError : Fault → IoError
  | notFound => .notFound
  | notDirectory => .notDirectory
  | isDirectory => .isDirectory
  | nameTooLong => .nameTooLong
  | f => .reported (f.reason ++ " (os error " ++ toString f.number ++ ")")

end Fault

inductive Device where
  | null
  | zero
  | full
deriving DecidableEq, Repr

abbrev NodeId := Nat

inductive Content where
  | file (data : ByteArray)
  | directory (parent : NodeId) (entries : List (String × NodeId))
  | link (target : String)
  | binary (name : String)
  | device (kind : Device)
  | fifo
deriving Inhabited

/-- Times count the changes made to the machine; whole seconds pass only while programs sleep. -/
structure Node where
  content : Content
  mode : Nat
  links : Nat
  changed : Nat
deriving Inhabited

def Node.isDirectory (n : Node) : Bool :=
  match n.content with
  | .directory .. => true
  | _ => false

def Node.isLink (n : Node) : Bool :=
  match n.content with
  | .link _ => true
  | _ => false

/-- Anyone may run a file that is executable for someone. -/
def Node.isProgram (n : Node) : Bool :=
  match n.content with
  | .file _ | .binary _ => n.mode &&& 0o111 != 0
  | _ => false

def Node.size (n : Node) : Nat :=
  match n.content with
  | .file data => data.size
  | .directory .. => 4096
  | .link target => target.length
  | .binary _ => 38912
  | .device _ | .fifo => 0

structure FileSystem where
  nodes : Array Node

/-- Where a path leads: the directory of its last name, that name, and what it stands for there. -/
structure Located where
  parent : NodeId
  name : String
  target : Option NodeId

namespace FileSystem

def root : NodeId := 0

def nameLimit : Nat := 255
def pathLimit : Nat := 4095

def linkLimit : Nat := 40

def node (fs : FileSystem) (id : NodeId) : Node := fs.nodes.getD id default

def entries (fs : FileSystem) (id : NodeId) : List (String × NodeId) :=
  match (fs.node id).content with
  | .directory _ entries => entries
  | _ => []

def parentOf (fs : FileSystem) (id : NodeId) : NodeId :=
  match (fs.node id).content with
  | .directory parent _ => parent
  | _ => root

/-- The names of a path; a slash at its end asks for a directory, as a last dot does. -/
def components (path : String) : List String :=
  let names := (path.splitOn "/").filter (!·.isEmpty)
  if path.endsWith "/" && !names.isEmpty then names ++ ["."] else names

def walk (fs : FileSystem) : Nat → Nat → NodeId → List String → Bool → Except Fault Located
  | 0, _, _, _, _ => .error .tooManyLinks
  | _ + 1, _, here, [], _ => .ok ⟨fs.parentOf here, ".", some here⟩
  | fuel + 1, links, here, name :: rest, follow =>
    if !(fs.node here).isDirectory then .error .notDirectory
    else if name.length > nameLimit then .error .nameTooLong
    else if name == "." then
      if rest.isEmpty then .ok ⟨fs.parentOf here, ".", some here⟩
      else fs.walk fuel links here rest follow
    else if name == ".." then
      if rest.isEmpty then .ok ⟨fs.parentOf (fs.parentOf here), "..", some (fs.parentOf here)⟩
      else fs.walk fuel links (fs.parentOf here) rest follow
    else
      match (fs.entries here).lookup name with
      | none => if rest.isEmpty then .ok ⟨here, name, none⟩ else .error .notFound
      | some id =>
        match (fs.node id).content with
        | .link target =>
          if rest.isEmpty && !follow then .ok ⟨here, name, some id⟩
          else if links == 0 then .error .tooManyLinks
          else if target.isEmpty then .error .notFound
          else
            fs.walk fuel (links - 1) (if target.startsWith "/" then root else here)
              (components target ++ rest) follow
        | _ => if rest.isEmpty then .ok ⟨here, name, some id⟩ else fs.walk fuel links id rest follow

/-- The last name alone may be missing. -/
def locate (fs : FileSystem) (here : NodeId) (path : String) (follow : Bool) : Except Fault Located :=
  if path.isEmpty then .error .notFound
  else if path.length > pathLimit then .error .nameTooLong
  else
    fs.walk 100000 linkLimit (if path.startsWith "/" then root else here) (components path) follow

def find (fs : FileSystem) (here : NodeId) (path : String) (follow : Bool) : Except Fault NodeId := do
  match (← fs.locate here path follow).target with
  | some id => return id
  | none => throw .notFound

def modify (fs : FileSystem) (id : NodeId) (change : Node → Node) : FileSystem :=
  ⟨fs.nodes.modify id change⟩

def setEntries (fs : FileSystem) (id : NodeId)
    (change : List (String × NodeId) → List (String × NodeId)) : FileSystem :=
  fs.modify id fun n =>
    match n.content with
    | .directory parent entries => { n with content := .directory parent (change entries) }
    | _ => n

def link (fs : FileSystem) (dir : NodeId) (name : String) (id : NodeId) : FileSystem :=
  fs.setEntries dir fun entries => entries.filter (·.1 ≠ name) ++ [(name, id)]

def unlink (fs : FileSystem) (dir : NodeId) (name : String) : FileSystem :=
  fs.setEntries dir fun entries => entries.filter (·.1 ≠ name)

/-- A new node under a name. A directory is named once more by itself and once by each directory
in it. -/
def create (fs : FileSystem) (dir : NodeId) (name : String) (node : Node) : NodeId × FileSystem :=
  let id := fs.nodes.size
  let fs : FileSystem := ⟨fs.nodes.push node⟩
  let fs := if node.isDirectory then fs.modify dir fun n => { n with links := n.links + 1 } else fs
  (id, fs.link dir name id)

def sortedEntries (fs : FileSystem) (id : NodeId) : List (String × NodeId) :=
  (fs.entries id).mergeSort fun a b => a.1 ≤ b.1

/-- The names from the root to a directory. -/
def namesTo (fs : FileSystem) : Nat → NodeId → List String
  | 0, _ => []
  | fuel + 1, id =>
    if id == root then []
    else
      let parent := fs.parentOf id
      let name := ((fs.entries parent).find? fun e => e.2 == id).map (·.1)
      fs.namesTo fuel parent ++ name.toList

def pathTo (fs : FileSystem) (id : NodeId) : String := "/" ++ "/".intercalate (fs.namesTo 1000 id)

def liesIn (fs : FileSystem) (outer : NodeId) : Nat → NodeId → Bool
  | 0, _ => false
  | fuel + 1, id => id == outer || (id != root && fs.liesIn outer fuel (fs.parentOf id))

end FileSystem
end BuildRunner.Sandbox
