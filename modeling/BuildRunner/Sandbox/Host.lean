import BuildRunner.RuleFile.Delivery
import BuildRunner.Runner.Local
import BuildRunner.Sandbox.Launching

/-! The machine as a host of processes, with the programs of a plain system and a working directory
of its own. -/
namespace BuildRunner.Sandbox
open Text

inductive Entry where
  | file (content : List UInt8) (isExecutable : Bool)
  | directory

namespace Machine

def ensureDirectory (m : Machine) : NodeId → List String → NodeId × Machine
  | here, [] => (here, m)
  | here, name :: rest =>
    if name.isEmpty || name == "." then m.ensureDirectory here rest
    else if name == ".." then m.ensureDirectory (m.files.parentOf here) rest
    else
      match m.files.find here name true with
      | .ok id => m.ensureDirectory id rest
      | .error _ =>
        let (id, m) := m.createNode here name (.directory here []) 0o755
        m.ensureDirectory id rest

def place (m : Machine) (start : NodeId) (path : String) (content : Content) (mode : Nat) : Machine :=
  let names := (path.splitOn "/").filter (!·.isEmpty)
  let start := if path.startsWith "/" then FileSystem.root else start
  let (dir, m) := m.ensureDirectory start names.dropLast
  match m.files.find dir (names.getLastD ".") true with
  | .ok id => m.modifyNode id fun n => { n with content, mode }
  | .error _ => (m.createNode dir (names.getLastD ".") content mode).2

def empty : Machine :=
  { files := ⟨#[⟨.directory FileSystem.root [], 0o755, 2, 0⟩]⟩
    opened := #[], pipes := #[], now := 1700000000000000000, lastProcess := 1000, deadline := none, signals := [] }

def directories : List String :=
  ["boot", "dev", "etc", "home", "media", "mnt", "opt", "proc", "root", "run", "srv", "sys", "tmp", "usr/bin",
   "usr/lib", "usr/sbin", "usr/share", "var/tmp", "tmp/work"]

def links : List (String × String) := [("bin", "usr/bin"), ("lib", "usr/lib"), ("sbin", "usr/sbin")]

def system : Machine :=
  let m := directories.foldl (fun m path => (m.ensureDirectory FileSystem.root (path.splitOn "/")).2) empty
  let m := links.foldl (fun m (name, target) => m.place FileSystem.root name (.link target) 0o777) m
  let m := programs.foldl (fun m (name, _) => m.place FileSystem.root ("/usr/bin/" ++ name) (.binary name) 0o755) m
  let m := m.place FileSystem.root "/etc/passwd" (.file "root:x:0:0:root:/root:/bin/bash\n".toUTF8) 0o644
  let m := m.place FileSystem.root "/dev/null" (.device .null) 0o666
  let m := m.place FileSystem.root "/dev/zero" (.device .zero) 0o666
  m.place FileSystem.root "/dev/full" (.device .full) 0o666

def workPlace (m : Machine) : NodeId := (m.files.find FileSystem.root "/tmp/work" true).toOption.getD FileSystem.root

/-- The descriptors of the program that starts all others: nothing to read, and a pipe each for
output and errors, of which only the second is kept. -/
def errorPipe : Nat := 0
def nullFile : Nat := 0
def errorFile : Nat := 1

def new (entries : List (String × Entry)) : Machine :=
  let m := system
  let here := m.workPlace
  let m := entries.foldl
    (fun (m : Machine) (path, entry) =>
      let path := Octets.ofText path
      match entry with
      | .directory => (m.ensureDirectory here (path.splitOn "/")).2
      | .file content isExecutable =>
        m.place here path (.file ⟨content.toArray⟩) (if isExecutable then 0o755 else 0o644)) m
  let null := (m.files.find FileSystem.root "/dev/null" true).toOption.getD 0
  let (_, m) := m.newPipe none
  let (_, m) := m.addOpen ⟨.node null, 0, false, true, false⟩
  (m.addOpen ⟨.pipe errorPipe, 0, false, false, true⟩).2

/-- What the commands wrote on their error stream. -/
def errors (m : Machine) : List UInt8 := (m.pipeText errorPipe).toList

/-- What opening a rule file gives: a directory can be opened, but not read. -/
def deliver (m : Machine) (path : String) : Except IoError RuleFile.Delivery :=
  if path.contains '\x00' then .error .nulInPath
  else
    match m.files.find m.workPlace (Octets.ofText path) true with
    | .error fault => .error fault.toIoError
    | .ok id =>
      match (m.files.node id).content with
      | .directory .. => .ok ⟨[], some .isDirectory⟩
      | .file data => .ok (.ofBytes data.toList)
      | _ => .ok ⟨[], none⟩

end Machine

def baseEnvironment : List (String × String) :=
  [("PATH", "/usr/bin:/bin"), ("LC_ALL", "C"), ("HOME", "/root")]

/-- A path without the names that lead nowhere. -/
def tidy (path : String) : String :=
  let names := (path.splitOn "/").filter fun name => !name.isEmpty && name != "."
  "/".intercalate names

/-- The file of a program. A name without a slash is searched for; a relative path is taken name by
name, so that slashes at its end do not count. -/
def programFile? (m : Machine) (name : String) : Option String :=
  let candidates :=
    if name.startsWith "/" then [name]
    else if name.contains '/' then
      let short := tidy name
      if short.isEmpty then [] else ["./" ++ short]
    else ["/usr/bin/" ++ name, "/bin/" ++ name]
  candidates.find? fun path =>
    match m.node? m.workPlace path with
    | some node => node.isProgram
    | none => false

def spawn (lines : Option Nat) (name : String) (arguments : List String) (m : Machine) :
    Except IoError Child × Machine :=
  if name.contains '\x00' || arguments.any (·.contains '\x00') then (.error .nulInArgument, m)
  else
    match programFile? m (Octets.ofText name) with
    | none => (.error .notFound, m)
    | some path =>
      let (pipe, before) := m.newPipe lines
      let (sink, before) := before.addOpen ⟨.pipe pipe, 0, false, false, true⟩
      let number := before.lastProcess + 1
      let p : Process :=
        { name := if name.contains '/' then Octets.ofText name else path
          arguments := arguments.map Octets.ofText
          environment := baseEnvironment
          descriptors := [(0, Machine.nullFile), (1, sink), (2, Machine.errorFile)]
          workdir := m.workPlace, mask := 0o022, ignored := [], number, ancestors := [1000] }
      match launch launchLimit path p { before with lastProcess := number } with
      | .error fault => (.error fault.toIoError, m)
      | .ok (ending, after) =>
        let status := match ending with
          | .exit code => ExitStatus.code (code % 256 : Nat)
          | .killed _ => .signal
        (.ok ⟨(after.pipeText pipe).toList, none, status⟩, { after with signals := [], deadline := none })

/-- Processes of the machine. Their output is read as long as the given number of lines is not
passed. -/
def host (lines : Option Nat) : Host Machine where
  resolves name m := !name.contains '\x00' && (programFile? m (Octets.ofText name)).isSome
  spawn := spawn (lines.map (· + 1))

end BuildRunner.Sandbox
