import BuildRunner.Sandbox.Shell.Program
import BuildRunner.Sandbox.Utility.Columns
import BuildRunner.Sandbox.Utility.Condition
import BuildRunner.Sandbox.Utility.Copying
import BuildRunner.Sandbox.Utility.Counting
import BuildRunner.Sandbox.Utility.Dumping
import BuildRunner.Sandbox.Utility.Encoding
import BuildRunner.Sandbox.Utility.Expression
import BuildRunner.Sandbox.Utility.Granting
import BuildRunner.Sandbox.Utility.Listing
import BuildRunner.Sandbox.Utility.Naming
import BuildRunner.Sandbox.Utility.Ordering
import BuildRunner.Sandbox.Utility.Printing
import BuildRunner.Sandbox.Utility.Removing
import BuildRunner.Sandbox.Utility.Reporting
import BuildRunner.Sandbox.Utility.Sequence
import BuildRunner.Sandbox.Utility.Showing
import BuildRunner.Sandbox.Utility.Splitting
import BuildRunner.Sandbox.Utility.Starting
import BuildRunner.Sandbox.Utility.Summing
import BuildRunner.Sandbox.Utility.Translating

/-! The programs of a plain system, by name. -/
namespace BuildRunner.Sandbox

def utilities : List (String × Act Unit) :=
  [("true", return), ("false", Act.exit 1), ("echo", Utility.Echo.run), ("printf", Utility.Printf.run),
   ("seq", Utility.Seq.run), ("factor", Utility.Factor.run), ("yes", Utility.yes),
   ("expr", Utility.Expression.run), ("test", Utility.Condition.run false),
   ("[", Utility.Condition.run true), ("cat", Utility.Cat.run), ("tac", Utility.Tac.run),
   ("head", Utility.Head.run), ("tail", Utility.Tail.run), ("tee", Utility.Tee.run),
   ("nl", Utility.Number.run), ("cut", Utility.Cut.run), ("paste", Utility.Paste.run),
   ("fold", Utility.Fold.run), ("expand", Utility.Expand.run), ("unexpand", Utility.Unexpand.run),
   ("tr", Utility.Translate.run), ("wc", Utility.Count.run), ("sort", Utility.Sorting.run),
   ("uniq", Utility.Uniq.run), ("comm", Utility.Comm.run), ("tsort", Utility.Topological.run),
   ("mkdir", Utility.MakeDirectory.run), ("rmdir", Utility.RemoveDirectory.run), ("mkfifo", Utility.makePipe),
   ("touch", Utility.Touch.run), ("ln", Utility.Link.run), ("link", Utility.Link.runPlain),
   ("unlink", Utility.Link.removePlain), ("rm", Utility.Remove.run), ("cp", Utility.Copy.run),
   ("mv", Utility.moveFiles), ("install", Utility.Install.run), ("truncate", Utility.Truncate.run),
   ("chmod", Utility.ChangeMode.run), ("chown", Utility.ChangeOwner.run false),
   ("chgrp", Utility.ChangeOwner.run true), ("basename", Utility.baseName), ("dirname", Utility.directoryName),
   ("readlink", Utility.ReadLink.run), ("realpath", Utility.RealPath.run), ("pwd", Utility.workingDirectory),
   ("mktemp", Utility.Temporary.run), ("pathchk", Utility.CheckPath.run), ("ls", Utility.Listing.run []),
   ("dir", Utility.Listing.run ["C", "b"]), ("vdir", Utility.Listing.run ["l", "b"]), ("stat", Utility.Stat.run), ("printenv", Utility.Environment.printValues),
   ("sleep", Utility.sleep), ("id", Utility.Identity.run), ("whoami", Utility.Identity.showName),
   ("groups", Utility.Identity.showGroups), ("logname", Utility.Identity.showLogin), ("tty", Utility.terminal),
   ("uname", Utility.System.run), ("arch", Utility.System.showKind), ("nproc", Utility.System.showProcessors),
   ("sync", Utility.System.sync), ("date", Utility.ShowDate.run),
   ("base64", Utility.Encode.run Utility.Encode.code64), ("base32", Utility.Encode.run Utility.Encode.code32),
   ("basenc", Utility.Encode.runChosen), ("md5sum", Utility.Checksum.run Utility.Checksum.md5),
   ("sha1sum", Utility.Checksum.run Utility.Checksum.sha1), ("sha224sum", Utility.Checksum.run Utility.Checksum.sha224),
   ("sha256sum", Utility.Checksum.run Utility.Checksum.sha256),
   ("sha384sum", Utility.Checksum.run Utility.Checksum.sha384),
   ("sha512sum", Utility.Checksum.run Utility.Checksum.sha512), ("sum", Utility.Checksum.runSum),
   ("cksum", Utility.Checksum.runChosen), ("od", Utility.Dump.run), ("split", Utility.Split.run),
   ("join", Utility.Join.run), ("shuf", Utility.shuffle), ("dd", Utility.Blocks.run),
   ("users", return), ("who", return)]

def starters : List (String × (Launcher → Act Unit)) :=
  [("env", Utility.Environment.run), ("timeout", Utility.Timeout.run), ("nice", Utility.Nice.run),
   ("nohup", Utility.nohup), ("stdbuf", Utility.stdbuf)]

/-- The code with which a program exits whose output cannot be written. -/
def writeFailureCode (name : String) : Nat :=
  if ["ls", "dir", "sort", "printenv"].contains name then 2
  else if name == "expr" then 3
  else if (starters.lookup name).isSome then 125
  else 1

def programs : List (String × Program) :=
  [("sh", Shell.program), ("dash", Shell.program)] ++
    utilities.map (fun (name, act) => (name, Program.ofAct (writeFailureCode name) fun _ => act)) ++
    starters.map fun (name, act) => (name, Program.ofAct (writeFailureCode name) act)

end BuildRunner.Sandbox
