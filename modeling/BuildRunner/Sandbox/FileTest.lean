import BuildRunner.Sandbox.Process

/-! Questions about files, each asked by a letter. -/
namespace BuildRunner.Sandbox.FileTest

def letters : List Char := "abcdefghkprsuwxGLNOS".toList

def holds (m : Machine) (here : NodeId) (letter : Char) (path : String) : Bool :=
  let linked := letter == 'h' || letter == 'L'
  match (m.files.find here path (!linked)).toOption.map m.files.node with
  | none => false
  | some node =>
    match letter with
    | 'f' => match node.content with | .file _ | .binary _ => true | _ => false
    | 'd' => node.isDirectory
    | 'h' | 'L' => node.isLink
    | 's' => node.size > 0
    | 'x' => node.isDirectory || node.mode &&& 0o111 != 0
    | 'c' => match node.content with | .device _ => true | _ => false
    | 'p' => match node.content with | .fifo => true | _ => false
    | 'b' | 'S' | 'N' => false
    | 'u' => node.mode &&& 0o4000 != 0
    | 'g' => node.mode &&& 0o2000 != 0
    | 'k' => node.mode &&& 0o1000 != 0
    | _ => true

/-- Whether the first file was changed after the second; a missing one counts as the oldest. -/
def isNewer (m : Machine) (here : NodeId) (a b : String) : Bool :=
  match m.node? here a, m.node? here b with
  | some x, some y => x.changed > y.changed
  | some _, none => true
  | none, _ => false

def isSame (m : Machine) (here : NodeId) (a b : String) : Bool :=
  match m.files.find here a true, m.files.find here b true with
  | .ok x, .ok y => x == y
  | _, _ => false

end BuildRunner.Sandbox.FileTest
