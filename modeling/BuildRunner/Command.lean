import BuildRunner.Text.Blank

/-! Recipe commands: an optional marker that keeps the command line from being shown, a program
and its arguments, separated by blanks. -/
namespace BuildRunner

/-- Stands in front of a command that is not shown before it runs. -/
def silentMarker : Char := '@'

structure Command where
  /-- The command without marker and outer blanks. -/
  text : String
  /-- Whether the text is shown before the program starts. -/
  echo : Bool
  program : String
  arguments : List String
deriving DecidableEq, Repr

namespace Command
open Text

/-- The trimmed command without its marker, and whether there was none. -/
def strip (raw : List Char) : List Char × Bool :=
  match trim raw with
  | [] => ([], true)
  | c :: rest => if c = silentMarker then (trimStart rest, false) else (c :: rest, true)

/-- Only one marker is removed; nothing is a command that has no program. -/
def parse? (raw : String) : Option Command :=
  let (text, echo) := strip raw.toList
  match (words text).map String.ofList with
  | [] => none
  | program :: arguments => some ⟨String.ofList text, echo, program, arguments⟩

end Command
end BuildRunner
