import BuildRunner.Command
import BuildRunner.Text.Blank

/-! The forms of a rule-file line: blank, comment, command of a recipe, target with its
dependencies. Anything else is invalid. -/
namespace BuildRunner.RuleFile
open Text

inductive Line where
  | blank
  | comment
  | command (text : String)
  | target (name : String) (dependencies : List String)
  | invalid
deriving DecidableEq, Repr

namespace Line

/-- The name before the only colon and the text after it. The name is not empty and has no blank. -/
def splitTarget? (line : List Char) : Option (List Char × List Char) :=
  let name := line.takeWhile (· ≠ ':')
  match line.dropWhile (· ≠ ':') with
  | [] => none
  | _ :: rest =>
    if name ≠ [] ∧ name.all (!isBlank ·) ∧ ':' ∉ rest then some (name, rest) else none

/-- A comment may be indented; a command starts with a tab. -/
def classify (line : String) : Line :=
  match trim line.toList with
  | [] => .blank
  | '#' :: _ => .comment
  | text =>
    if line.toList.head? = some '\t' then .command (String.ofList text)
    else
      match splitTarget? line.toList with
      | some (name, rest) => .target (String.ofList name) ((words rest).map String.ofList)
      | none => .invalid

end Line

def isEmptyCommand (text : String) : Bool :=
  match text.toList with
  | [] => true
  | c :: rest => (trim (if c = silentMarker then rest else c :: rest)).isEmpty

end BuildRunner.RuleFile
