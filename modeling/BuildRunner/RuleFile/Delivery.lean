import BuildRunner.Error
import BuildRunner.Text.Lines
import BuildRunner.Text.Utf8

/-! What a reader hands over of a rule file: its lines up to the first fault, and the fault. -/
namespace BuildRunner.RuleFile
open Text

structure Delivery where
  lines : List String
  fault : Option IoError
deriving DecidableEq, Repr

namespace Delivery

def ofText (text : String) : Delivery := ⟨(Text.lines text.toList).map String.ofList, none⟩

/-- Decodes line after line, up to one that is not UTF-8; the ending counts if all are. -/
def ofPieces (ending : Option IoError) : List (List UInt8) → Delivery
  | [] => ⟨[], ending⟩
  | piece :: rest =>
    match Utf8.decode? piece with
    | none => ⟨[], some .invalidUtf8⟩
    | some chars =>
      let more := ofPieces ending rest
      ⟨String.ofList (lineOf chars) :: more.lines, more.fault⟩

def ofBytes (bytes : List UInt8) : Delivery := ofPieces none (pieces Utf8.lineFeed bytes)

/-- A stream that fails after the bytes: a last line without its line feed is lost. -/
def interrupted (bytes : List UInt8) (fault : IoError) : Delivery :=
  ofPieces (some fault) (completePieces Utf8.lineFeed bytes)

end Delivery
end BuildRunner.RuleFile
