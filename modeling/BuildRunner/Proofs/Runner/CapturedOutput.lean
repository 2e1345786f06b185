import BuildRunner.Proofs.Runner.CommandEnd
import BuildRunner.Proofs.Text.LossyDecodingRule
import BuildRunner.Proofs.Text.LossyLines

/-! What a runner keeps of the output of a process. It decodes line by line, and what it keeps is the
same as if it had decoded all bytes at once and had then made the ends of the lines alike. -/
namespace BuildRunner
open Text

namespace Child

/-- The text of an output, as it is shown and kept line by line. -/
def captured (output : List UInt8) : String := joinLines (shownLines output)

/-- Decoding all bytes at once comes to the same. -/
theorem captured_eq (output : List UInt8) :
    captured output = String.ofList (normalised (Utf8.decodeLossy output)) := by
  refine String.toList_injective ?_
  rw [captured, toList_joinLines, String.toList_ofList, ← flatMap_chomp_pieces,
    Utf8.pieces_decodeLossy, shownLines, List.map_map, List.flatMap_map, List.flatMap_map]
  simp [shownLine]

private theorem lineCount_captured (output : List UInt8) :
    lineCount (captured output) = (pieces Utf8.lineFeed output).length := by
  rw [captured_eq, lineCount, String.toList_ofList, count_normalised, Utf8.pieces_decodeLossy,
    List.length_map]

private theorem captured_bytesOf_captured (output : List UInt8) :
    captured (Utf8.bytesOf (captured output)) = captured output := by
  rw [captured_eq, Utf8.bytesOf, Utf8.decodeLossy_encode, captured_eq, String.toList_ofList,
    normalised_normalised]

private theorem bytesOf_captured {output : List UInt8} (hutf8 : Utf8.IsUtf8 output)
    (hends : ∀ last ∈ output.getLast?, last = Utf8.lineFeed)
    (hreturn : ∀ first rest, output ≠ first ++ 0x0D :: Utf8.lineFeed :: rest) :
    Utf8.bytesOf (captured output) = output := by
  obtain ⟨text, rfl⟩ := hutf8
  have hsame := normalised_eq_self (Utf8.finished_of_encode hends) (Utf8.no_return_of_encode hreturn)
  rw [captured_eq, Utf8.bytesOf, Utf8.bytesOf, Utf8.decodeLossy_encode, String.toList_ofList, hsame]

end Child

private theorem Host.Starts.result_eq_ok_iff {η : Type} {host : Host η} {raw : String}
    {state : Writer × η} {command : Command} {w : Writer} {child : Child} {after : η}
    (h : host.Starts raw state command w child after) {text : String} :
    ((Runner.onHost host).execute raw state).result = .ok text ↔
      child.failure = none ∧ w.Fits (Child.shownLines child.output) ∧
        text = joinLines command.echoLines ++ Child.captured child.output := by
  rw [h.execute_eq, Child.reply]
  cases hfailure : child.failure with
  | some cause => cases (w.writeAll child.lines).2 <;> simp
  | none =>
    have hlines := Child.lines_of_ended (Child.failure_eq_none_iff.mp hfailure).1
    have hone : ∀ line ∈ Child.shownLines child.output, IsOneLine line :=
      fun _ hl => child.isOneLine (hlines ▸ hl)
    rw [hlines, Child.captured, ← joinLines_append]
    by_cases hfits : w.Fits (Child.shownLines child.output)
    · simp [Writer.writeAll_of_fits hone hfits, hfits, eq_comm]
    · obtain ⟨n, hroom, hn⟩ := Writer.not_fits_iff.mp hfits
      simp [Writer.writeAll_of_exceeds hone hroom hn, hfits]

/-- Nothing is lost by decoding an output line by line. The text that is kept of it is the whole output,
decoded by the rule of lossy decoding, with the ends of its lines made alike. It has a line for each
piece of the output, is kept as it is when it is written again, and is the output itself if that is
well-formed and its lines end as they should. A local runner replies with this text. -/
theorem captured_output_is_whole_output_decoded (output : List UInt8) :
    (∀ s, Utf8.ReadLossily output s ↔ s = Utf8.decodeLossy output) ∧
    Child.captured output = String.ofList (normalised (Utf8.decodeLossy output)) ∧
    lineCount (Child.captured output) = (pieces Utf8.lineFeed output).length ∧
    ((∀ last ∈ output.getLast?, last = Utf8.lineFeed) →
      (pieces Utf8.lineFeed output).length = output.count Utf8.lineFeed) ∧
    (¬ (∀ last ∈ output.getLast?, last = Utf8.lineFeed) →
      (pieces Utf8.lineFeed output).length = output.count Utf8.lineFeed + 1) ∧
    Child.captured [] = "" ∧
    Child.captured (Utf8.bytesOf (Child.captured output)) = Child.captured output ∧
    (Utf8.IsUtf8 output → (∀ last ∈ output.getLast?, last = Utf8.lineFeed) →
      (∀ first rest, output ≠ first ++ 0x0D :: Utf8.lineFeed :: rest) →
      Utf8.bytesOf (Child.captured output) = output) ∧
    ∀ {η : Type} (host : Host η) (raw : String) (state : Writer × η) (command : Command) (w : Writer)
      (child : Child) (after : η), host.Starts raw state command w child after →
      child.output = output → ∀ text,
        ((Runner.onHost host).execute raw state).result = .ok text ↔
          child.failure = none ∧ w.Fits (Child.shownLines output) ∧
            text = joinLines command.echoLines ++ Child.captured output := by
  refine ⟨fun s => Utf8.decodeLossy_eq_iff.symm.trans eq_comm, Child.captured_eq output,
    Child.lineCount_captured output, length_pieces, length_pieces_of_open, rfl,
    Child.captured_bytesOf_captured output, Child.bytesOf_captured, ?_⟩
  rintro η host raw state command w child after hstarts rfl text
  exact hstarts.result_eq_ok_iff

/-- A character that is cut off by a line feed is replaced in its own line, and so is its other half. -/
example : Child.captured [0x61, 0xE2, 0x82, 0x0A, 0xAC, 0x0D, 0x0D, 0x0A, 0x0A, 0x62] =
    "a\uFFFD\n\uFFFD\n\nb\n" := by
  rfl

end BuildRunner
