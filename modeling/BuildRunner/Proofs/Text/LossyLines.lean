import BuildRunner.Proofs.Text.StrictDecoding

/-! Lines of bytes that are decoded lossily. A line feed is always a character of its own, so bytes can
be cut into lines before they are decoded or after it. -/
namespace BuildRunner.Text

/-- A line without all carriage returns at its end. -/
def withoutReturns (line : List Char) : List Char := line.rdropWhile (· == '\r')

section
variable {line piece : List Char}

private theorem withoutReturns_of_getLast? (h : line.getLast? ≠ some '\r') :
    withoutReturns line = line := by
  rcases List.eq_nil_or_concat line with rfl | ⟨init, last, rfl⟩
  · rfl
  · rw [List.concat_eq_append] at h ⊢
    refine List.rdropWhile_concat_neg _ _ _ ?_
    simpa using h

private theorem getLast?_withoutReturns (line : List Char) :
    (withoutReturns line).getLast? ≠ some '\r' := by
  intro h
  have hne : withoutReturns line ≠ [] := by
    intro hnil
    simp [hnil] at h
  have hlast := List.rdropWhile_last_not (· == '\r') line hne
  rw [List.getLast?_eq_some_getLast hne] at h
  exact hlast (beq_iff_eq.mpr (Option.some.inj h))

private theorem mem_of_mem_withoutReturns {c : Char} (h : c ∈ withoutReturns line) : c ∈ line :=
  (List.rdropWhile_prefix _ line).subset h

private theorem isWholeLine_withoutReturns (h : '\n' ∉ line) : IsWholeLine (withoutReturns line) :=
  ⟨fun hm => h (mem_of_mem_withoutReturns hm), getLast?_withoutReturns line⟩

private theorem dropWhile_congr {α : Type} {p q : α → Bool} {s : List α} (h : ∀ a ∈ s, p a = q a) :
    s.dropWhile p = s.dropWhile q := by
  induction s with
  | nil => rfl
  | cons a s ih =>
    obtain ⟨ha, hs⟩ := List.forall_mem_cons.mp h
    rw [List.dropWhile_cons, List.dropWhile_cons, ha, ih hs]

private theorem chomp_of_not_mem (h : '\n' ∉ line) : chomp line = withoutReturns line := by
  rw [chomp, withoutReturns, List.rdropWhile, dropWhile_congr]
  intro c hc
  have hne : c ≠ '\n' := fun he => h (he ▸ List.mem_reverse.mp hc)
  rw [beq_eq_false_iff_ne.mpr hne, Bool.false_or]

private theorem chomp_eq_withoutReturns (h : '\n' ∉ piece.dropLast) :
    chomp piece = withoutReturns (lineOf piece) := by
  rcases List.eq_nil_or_concat piece with rfl | ⟨init, last, rfl⟩
  · rfl
  · rw [List.concat_eq_append] at h ⊢
    rw [List.dropLast_concat] at h
    by_cases hlast : last = '\n'
    · rw [hlast, chomp_concat_lineFeed, chomp_of_not_mem h]
      obtain hline | hline := eq_lineOf_concat init
      · rw [← hline]
      · generalize lineOf (init ++ ['\n']) = rest at hline
        rw [hline]
        exact List.rdropWhile_concat_pos _ _ _ rfl
    · have hpiece : '\n' ∉ init ++ [last] := by simpa [h] using Ne.symm hlast
      rw [lineOf_of_not_mem hpiece, chomp_of_not_mem hpiece]

/-- A text whose lines all end alike: no carriage return is left at the end of a line, and the last line
is ended. -/
def normalised (s : List Char) : List Char :=
  (lines s).flatMap fun line => withoutReturns line ++ ['\n']

variable {s : List Char}

/-- Each piece can be stripped of its end on its own. -/
theorem flatMap_chomp_pieces (s : List Char) :
    (pieces '\n' s).flatMap (fun piece => chomp piece ++ ['\n']) = normalised s := by
  rw [normalised, lines, List.flatMap_map]
  refine List.flatMap_congr fun piece hp => ?_
  rw [chomp_eq_withoutReturns (separator_not_mem_dropLast hp)]

private theorem lines_normalised (s : List Char) :
    lines (normalised s) = (lines s).map withoutReturns := by
  have hwhole : ∀ line ∈ (lines s).map withoutReturns, IsWholeLine line := by
    intro line hl
    obtain ⟨longer, hlonger, rfl⟩ := List.mem_map.mp hl
    exact isWholeLine_withoutReturns (lineFeed_not_mem_of_mem_lines hlonger)
  have hlines := lines_flatMap_lineFeed hwhole
  rwa [List.flatMap_map] at hlines

/-- Nothing is left to do the second time. -/
theorem normalised_normalised (s : List Char) : normalised (normalised s) = normalised s := by
  rw [normalised, lines_normalised, List.flatMap_map, normalised]
  refine List.flatMap_congr fun line _ => ?_
  rw [withoutReturns_of_getLast? (getLast?_withoutReturns line)]

private theorem finished_normalised (s : List Char) : Finished (normalised s) := by
  have hends := finished_flatMap_lineFeed ((lines s).map withoutReturns)
  rwa [List.flatMap_map] at hends

/-- There is one line feed for each piece. -/
theorem count_normalised (s : List Char) :
    (normalised s).count '\n' = (pieces '\n' s).length := by
  have hlines := congrArg List.length (lines_normalised s)
  rw [lines, lines, List.length_map, List.length_map, List.length_map] at hlines
  rw [← length_pieces (finished_normalised s), hlines]

/-- A text with all its lines ended, and without carriage returns before the ends, stays as it is. -/
theorem normalised_eq_self (h : Finished s)
    (hreturn : ∀ first rest, s ≠ first ++ '\r' :: '\n' :: rest) : normalised s = s := by
  have hpiece : ∀ piece ∈ pieces '\n' s, withoutReturns (lineOf piece) ++ ['\n'] = piece := by
    intro piece hp
    obtain ⟨line, rfl⟩ := List.getLast?_eq_some_iff.mp (getLast?_of_mem_pieces h hp)
    have hline : line.getLast? ≠ some '\r' := by
      intro hlast
      obtain ⟨init, rfl⟩ := List.getLast?_eq_some_iff.mp hlast
      obtain ⟨before, after, hpieces⟩ := List.append_of_mem hp
      refine hreturn (before.flatten ++ init) after.flatten ?_
      rw [← flatten_pieces '\n' s, hpieces]
      simp
    rw [lineOf_concat hline, withoutReturns_of_getLast? hline]
  rw [normalised, lines, List.flatMap_map, List.flatMap_congr hpiece, List.flatMap_id',
    flatten_pieces]

end

namespace Utf8

private theorem decodeLossy_eq_nil_iff {bytes : List UInt8} :
    decodeLossy bytes = [] ↔ bytes = [] := by
  cases bytes with
  | nil => exact iff_of_true rfl rfl
  | cons b bytes => simp [decodeLossy, scan_cons_ne_nil]

/-- Nothing is replaced in a text that was encoded. -/
theorem decodeLossy_encode (s : List Char) : decodeLossy (encode s) = s := by
  rw [decodeLossy, scan_eq_map_some_iff.mpr rfl, List.map_map]
  exact List.map_id s

/-- Cutting after line feeds and decoding can change places. -/
theorem pieces_decodeLossy (bytes : List UInt8) :
    pieces '\n' (decodeLossy bytes) = (pieces lineFeed bytes).map decodeLossy := by
  induction hn : bytes.length using Nat.strongRecOn generalizing bytes with
  | ind n ih =>
    by_cases hfeed : lineFeed ∈ bytes
    · obtain ⟨first, rest, rfl, hfirst⟩ := List.eq_append_cons_of_mem hfeed
      have hrest : rest.length < n := by
        rw [← hn, List.length_append, List.length_cons]
        omega
      have hpiece : decodeLossy (first ++ [lineFeed]) = decodeLossy first ++ ['\n'] :=
        decodeLossy_append_lineFeed first []
      rw [pieces_append_separator hfirst, decodeLossy_append_lineFeed,
        pieces_append_separator (lineFeed_not_mem_decodeLossy hfirst), ih _ hrest rest rfl,
        List.map_cons, hpiece]
    · by_cases hnil : bytes = []
      · rw [hnil]
        rfl
      · rw [pieces_of_not_mem hfeed hnil, List.map_singleton,
          pieces_of_not_mem (lineFeed_not_mem_decodeLossy hfeed) (mt decodeLossy_eq_nil_iff.mp hnil)]

section
variable {s : List Char}

/-- The last byte of an encoded text tells whether its last line is ended. -/
theorem finished_of_encode (h : ∀ last ∈ (encode s).getLast?, last = lineFeed) : Finished s := by
  intro c hc
  obtain ⟨init, rfl⟩ := List.getLast?_eq_some_iff.mp hc
  obtain ⟨b, tail, he, -⟩ := encodes_encodeChar c
  have hne : String.utf8EncodeChar c ≠ [] := by simp [he]
  have hlast : (encode (init ++ [c])).getLast? = some ((String.utf8EncodeChar c).getLast hne) := by
    rw [encode_append, encode, encode, List.flatMap_singleton, List.getLast?_append_of_ne_nil _ hne,
      List.getLast?_eq_some_getLast hne]
  by_contra hfeed
  refine lineFeed_not_mem_encodeChar hfeed ?_
  rw [← h _ hlast]
  exact List.getLast_mem hne

theorem no_return_of_encode (h : ∀ first rest, encode s ≠ first ++ 0x0D :: lineFeed :: rest) :
    ∀ first rest, s ≠ first ++ '\r' :: '\n' :: rest := by
  rintro first rest rfl
  exact h (encode first) (encode rest) (encode_append first _)

end

end Utf8

end BuildRunner.Text
