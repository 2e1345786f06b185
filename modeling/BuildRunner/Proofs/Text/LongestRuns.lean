import BuildRunner.Proofs.Text.Words

/-! The words of a text are its longest runs of characters that are not blank. The runs are told by a
relation that says where they stand, not how they are found, and a text stands in it to one list. -/
namespace BuildRunner.Text
variable {s w : List Char} {ws : List (List Char)} {c : Char}

/-- The runs of a text from the left. Blanks may stand before and between them, and a run goes on up
to a blank or to the end of the text. -/
inductive LongestRuns : List Char → List (List Char) → Prop
  | nil {s : List Char} (blank : ∀ c ∈ s, isBlank c = true) : LongestRuns s []
  | cons {gap w rest : List Char} {ws : List (List Char)} (gap_blank : ∀ c ∈ gap, isBlank c = true)
      (word : IsWord w) (stops : ∀ c ∈ rest.head?, isBlank c = true) (more : LongestRuns rest ws) :
      LongestRuns (gap ++ w ++ rest) (w :: ws)

namespace LongestRuns

private theorem cons_blank (h : LongestRuns s ws) (hc : isBlank c = true) :
    LongestRuns (c :: s) ws := by
  cases h with
  | nil blank => exact .nil (List.forall_mem_cons.mpr ⟨hc, blank⟩)
  | @cons gap w rest ws gap_blank word stops more =>
    exact @cons (c :: gap) w rest ws (List.forall_mem_cons.mpr ⟨hc, gap_blank⟩) word stops more

private theorem exists_cons_solid (h : LongestRuns s ws) (hc : isBlank c = false) :
    ∃ runs, LongestRuns (c :: s) runs := by
  have hone : IsWord [c] := ⟨List.cons_ne_nil c [], by simpa using hc⟩
  cases h with
  | nil blank =>
    have hstops : ∀ b ∈ s.head?, isBlank b = true := fun b hb => blank b (List.mem_of_mem_head? hb)
    exact ⟨[[c]], @cons [] [c] s [] nofun hone hstops (.nil blank)⟩
  | @cons gap w rest ws gap_blank word stops more =>
    cases gap with
    | nil =>
      have hlonger : IsWord (c :: w) :=
        ⟨List.cons_ne_nil c w, List.forall_mem_cons.mpr ⟨hc, word.solid⟩⟩
      exact ⟨(c :: w) :: ws, @cons [] (c :: w) rest ws nofun hlonger stops more⟩
    | cons b gap =>
      have hstops : ∀ a ∈ (b :: gap ++ w ++ rest).head?, isBlank a = true := by
        simpa using gap_blank b List.mem_cons_self
      exact ⟨[c] :: w :: ws, @cons [] [c] _ _ nofun hone hstops (.cons gap_blank word stops more)⟩

theorem words_eq (h : LongestRuns s ws) : words s = ws := by
  induction h with
  | nil blank => exact words_eq_nil_iff.mpr blank
  | @cons gap w rest ws gap_blank word stops _ ih =>
    rw [List.append_assoc, words_blanks_append gap_blank]
    cases rest with
    | nil =>
      rw [List.append_nil, word.words_eq, ← ih, words_nil]
    | cons b rest =>
      have hb : isBlank b = true := stops b rfl
      rw [words_append_blank hb, word.words_eq, ← ih, words_cons_blank hb, List.singleton_append]

theorem head?_eq (h : LongestRuns s (w :: ws)) (hs : Trimmed s) : w.head? = s.head? := by
  generalize hruns : w :: ws = runs at h
  cases h with
  | nil blank => cases hruns
  | @cons gap v rest later gap_blank word =>
    obtain ⟨rfl, -⟩ := List.cons.inj hruns
    cases gap with
    | nil =>
      obtain ⟨c, tail, rfl⟩ := List.exists_cons_of_ne_nil word.nonempty
      rfl
    | cons b gap =>
      have hb := hs.starts b rfl
      rw [gap_blank b List.mem_cons_self] at hb
      cases hb

end LongestRuns

private theorem exists_longestRuns (s : List Char) : ∃ ws, LongestRuns s ws := by
  induction s with
  | nil => exact ⟨[], .nil nofun⟩
  | cons c s ih =>
    obtain ⟨ws, h⟩ := ih
    cases hc : isBlank c with
    | true => exact ⟨ws, h.cons_blank hc⟩
    | false => exact h.exists_cons_solid hc

/-- Every text has its runs, and they are the words. -/
theorem words_eq_iff : words s = ws ↔ LongestRuns s ws := by
  constructor
  · rintro rfl
    obtain ⟨ws, h⟩ := exists_longestRuns s
    rwa [h.words_eq]
  · exact LongestRuns.words_eq

theorem eq_map_words_iff {names : List String} :
    names = (words s).map String.ofList ↔ LongestRuns s (names.map String.toList) := by
  rw [← words_eq_iff]
  constructor
  · rintro rfl
    simp [Function.comp_def]
  · intro h
    simp [h, Function.comp_def]

/-- Words with a space between any two of them have no blank around them. -/
theorem trimmed_spaced (hw : IsWord w) {later : List (List Char)} (h : ∀ v ∈ later, IsWord v) :
    Trimmed (w ++ later.flatMap (' ' :: ·)) where
  starts c hc := by
    obtain ⟨first, tail, rfl⟩ := List.exists_cons_of_ne_nil hw.nonempty
    obtain rfl : first = c := by simpa using hc
    exact hw.solid first List.mem_cons_self
  ends c hc := by
    rcases List.eq_nil_or_concat later with rfl | ⟨init, last, rfl⟩
    · rw [List.flatMap_nil, List.append_nil] at hc
      exact hw.solid c (List.mem_of_getLast? hc)
    · have hlast : IsWord last := h last (by simp)
      rw [List.concat_eq_append, List.flatMap_append, List.flatMap_singleton, ← List.append_assoc,
        List.getLast?_append, List.getLast?_cons_of_ne_nil hlast.nonempty, Option.mem_def,
        Option.or_eq_some_iff] at hc
      rcases hc with hc | ⟨hnone, -⟩
      · exact hlast.solid c (List.mem_of_getLast? hc)
      · exact absurd (List.getLast?_eq_none_iff.mp hnone) hlast.nonempty

end BuildRunner.Text
