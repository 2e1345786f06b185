import BuildRunner.Text.Blank

/-! Laws of trimming and of words. Trimming takes blanks from the two ends of a text and nothing
else. The words of a text have no blank in them, and words joined by blanks are found again. -/
namespace BuildRunner.Text
variable {s : List Char} {c : Char}

/-- A text without blanks at its ends. -/
structure Trimmed (s : List Char) : Prop where
  starts : ∀ c ∈ s.head?, isBlank c = false
  ends : ∀ c ∈ s.getLast?, isBlank c = false

private theorem head_trimStart (s : List Char) : ∀ c ∈ (trimStart s).head?, isBlank c = false := by
  intro c hc
  have h := List.head?_dropWhile_not isBlank s
  rw [trimStart] at hc
  rwa [Option.mem_def.mp hc] at h

theorem trimStart_of_head (h : ∀ c ∈ s.head?, isBlank c = false) : trimStart s = s := by
  cases s with
  | nil => rfl
  | cons c rest =>
    have hc := h c rfl
    simp [trimStart, hc]

private theorem trimEnd_prefix_self (s : List Char) : trimEnd s <+: s := by
  have h := List.dropWhile_suffix isBlank (l := s.reverse)
  simpa [trimEnd] using List.reverse_prefix.mpr h

theorem trimmed_trim (s : List Char) : Trimmed (trim s) where
  starts c hc := by
    obtain ⟨rest, he⟩ := trimEnd_prefix_self (trimStart s)
    have hhead : (trimStart s).head? = some c := by
      rw [← he, List.head?_append, ← trim, Option.mem_def.mp hc]
      rfl
    exact head_trimStart s c hhead
  ends c hc := by
    rw [trim, trimEnd, List.getLast?_reverse] at hc
    exact head_trimStart _ c hc

theorem Trimmed.trim_eq (h : Trimmed s) : trim s = s := by
  have hends : trimStart s.reverse = s.reverse :=
    trimStart_of_head (by simpa [List.head?_reverse] using h.ends)
  rw [trim, trimStart_of_head h.starts, trimEnd, ← trimStart, hends, List.reverse_reverse]

theorem trim_eq_self_iff : trim s = s ↔ Trimmed s :=
  ⟨fun h => h ▸ trimmed_trim s, Trimmed.trim_eq⟩

theorem trim_trim (s : List Char) : trim (trim s) = trim s := (trimmed_trim s).trim_eq

theorem trim_cons_blank (h : isBlank c = true) (s : List Char) : trim (c :: s) = trim s := by
  simp [trim, trimStart, h]

theorem trim_blanks_append {blanks : List Char} (h : ∀ c ∈ blanks, isBlank c = true)
    (s : List Char) : trim (blanks ++ s) = trim s := by
  rw [trim, trimStart, List.dropWhile_append_of_pos h, ← trimStart, ← trim]

theorem mem_of_mem_trim (h : c ∈ trim s) : c ∈ s := by
  have hstart := (trimEnd_prefix_self (trimStart s)).subset h
  exact (List.dropWhile_suffix isBlank).subset hstart

theorem trim_cons_of_not_blank (h : isBlank c = false) (s : List Char) :
    trim (c :: s) = c :: trimEnd s := by
  have hstart : trimStart (c :: s) = c :: s := trimStart_of_head (by simp [h])
  rw [trim, hstart, trimEnd, trimEnd, List.reverse_cons, List.dropWhile_append]
  split
  · rename_i hs
    simp [List.isEmpty_iff.mp hs, h]
  · simp

theorem trim_eq_nil_iff : trim s = [] ↔ ∀ c ∈ s, isBlank c = true := by
  induction s with
  | nil => simp [trim, trimStart, trimEnd]
  | cons c s ih =>
    cases h : isBlank c with
    | true => simp [trim_cons_blank h, ih, h]
    | false => simp [trim_cons_of_not_blank h, h]

theorem trimEnd_append_blanks {blanks : List Char} (h : ∀ c ∈ blanks, isBlank c = true)
    (s : List Char) : trimEnd (s ++ blanks) = trimEnd s := by
  have hrev : ∀ c ∈ blanks.reverse, isBlank c = true := fun c hc => h c (List.mem_reverse.mp hc)
  rw [trimEnd, List.reverse_append, List.dropWhile_append_of_pos hrev, trimEnd]

theorem trim_append_blanks {blanks : List Char} (h : ∀ c ∈ blanks, isBlank c = true)
    (s : List Char) : trim (s ++ blanks) = trim s := by
  induction s with
  | nil => exact trim_eq_nil_iff.mpr h
  | cons c s ih =>
    cases hc : isBlank c with
    | true => rw [List.cons_append, trim_cons_blank hc, trim_cons_blank hc, ih]
    | false =>
      rw [List.cons_append, trim_cons_of_not_blank hc, trim_cons_of_not_blank hc,
        trimEnd_append_blanks h]

theorem exists_trimEnd_append (s : List Char) :
    ∃ blanks, s = trimEnd s ++ blanks ∧ ∀ c ∈ blanks, isBlank c = true := by
  refine ⟨(s.reverse.takeWhile isBlank).reverse, ?_, fun c hc => ?_⟩
  · rw [trimEnd, ← List.reverse_append, List.takeWhile_append_dropWhile, List.reverse_reverse]
  · exact List.all_eq_true.mp List.all_takeWhile c (List.mem_reverse.mp hc)

private theorem exists_append_trim_append (s : List Char) :
    ∃ before after, s = before ++ trim s ++ after ∧ (∀ c ∈ before, isBlank c = true) ∧
      ∀ c ∈ after, isBlank c = true := by
  obtain ⟨after, hafter, hblank⟩ := exists_trimEnd_append (trimStart s)
  refine ⟨s.takeWhile isBlank, after, ?_, List.all_eq_true.mp List.all_takeWhile, hblank⟩
  rw [trim, List.append_assoc, ← hafter, trimStart, List.takeWhile_append_dropWhile]

/-- A text stands between blanks in another, and neither begins nor ends with one itself. -/
structure TrimsTo (s t : List Char) : Prop where
  trimmed : Trimmed t
  between : ∃ before after, s = before ++ t ++ after ∧ (∀ c ∈ before, isBlank c = true) ∧
    ∀ c ∈ after, isBlank c = true

theorem trim_eq_iff {t : List Char} : trim s = t ↔ TrimsTo s t := by
  constructor
  · rintro rfl
    exact ⟨trimmed_trim s, exists_append_trim_append s⟩
  · rintro ⟨htrimmed, before, after, rfl, hbefore, hafter⟩
    rw [trim_append_blanks hafter, trim_blanks_append hbefore, htrimmed.trim_eq]

/-- Trimming keeps the first character that is not blank, and puts it in front. -/
theorem find?_eq_head?_trim (s : List Char) : s.find? (!isBlank ·) = (trim s).head? := by
  induction s with
  | nil => rfl
  | cons c s ih =>
    cases hc : isBlank c with
    | true => rw [List.find?_cons_of_neg (by simp [hc]), ih, trim_cons_blank hc]
    | false => rw [List.find?_cons_of_pos (by simp [hc]), trim_cons_of_not_blank hc, List.head?_cons]

theorem count_trim (h : isBlank c = false) (s : List Char) : (trim s).count c = s.count c := by
  obtain ⟨before, after, hs, hbefore, hafter⟩ := exists_append_trim_append s
  have hzero : ∀ blanks : List Char, (∀ b ∈ blanks, isBlank b = true) → blanks.count c = 0 := by
    intro blanks hblanks
    refine List.count_eq_zero.mpr fun hm => ?_
    rw [hblanks c hm] at h
    cases h
  have hcount := congrArg (List.count c) hs
  rw [List.count_append, List.count_append, hzero before hbefore, hzero after hafter, Nat.zero_add,
    Nat.add_zero] at hcount
  exact hcount.symm

theorem mem_trim_iff (h : isBlank c = false) : c ∈ trim s ↔ c ∈ s := by
  rw [← List.count_pos_iff, ← List.count_pos_iff, count_trim h]

theorem Trimmed.cons_solid (h : Trimmed s) (hc : isBlank c = false) : Trimmed (c :: s) where
  starts b hb := by
    obtain rfl := Option.some.inj hb
    exact hc
  ends b hb := by
    cases s with
    | nil =>
      obtain rfl := Option.some.inj hb
      exact hc
    | cons first rest =>
      rw [List.getLast?_cons_of_ne_nil (List.cons_ne_nil first rest)] at hb
      exact h.ends b hb

theorem Trimmed.trimStart_tail (h : Trimmed (c :: s)) : Trimmed (trimStart s) where
  starts := head_trimStart s
  ends b hb := by
    obtain ⟨before, hs⟩ := List.dropWhile_suffix isBlank (l := s)
    rw [← trimStart] at hs
    refine h.ends b ?_
    rw [← hs, ← List.cons_append, List.getLast?_append, Option.mem_def.mp hb]
    rfl

/-- What follows the first character of a text without outer blanks is not made of blanks. -/
theorem Trimmed.blank_tail_iff (h : Trimmed (c :: s)) : (∀ b ∈ s, isBlank b = true) ↔ s = [] := by
  refine ⟨fun hblank => ?_, fun hs => by simp [hs]⟩
  rcases List.eq_nil_or_concat s with hs | ⟨init, last, rfl⟩
  · exact hs
  · have hlast : isBlank last = false := h.ends last <| by
      rw [List.concat_eq_append, ← List.cons_append, List.getLast?_concat]
      rfl
    have hlast' := hblank last (by simp)
    rw [hlast] at hlast'
    cases hlast'

/-- A run of characters that are not blank. -/
structure IsWord (w : List Char) : Prop where
  nonempty : w ≠ []
  solid : ∀ c ∈ w, isBlank c = false

private theorem mem_splitOnP_isBlank {w : List Char} (h : w ∈ s.splitOnP isBlank) :
    ∀ c ∈ w, isBlank c = false ∧ c ∈ s := by
  induction s generalizing w with
  | nil => simp_all
  | cons a s ih =>
    rw [List.splitOnP_cons_eq_if_modifyHead] at h
    split at h
    · rcases List.mem_cons.mp h with rfl | h
      · simp
      · exact fun c hc => ⟨(ih h c hc).1, List.mem_cons_of_mem _ (ih h c hc).2⟩
    · rename_i ha
      cases hs : s.splitOnP isBlank with
      | nil => simp [hs] at h
      | cons first rest =>
        rw [hs, List.modifyHead_cons, List.mem_cons] at h
        intro c hc
        rcases h with rfl | h
        · rcases List.mem_cons.mp hc with rfl | hc
          · exact ⟨by simpa using ha, List.mem_cons_self⟩
          · have hfirst := ih (hs ▸ List.mem_cons_self) c hc
            exact ⟨hfirst.1, List.mem_cons_of_mem _ hfirst.2⟩
        · have hrest := ih (hs ▸ List.mem_cons_of_mem _ h) c hc
          exact ⟨hrest.1, List.mem_cons_of_mem _ hrest.2⟩

theorem isWord_of_mem_words {w : List Char} (h : w ∈ words s) : IsWord w where
  nonempty := ne_nil_of_mem_words h
  solid c hc := (mem_splitOnP_isBlank (List.mem_filter.mp h).1 c hc).1

theorem mem_of_mem_word {w : List Char} (h : w ∈ words s) (hc : c ∈ w) : c ∈ s :=
  (mem_splitOnP_isBlank (List.mem_filter.mp h).1 c hc).2

/-- A character that is not blank belongs to some word. -/
theorem words_eq_nil_iff : words s = [] ↔ ∀ c ∈ s, isBlank c = true := by
  induction s with
  | nil => simp [words_nil]
  | cons c s ih =>
    cases h : isBlank c with
    | true => simp [words_cons_blank h, ih, h]
    | false =>
      have hne : words (c :: s) ≠ [] := by
        obtain ⟨first, rest, hs⟩ := List.exists_cons_of_ne_nil (List.splitOnP_ne_nil isBlank s)
        simp [words, List.splitOnP_cons_eq_if_modifyHead, h, hs]
      simp [hne, h]

theorem words_trimStart (s : List Char) : words (trimStart s) = words s := by
  induction s with
  | nil => rfl
  | cons c s ih =>
    cases h : isBlank c with
    | true =>
      rw [words_cons_blank h, ← ih]
      simp [trimStart, h]
    | false => rw [trimStart_of_head (by simp [h])]

theorem words_blanks_append {blanks : List Char} (h : ∀ c ∈ blanks, isBlank c = true)
    (s : List Char) : words (blanks ++ s) = words s := by
  rw [← words_trimStart, trimStart, List.dropWhile_append_of_pos h, ← trimStart, words_trimStart]

theorem words_append_blank (h : isBlank c = true) (first rest : List Char) :
    words (first ++ c :: rest) = words first ++ words rest := by
  simp [words, List.splitOnP_append_cons first rest h]

theorem words_append_blanks {blanks : List Char} (h : ∀ c ∈ blanks, isBlank c = true)
    (s : List Char) : words (s ++ blanks) = words s := by
  cases blanks with
  | nil => rw [List.append_nil]
  | cons c rest =>
    obtain ⟨hc, hrest⟩ := List.forall_mem_cons.mp h
    rw [words_append_blank hc, words_eq_nil_iff.mpr hrest, List.append_nil]

theorem IsWord.words_eq {w : List Char} (h : IsWord w) : words w = [w] := by
  rw [words, List.splitOnP_eq_singleton h.solid]
  simp [h.nonempty]

/-- Words that are written after a text, a space before each, are its last words. -/
theorem words_append_spaced (first : List Char) {later : List (List Char)}
    (h : ∀ w ∈ later, IsWord w) : words (first ++ later.flatMap (' ' :: ·)) = words first ++ later := by
  induction later generalizing first with
  | nil => simp
  | cons w later ih =>
    obtain ⟨hw, hlater⟩ := List.forall_mem_cons.mp h
    rw [List.flatMap_cons, List.cons_append, words_append_blank (by decide), ih _ hlater,
      hw.words_eq, List.singleton_append]

end BuildRunner.Text
