import BuildRunner.Text.Lines
import Mathlib.Data.List.DropRight

/-! Laws of lines. No line has a line feed in it, and lines that are written with a line feed after
each are found again, unless one ends in a carriage return. Only the last piece of a text can lack
its end. -/
namespace BuildRunner.Text

theorem pieces_append_separator {α : Type} [DecidableEq α] {separator : α} {first : List α}
    (h : separator ∉ first) (rest : List α) :
    pieces separator (first ++ separator :: rest) =
      (first ++ [separator]) :: pieces separator rest := by
  induction first with
  | nil => simp [pieces]
  | cons a first ih =>
    rw [List.mem_cons, not_or] at h
    obtain ⟨ha, hfirst⟩ := h
    rw [List.cons_append, pieces, if_neg (Ne.symm ha), ih hfirst]
    rfl

/-- Without a separator, what stands in front belongs to the first piece. -/
theorem pieces_append_of_not_mem {α : Type} [DecidableEq α] {separator : α} {first : List α}
    (h : separator ∉ first) (hne : first ≠ []) (rest : List α) :
    pieces separator (first ++ rest) =
      match pieces separator rest with
      | [] => [first]
      | piece :: more => (first ++ piece) :: more := by
  induction first with
  | nil => exact absurd rfl hne
  | cons a first ih =>
    rw [List.mem_cons, not_or] at h
    obtain ⟨ha, hfirst⟩ := h
    rw [List.cons_append, pieces, if_neg (Ne.symm ha)]
    cases first with
    | nil => rfl
    | cons b first =>
      rw [ih hfirst (List.cons_ne_nil b first)]
      cases pieces separator rest <;> rfl

theorem pieces_of_not_mem {α : Type} [DecidableEq α] {separator : α} {s : List α}
    (h : separator ∉ s) (hne : s ≠ []) : pieces separator s = [s] := by
  have happend := pieces_append_of_not_mem h hne []
  rwa [List.append_nil] at happend

/-- A text that ends in a separator, if it has an end at all, is cut apart from what follows. -/
theorem pieces_append {α : Type} [DecidableEq α] {separator : α} {first : List α}
    (h : ∀ last ∈ first.getLast?, last = separator) (rest : List α) :
    pieces separator (first ++ rest) = pieces separator first ++ pieces separator rest := by
  induction first with
  | nil => rfl
  | cons a first ih =>
    rcases List.eq_nil_or_concat first with rfl | ⟨init, last, hconcat⟩
    · obtain rfl : a = separator := h a rfl
      simp [pieces]
    · have hne : first ≠ [] := by simp [hconcat]
      have hfirst := ih fun c hc => h c (by rwa [List.getLast?_cons_of_ne_nil hne])
      obtain ⟨piece, more, hpieces⟩ : ∃ piece more, pieces separator first = piece :: more := by
        refine List.exists_cons_of_ne_nil fun hnil => hne ?_
        rw [← flatten_pieces separator first, hnil, List.flatten_nil]
      rw [List.cons_append, pieces, pieces, hfirst, hpieces]
      split <;> rfl

section
variable {α : Type} [DecidableEq α] {separator : α} {s piece : List α} {first later : List (List α)}

/-- Pieces with another one after them end in a separator, and are found again without the rest. -/
theorem pieces_eq_append (h : pieces separator s = first ++ later) (hlater : later ≠ []) :
    pieces separator first.flatten = first ∧ ∀ piece ∈ first, piece.getLast? = some separator := by
  fun_induction pieces separator s generalizing first with
  | case1 => exact absurd (List.append_eq_nil_iff.mp h.symm).2 hlater
  | case2 rest ih =>
    cases first with
    | nil => exact ⟨rfl, List.forall_mem_nil _⟩
    | cons piece first =>
      obtain ⟨rfl, hrest⟩ := List.cons.inj h
      obtain ⟨hpieces, hends⟩ := ih hrest
      refine ⟨?_, List.forall_mem_cons.mpr ⟨rfl, hends⟩⟩
      rw [List.flatten_cons, List.singleton_append, pieces, if_pos rfl, hpieces]
  | case3 a rest =>
    cases first with
    | nil => exact ⟨rfl, List.forall_mem_nil _⟩
    | cons piece first => exact absurd (List.append_eq_nil_iff.mp (List.cons.inj h).2.symm).2 hlater
  | case4 a rest ha piece more eq ih =>
    cases first with
    | nil => exact ⟨rfl, List.forall_mem_nil _⟩
    | cons longer first =>
      obtain ⟨rfl, rfl⟩ := List.cons.inj h
      obtain ⟨hpieces, hends⟩ := @ih (piece :: first) eq
      obtain ⟨hpiece, hfirst⟩ := List.forall_mem_cons.mp hends
      refine ⟨?_, List.forall_mem_cons.mpr ⟨?_, hfirst⟩⟩
      · rw [List.flatten_cons, List.cons_append, pieces, if_neg ha, ← List.flatten_cons, hpieces]
      · have hne : piece ≠ [] := ne_nil_of_mem_pieces (eq ▸ List.mem_cons_self)
        rw [List.getLast?_cons_of_ne_nil hne, hpiece]

theorem getLast?_of_mem_pieces (h : ∀ last ∈ s.getLast?, last = separator)
    (hp : piece ∈ pieces separator s) : piece.getLast? = some separator := by
  -- one more piece behind lets every piece of `s` have another one after it
  have hmore : pieces separator (s ++ [separator]) = pieces separator s ++ [[separator]] := by
    rw [pieces_append h, pieces, if_pos rfl, pieces]
  exact (pieces_eq_append hmore (List.cons_ne_nil _ _)).2 piece hp

/-- A text that ends in a separator has one for each piece. -/
theorem length_pieces (h : ∀ last ∈ s.getLast?, last = separator) :
    (pieces separator s).length = s.count separator := by
  fun_induction pieces separator s with
  | case1 => rfl
  | case2 rest ih =>
    rw [List.length_cons, List.count_cons_self, ih]
    intro last hlast
    have hne : rest ≠ [] := List.ne_nil_of_mem (List.mem_of_getLast? hlast)
    exact h last (List.getLast?_cons_of_ne_nil hne ▸ hlast)
  | case3 a rest ha eq =>
    have hrest : rest = [] := by rw [← flatten_pieces separator rest, eq, List.flatten_nil]
    rw [hrest] at h
    exact absurd (h a rfl) ha
  | case4 a rest ha piece more eq ih =>
    have hne : rest ≠ [] := fun hnil => by simp [hnil, pieces] at eq
    rw [eq, List.length_cons] at ih
    rw [List.length_cons, List.count_cons_of_ne ha]
    exact ih fun last hlast => h last (List.getLast?_cons_of_ne_nil hne ▸ hlast)

/-- A text down to its last separator; what has none is left out. -/
def throughLast (separator : α) (s : List α) : List α := s.rdropWhile (· ≠ separator)

theorem getLast?_throughLast (separator : α) (s : List α) :
    ∀ last ∈ (throughLast separator s).getLast?, last = separator := by
  intro last hlast
  by_cases hne : throughLast separator s = []
  · rw [hne] at hlast
    cases hlast
  · have hstop := List.rdropWhile_last_not (· ≠ separator) s hne
    rw [List.getLast?_eq_some_getLast hne] at hlast
    rw [← Option.some.inj hlast]
    exact not_not.mp fun h => hstop (decide_eq_true h)

theorem exists_throughLast_append (separator : α) (s : List α) :
    ∃ rest, s = throughLast separator s ++ rest ∧ separator ∉ rest := by
  refine ⟨s.rtakeWhile (· ≠ separator), List.rdropWhile_append_rtakeWhile.symm, fun h => ?_⟩
  exact of_decide_eq_true (List.mem_rtakeWhile_imp (p := fun a => decide (a ≠ separator)) h) rfl

/-- A text that does not end in a separator has one piece more. -/
theorem length_pieces_of_open (h : ¬ ∀ last ∈ s.getLast?, last = separator) :
    (pieces separator s).length = s.count separator + 1 := by
  obtain ⟨rest, hs, hrest⟩ := exists_throughLast_append separator s
  have hends := getLast?_throughLast separator s
  generalize throughLast separator s = first at hs hends
  have hne : rest ≠ [] := by
    rintro rfl
    rw [hs, List.append_nil] at h
    exact h hends
  rw [hs, pieces_append hends, pieces_of_not_mem hrest hne, List.length_append, length_pieces hends,
    List.count_append, List.count_eq_zero.mpr hrest, List.length_singleton]

/-- The pieces with an end are those of the text down to its last separator. -/
theorem completePieces_eq (separator : α) (s : List α) :
    completePieces separator s = pieces separator (throughLast separator s) := by
  obtain ⟨rest, hs, hrest⟩ := exists_throughLast_append separator s
  have hends := getLast?_throughLast separator s
  generalize throughLast separator s = first at hs hends ⊢
  have hall : (pieces separator first).filter (·.getLast? == some separator) =
      pieces separator first :=
    List.filter_eq_self.mpr fun piece hp => beq_iff_eq.mpr (getLast?_of_mem_pieces hends hp)
  have hnone : (pieces separator rest).filter (·.getLast? == some separator) = [] := by
    refine List.filter_eq_nil_iff.mpr fun piece hp he => hrest ?_
    rw [← flatten_pieces separator rest]
    exact List.mem_flatten_of_mem hp (List.mem_of_getLast? (beq_iff_eq.mp he))
  rw [completePieces, hs, pieces_append hends, List.filter_append, hall, hnone, List.append_nil]

end

/-- Only the end of a piece can be a separator. -/
theorem separator_not_mem_dropLast {α : Type} [DecidableEq α] {separator : α} {s piece : List α}
    (h : piece ∈ pieces separator s) : separator ∉ piece.dropLast := by
  fun_induction pieces separator s generalizing piece with
  | case1 => exact absurd h List.not_mem_nil
  | case2 rest ih =>
    rcases List.mem_cons.mp h with rfl | h
    · simp
    · exact ih h
  | case3 a rest ha =>
    rw [List.mem_singleton.mp h]
    simp
  | case4 a rest ha first more eq ih =>
    rcases List.mem_cons.mp h with rfl | h
    · have hne : first ≠ [] := ne_nil_of_mem_pieces (eq ▸ List.mem_cons_self)
      rw [List.dropLast_cons_of_ne_nil hne, List.mem_cons, not_or]
      exact ⟨Ne.symm ha, ih (eq ▸ List.mem_cons_self)⟩
    · exact ih (eq ▸ List.mem_cons_of_mem _ h)

theorem lineOf_concat {s : List Char} (h : s.getLast? ≠ some '\r') : lineOf (s ++ ['\n']) = s := by
  unfold lineOf
  rw [List.reverse_append, List.reverse_singleton, List.singleton_append]
  split
  · rename_i rest he
    obtain ⟨-, he⟩ := List.cons.inj he
    rw [← List.head?_reverse, he] at h
    exact absurd rfl h
  · rename_i rest _ he
    obtain ⟨-, rfl⟩ := List.cons.inj he
    exact List.reverse_reverse s
  · rename_i _ hnot
    exact absurd rfl (hnot _)

/-- Before a line feed, a line loses a carriage return at most. -/
theorem eq_lineOf_concat (s : List Char) :
    s = lineOf (s ++ ['\n']) ∨ s = lineOf (s ++ ['\n']) ++ ['\r'] := by
  by_cases h : s.getLast? = some '\r'
  · obtain ⟨init, rfl⟩ := List.getLast?_eq_some_iff.mp h
    have hline : lineOf (init ++ ['\r'] ++ ['\n']) = init := by simp [lineOf]
    exact .inr (by rw [hline])
  · exact .inl (lineOf_concat h).symm

theorem lineOf_of_not_mem {piece : List Char} (h : '\n' ∉ piece) : lineOf piece = piece := by
  unfold lineOf
  split
  · rename_i rest he
    exact absurd (List.mem_reverse.mp (he ▸ List.mem_cons_self)) h
  · rename_i rest _ he
    exact absurd (List.mem_reverse.mp (he ▸ List.mem_cons_self)) h
  · rfl

private theorem lineFeed_not_mem_lineOf {piece : List Char} (h : '\n' ∉ piece.dropLast) :
    '\n' ∉ lineOf piece := by
  unfold lineOf
  split
  · rename_i rest he
    obtain rfl := List.reverse_eq_iff.mp he
    simp_all
  · rename_i rest _ he
    obtain rfl := List.reverse_eq_iff.mp he
    simp_all
  · rename_i _ hnot
    intro hm
    rcases List.eq_nil_or_concat piece with rfl | ⟨init, last, rfl⟩
    · exact List.not_mem_nil hm
    · rw [List.concat_eq_append] at h hm hnot
      rw [List.dropLast_concat] at h
      rcases List.mem_append.mp hm with hm | hm
      · exact h hm
      · rw [List.mem_singleton] at hm
        exact hnot init.reverse (by simp [← hm])

theorem lineFeed_not_mem_of_mem_lines {s line : List Char} (h : line ∈ lines s) : '\n' ∉ line := by
  obtain ⟨piece, hp, rfl⟩ := List.mem_map.mp h
  exact lineFeed_not_mem_lineOf (separator_not_mem_dropLast hp)

/-- A text without an unfinished line: it is empty or ends in a line feed. -/
def Finished (s : List Char) : Prop := ∀ last ∈ s.getLast?, last = '\n'

theorem Finished.append {first second : List Char} (h : Finished first) (h' : Finished second) :
    Finished (first ++ second) := by
  intro last hlast
  rw [List.getLast?_append, Option.mem_def, Option.or_eq_some_iff] at hlast
  rcases hlast with hsecond | ⟨-, hfirst⟩
  · exact h' last hsecond
  · exact h last hfirst

theorem lines_append {first : List Char} (h : Finished first) (rest : List Char) :
    lines (first ++ rest) = lines first ++ lines rest := by
  rw [lines, pieces_append h, List.map_append, ← lines, ← lines]

/-- A text that stays the same when it is written as a line and read again. -/
structure IsWholeLine (line : List Char) : Prop where
  no_lineFeed : '\n' ∉ line
  no_return : line.getLast? ≠ some '\r'

theorem finished_flatMap_lineFeed (texts : List (List Char)) :
    Finished (texts.flatMap (· ++ ['\n'])) := by
  induction texts with
  | nil => exact nofun
  | cons text texts ih =>
    rw [List.flatMap_cons]
    refine Finished.append ?_ ih
    intro last hlast
    simpa [eq_comm] using hlast

theorem pieces_flatMap_lineFeed {texts : List (List Char)} (h : ∀ text ∈ texts, '\n' ∉ text) :
    pieces '\n' (texts.flatMap (· ++ ['\n'])) = texts.map (· ++ ['\n']) := by
  induction texts with
  | nil => rfl
  | cons text texts ih =>
    obtain ⟨htext, htexts⟩ := List.forall_mem_cons.mp h
    rw [List.flatMap_cons, List.append_assoc, List.singleton_append, pieces_append_separator htext,
      ih htexts, List.map_cons]

/-- Lines that are written with a line feed after each are found again. -/
theorem lines_flatMap_lineFeed {texts : List (List Char)} (h : ∀ line ∈ texts, IsWholeLine line) :
    lines (texts.flatMap (· ++ ['\n'])) = texts := by
  have hline : ∀ line ∈ texts, lineOf (line ++ ['\n']) = line := fun line hl =>
    lineOf_concat (h line hl).no_return
  rw [lines, pieces_flatMap_lineFeed fun line hl => (h line hl).no_lineFeed, List.map_map]
  exact (List.map_congr_left hline).trans (List.map_id' texts)

end BuildRunner.Text
