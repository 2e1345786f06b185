import BuildRunner.Command
import BuildRunner.Proofs.Text.LongestRuns

/-! The form of commands. How a text is split into a command is told without the steps of splitting.
The splitting can be undone up to the blanks between words, and takes one marker away at most. -/
namespace BuildRunner
open Text

/-- How a command stands to the text that it was split from. -/
structure Command.SplitFrom (command : Command) (raw : String) : Prop where
  shown : command.echo = true →
    trim raw.toList = command.text.toList ∧ command.text.toList.head? ≠ some silentMarker
  /-- Blanks may stand between the marker and the text. -/
  silent : command.echo = false → ∃ blanks, (∀ c ∈ blanks, isBlank c = true) ∧
    trim raw.toList = silentMarker :: (blanks ++ command.text.toList)
  nonempty : command.text ≠ ""
  trimmed : Trimmed command.text.toList
  runs : LongestRuns command.text.toList
    ((command.program :: command.arguments).map String.toList)

namespace Command
variable {raw : String} {command : Command} {s rest : List Char}

private theorem isBlank_silentMarker : isBlank silentMarker = false := by decide

theorem strip_of_marker (h : trim s = silentMarker :: rest) : strip s = (trimStart rest, false) := by
  simp [strip, h]

theorem strip_of_no_marker (h : (trim s).head? ≠ some silentMarker) : strip s = (trim s, true) := by
  unfold strip
  split
  · rename_i ht
    rw [ht]
  · rename_i c rest ht
    have hc : c ≠ silentMarker := by simpa [ht] using h
    rw [if_neg hc, ht]

theorem parse?_eq_none_iff : parse? raw = none ↔ words (strip raw.toList).1 = [] := by
  unfold parse?
  cases hw : words (strip raw.toList).1 <;> simp [hw]

theorem parse?_eq_some_iff :
    parse? raw = some command ↔
      strip raw.toList = (command.text.toList, command.echo) ∧
        words command.text.toList = (command.program :: command.arguments).map String.toList := by
  cases hs : strip raw.toList with
  | mk text echo =>
    have hparse : parse? raw =
        match words text with
        | [] => none
        | program :: arguments => some
          ⟨String.ofList text, echo, String.ofList program, arguments.map String.ofList⟩ := by
      simp only [parse?, hs]
      cases words text <;> rfl
    rw [hparse]
    constructor
    · intro h
      split at h
      · cases h
      · rename_i hw
        cases h
        simp [hw, Function.comp_def]
    · rintro ⟨he, hw⟩
      obtain ⟨rfl, rfl⟩ := Prod.mk.inj he
      rw [hw]
      simp [Function.comp_def]

private theorem splitFrom_of_strip (hs : strip raw.toList = (command.text.toList, command.echo))
    (hw : words command.text.toList = (command.program :: command.arguments).map String.toList) :
    command.SplitFrom raw := by
  have hne : command.text ≠ "" := fun h => by simp [h, words_nil] at hw
  have htrimmed := trimmed_trim raw.toList
  by_cases hmarker : (trim raw.toList).head? = some silentMarker
  · obtain ⟨rest, ht⟩ := List.head?_eq_some_iff.mp hmarker
    rw [strip_of_marker ht] at hs
    obtain ⟨htext, hecho⟩ := Prod.mk.inj hs
    rw [ht] at htrimmed
    refine ⟨fun h => ?_, fun _ => ⟨rest.takeWhile isBlank, ?_, ?_⟩, hne, ?_, words_eq_iff.mp hw⟩
    · rw [h] at hecho
      cases hecho
    · exact List.all_eq_true.mp List.all_takeWhile
    · rw [ht, ← htext, trimStart, List.takeWhile_append_dropWhile]
    · rw [← htext]
      exact htrimmed.trimStart_tail
  · rw [strip_of_no_marker hmarker] at hs
    obtain ⟨htext, hecho⟩ := Prod.mk.inj hs
    refine ⟨fun _ => ⟨htext, htext ▸ hmarker⟩, fun h => ?_, hne, ?_, words_eq_iff.mp hw⟩
    · rw [h] at hecho
      cases hecho
    · rw [← htext]
      exact htrimmed

private theorem SplitFrom.strip_eq (h : command.SplitFrom raw) :
    strip raw.toList = (command.text.toList, command.echo) := by
  cases hecho : command.echo with
  | true =>
    obtain ⟨ht, hmarker⟩ := h.shown hecho
    rw [← ht] at hmarker ⊢
    exact strip_of_no_marker hmarker
  | false =>
    obtain ⟨blanks, hblanks, ht⟩ := h.silent hecho
    rw [strip_of_marker ht, trimStart, List.dropWhile_append_of_pos hblanks, ← trimStart,
      trimStart_of_head h.trimmed.starts]

/-- A text splits into a command exactly if the command has this form. -/
theorem parse?_eq_some_iff_splitFrom : parse? raw = some command ↔ command.SplitFrom raw :=
  parse?_eq_some_iff.trans
    ⟨fun ⟨hs, hw⟩ => splitFrom_of_strip hs hw, fun h => ⟨h.strip_eq, h.runs.words_eq⟩⟩

/-- Only blanks and one marker at most have no program. -/
theorem parse?_eq_none_iff_blank :
    parse? raw = none ↔
      (∀ c ∈ raw.toList, isBlank c = true ∨ c = silentMarker) ∧
        raw.toList.count silentMarker ≤ 1 := by
  have hchars : (∀ c ∈ raw.toList, isBlank c = true ∨ c = silentMarker) ↔
      ∀ c ∈ trim raw.toList, isBlank c = true ∨ c = silentMarker := by
    refine ⟨fun h c hc => h c (mem_of_mem_trim hc), fun h c hc => ?_⟩
    cases hb : isBlank c with
    | true => exact .inl rfl
    | false => exact hb ▸ h c ((mem_trim_iff hb).mpr hc)
  have htrimmed := trimmed_trim raw.toList
  rw [parse?_eq_none_iff, hchars, ← count_trim isBlank_silentMarker]
  cases ht : trim raw.toList with
  | nil => simp [strip, ht, words_nil]
  | cons c rest =>
    rw [ht] at htrimmed
    by_cases hc : c = silentMarker
    · subst hc
      rw [strip_of_marker ht, words_trimStart, words_eq_nil_iff, htrimmed.blank_tail_iff]
      constructor
      · rintro rfl
        simp
      · rintro ⟨hrest, hcount⟩
        rw [List.count_cons_self] at hcount
        have hnone : silentMarker ∉ rest := List.count_eq_zero.mp (by omega)
        refine htrimmed.blank_tail_iff.mp fun b hb => ?_
        exact (hrest b (List.mem_cons_of_mem _ hb)).resolve_right fun e => hnone (e ▸ hb)
    · have hsolid := htrimmed.starts c rfl
      have hmarker : (trim raw.toList).head? ≠ some silentMarker := by simpa [ht] using hc
      rw [strip_of_no_marker hmarker, ht, words_eq_nil_iff]
      simp [hsolid, hc]

private theorem parse?_append_blanks {before after : String}
    (hbefore : ∀ c ∈ before.toList, isBlank c = true)
    (hafter : ∀ c ∈ after.toList, isBlank c = true) (raw : String) :
    parse? (before ++ raw ++ after) = parse? raw := by
  have htrim : trim (before ++ raw ++ after).toList = trim raw.toList := by
    rw [String.toList_append, String.toList_append, trim_append_blanks hafter,
      trim_blanks_append hbefore]
  have hstrip : strip (before ++ raw ++ after).toList = strip raw.toList := by
    rw [strip, strip, htrim]
  rw [parse?, parse?, hstrip]

/-- The words of a command, with one space between any two. -/
def spacedText (command : Command) : String :=
  " ".intercalate (command.program :: command.arguments)

/-- The words of a command behind its marker, if it has one. -/
def respaced (command : Command) : String :=
  (if command.echo then "" else "@") ++ command.spacedText

private theorem toList_spacedText (command : Command) :
    command.spacedText.toList =
      command.program.toList ++ (command.arguments.map String.toList).flatMap (' ' :: ·) := by
  unfold spacedText
  generalize command.program = program
  induction command.arguments generalizing program with
  | nil => simp
  | cons argument arguments ih =>
    rw [String.intercalate_cons_cons, String.toList_append, String.toList_append, ih]
    simp

namespace SplitFrom

private theorem isWord (h : command.SplitFrom raw) :
    IsWord command.program.toList ∧ ∀ w ∈ command.arguments.map String.toList, IsWord w := by
  refine List.forall_mem_cons.mp fun w hw => isWord_of_mem_words (s := command.text.toList) ?_
  rw [h.runs.words_eq]
  exact hw

private theorem runs_spacedText (h : command.SplitFrom raw) :
    LongestRuns command.spacedText.toList
      ((command.program :: command.arguments).map String.toList) := by
  obtain ⟨hprogram, harguments⟩ := h.isWord
  rw [← words_eq_iff, toList_spacedText, words_append_spaced _ harguments, hprogram.words_eq]
  rfl

/-- The words of a command are split into the same command. -/
theorem respaced (h : command.SplitFrom raw) :
    SplitFrom { command with text := command.spacedText } command.respaced := by
  obtain ⟨hprogram, harguments⟩ := h.isWord
  have htrimmed : Trimmed command.spacedText.toList := by
    rw [toList_spacedText]
    exact trimmed_spaced hprogram harguments
  refine ⟨fun hecho => ?_, fun hecho => ⟨[], nofun, ?_⟩, ?_, htrimmed, h.runs_spacedText⟩
  · simp only at hecho
    have hraw : command.respaced = command.spacedText := by simp [Command.respaced, hecho]
    -- both texts begin with the program
    rw [hraw, ← h.runs_spacedText.head?_eq htrimmed, h.runs.head?_eq h.trimmed]
    exact ⟨htrimmed.trim_eq, (h.shown hecho).2⟩
  · simp only at hecho
    have hraw : command.respaced.toList = silentMarker :: command.spacedText.toList := by
      simp [Command.respaced, hecho, silentMarker]
    rw [hraw]
    exact (htrimmed.cons_solid isBlank_silentMarker).trim_eq
  · intro hnil
    have hword := words_eq_iff.mpr h.runs_spacedText
    simp only at hnil
    rw [hnil] at hword
    cases hword

/-- Of the markers of a text, all are left in the command, but for one if it is silent. -/
theorem count_marker (h : command.SplitFrom raw) :
    raw.toList.count silentMarker =
      command.text.toList.count silentMarker + if command.echo then 0 else 1 := by
  rw [← count_trim isBlank_silentMarker]
  cases hecho : command.echo with
  | true => simp [(h.shown hecho).1]
  | false =>
    obtain ⟨blanks, hblanks, ht⟩ := h.silent hecho
    have hnone : silentMarker ∉ blanks := fun hm => by
      have hblank := hblanks _ hm
      rw [isBlank_silentMarker] at hblank
      cases hblank
    simp [ht, List.count_eq_zero.mpr hnone]

end SplitFrom

private theorem parse?_of_two_markers
    (ht : trim raw.toList = silentMarker :: silentMarker :: rest) :
    ∃ command, parse? raw = some command ∧ command.echo = false ∧
      command.text.toList = silentMarker :: rest ∧
      command.program.toList.head? = some silentMarker := by
  have hsome : parse? raw ≠ none := fun hnone => by
    have hcount := (parse?_eq_none_iff_blank.mp hnone).2
    rw [← count_trim isBlank_silentMarker, ht, List.count_cons_self, List.count_cons_self] at hcount
    omega
  obtain ⟨command, hraw⟩ := Option.ne_none_iff_exists'.mp hsome
  have hform := parse?_eq_some_iff_splitFrom.mp hraw
  have hstrip := hform.strip_eq
  rw [strip_of_marker ht, trimStart_of_head (by simp [isBlank_silentMarker])] at hstrip
  obtain ⟨htext, hecho⟩ := Prod.mk.inj hstrip
  refine ⟨command, hraw, hecho.symm, htext.symm, ?_⟩
  rw [hform.runs.head?_eq hform.trimmed, ← htext, List.head?_cons]

/-- A text has no program in it exactly if it is made of blanks, with one marker among them at most.
Any other text splits into the one command that has this form. Blanks around the text do not count,
and the words of the command are split into it again. All markers but one are left in the command,
so a second one in front belongs to the program. -/
theorem command_splitting_is_exact (raw : String) :
    (parse? raw = none ↔
      (∀ c ∈ raw.toList, isBlank c = true ∨ c = silentMarker) ∧
        raw.toList.count silentMarker ≤ 1) ∧
    (∀ command, parse? raw = some command ↔ command.SplitFrom raw) ∧
    (∀ before after : String, (∀ c ∈ before.toList, isBlank c = true) →
      (∀ c ∈ after.toList, isBlank c = true) → parse? (before ++ raw ++ after) = parse? raw) ∧
    (∀ command, parse? raw = some command →
      parse? command.respaced = some { command with text := command.spacedText } ∧
      raw.toList.count silentMarker =
        command.text.toList.count silentMarker + if command.echo then 0 else 1) ∧
    ∀ rest, trim raw.toList = silentMarker :: silentMarker :: rest →
      ∃ command, parse? raw = some command ∧ command.echo = false ∧
        command.text.toList = silentMarker :: rest ∧
        command.program.toList.head? = some silentMarker := by
  refine ⟨parse?_eq_none_iff_blank, fun _ => parse?_eq_some_iff_splitFrom,
    fun _ _ hbefore hafter => parse?_append_blanks hbefore hafter raw, fun command h => ?_,
    fun _ => parse?_of_two_markers⟩
  have hform := parse?_eq_some_iff_splitFrom.mp h
  exact ⟨parse?_eq_some_iff_splitFrom.mpr hform.respaced, hform.count_marker⟩

/-- Blanks may follow the marker that is taken away, but not a second one. -/
example : parse? "@@x" = some ⟨"@x", false, "@x", []⟩ ∧
    parse? " @ x  @ " = some ⟨"x  @", false, "x", ["@"]⟩ ∧
    parse? "@ @" = some ⟨"@", false, "@", []⟩ := by
  exact ⟨rfl, rfl, rfl⟩

end Command
end BuildRunner
