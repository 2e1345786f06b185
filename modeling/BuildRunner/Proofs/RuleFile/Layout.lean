import BuildRunner.Proofs.RuleFile.EffectiveLines
import BuildRunner.Proofs.Text.LineEnds

/-! The layout of a rule file: blank lines and comments, blanks at the ends of lines, the kind of
line ends and whether the last line has one. No change of it has an effect on what is read, except
for the numbers of lines in errors and warnings, which move with the lines. -/
namespace BuildRunner.RuleFile
open Text

/-- A line of blanks, or a comment behind any number of blanks. -/
inductive IsIdle : List Char → Prop
  | blank {line : List Char} (blanks : ∀ c ∈ line, isBlank c = true) : IsIdle line
  | comment {indent : List Char} (blanks : ∀ c ∈ indent, isBlank c = true) (text : List Char) :
      IsIdle (indent ++ '#' :: text)

inductive IsLineEnd : List Char → Prop
  | lineFeed : IsLineEnd ['\n']
  | returned : IsLineEnd ['\r', '\n']

/-- The rest of a text from the end of a line on. -/
inductive FromLineEnd : List Char → Prop
  | text : FromLineEnd []
  | line {ending : List Char} (ends : IsLineEnd ending) (below : List Char) :
      FromLineEnd (ending ++ below)

/-- A change of one line, with the number that each line of the old text has in the new one. -/
inductive Edit : List Char → (Nat → Nat) → List Char → Prop
  /-- A new line between lines, or before the first or after the last one. A last line without an
  end gets one first. -/
  | insertLine {above line ending : List Char} (whole : Finished above) (idle : IsIdle line)
      (single : '\n' ∉ line) (ends : IsLineEnd ending) (below : List Char) :
      Edit (above ++ below) (fun number => if number ≤ above.count '\n' then number else number + 1)
        (above ++ (line ++ (ending ++ below)))
  | appendBlanks {blanks after : List Char} (before : List Char)
      (blank : ∀ c ∈ blanks, isBlank c = true) (single : '\n' ∉ blanks) (rest : FromLineEnd after) :
      Edit (before ++ after) id (before ++ (blanks ++ after))
  | useReturn (before after : List Char) :
      Edit (before ++ '\n' :: after) id (before ++ '\r' :: '\n' :: after)
  | addEnd (text : List Char) {ending : List Char} (ends : IsLineEnd ending) :
      Edit text id (text ++ ending)
  | removeEnd (text : List Char) {ending : List Char} (ends : IsLineEnd ending) :
      Edit (text ++ ending) id text

/-- Any number of changes one after the other. -/
inductive Relaid (old : List Char) : (Nat → Nat) → List Char → Prop
  | same : Relaid old id old
  | step {middle new : List Char} {earlier later : Nat → Nat} (before : Relaid old earlier middle)
      (edit : Edit middle later new) : Relaid old (later ∘ earlier) new

/-- The text with a carriage return before every line feed. -/
def withReturns (text : List Char) : List Char :=
  text.flatMap fun c => if c = '\n' then ['\r', '\n'] else [c]

private theorem IsIdle.isIdle {line : List Char} (h : IsIdle line) :
    (Line.classify (String.ofList line)).isIdle = true := by
  rw [Line.classify_eq, String.toList_ofList]
  cases h with
  | blank hblanks =>
    rw [if_pos (trim_eq_nil_iff.mpr hblanks)]
    rfl
  | comment hblanks text =>
    rw [trim_blanks_append hblanks, trim_cons_of_not_blank (by decide), if_neg (by simp)]
    rfl

private theorem isBlank_of_mem_return : ∀ c ∈ ['\r'], isBlank c = true :=
  List.forall_mem_singleton.mpr (by decide)

private theorem effectiveLines_lineFeed {line : List Char} (h : '\n' ∉ line) (number : Nat)
    (below : List Char) :
    effectiveLines number (lines (line ++ '\n' :: below)) =
      effectiveLines number (line :: lines below) := by
  have hlines : lines (line ++ '\n' :: below) = lineOf (line ++ ['\n']) :: lines below := by
    rw [lines, pieces_append_separator h, List.map_cons, ← lines]
  rw [hlines]
  rcases eq_lineOf_concat line with heq | heq
  · rw [← heq]
  · rw [← effectiveLines_append_blanks isBlank_of_mem_return, ← heq]

private theorem effectiveLines_unended {line : List Char} (h : '\n' ∉ line) (number : Nat) :
    effectiveLines number (lines line) = effectiveLines number [line] := by
  by_cases hline : line = []
  · rw [hline]
    rfl
  · have hpieces : pieces '\n' line = [line] := by
      have happend := pieces_append_of_not_mem h hline []
      rwa [List.append_nil] at happend
    rw [lines, hpieces, List.map_singleton, lineOf_of_not_mem h]

private theorem effectiveLines_lineEnd {line ending : List Char} (hends : IsLineEnd ending)
    (h : '\n' ∉ line) (number : Nat) (below : List Char) :
    effectiveLines number (lines (line ++ (ending ++ below))) =
      effectiveLines number (line :: lines below) := by
  cases hends with
  | lineFeed => exact effectiveLines_lineFeed h number below
  | returned =>
    have hsingle : '\n' ∉ line ++ ['\r'] := by simpa using h
    have hlines := effectiveLines_lineFeed hsingle number below
    rwa [List.append_assoc, effectiveLines_append_blanks isBlank_of_mem_return] at hlines

private theorem FromLineEnd.exists_lines {after : List Char} (h : FromLineEnd after) :
    ∃ below, ∀ number line, '\n' ∉ line →
      effectiveLines number (lines (line ++ after)) = effectiveLines number (line :: below) := by
  cases h with
  | text =>
    refine ⟨[], fun number line hline => ?_⟩
    rw [List.append_nil, effectiveLines_unended hline]
  | line hends below =>
    exact ⟨lines below, fun number line hline => effectiveLines_lineEnd hends hline number below⟩

/-- What two texts have in common above a line takes no part in how that line differs. -/
theorem effectiveLines_congr {after after' : List Char}
    (h : ∀ number line, '\n' ∉ line → effectiveLines number (lines (line ++ after)) =
      effectiveLines number (lines (line ++ after')))
    (number : Nat) (before : List Char) :
    effectiveLines number (lines (before ++ after)) =
      effectiveLines number (lines (before ++ after')) := by
  -- only the unfinished line before the difference is read together with it
  obtain ⟨line, hbefore, hline⟩ := exists_throughLast_append '\n' before
  have hwhole : Finished (throughLast '\n' before) := getLast?_throughLast '\n' before
  generalize throughLast '\n' before = above at hbefore hwhole
  rw [hbefore, List.append_assoc, List.append_assoc, lines_append hwhole, lines_append hwhole,
    effectiveLines_append, effectiveLines_append, h _ line hline]

private theorem effectiveLines_appendBlanks {blanks after : List Char}
    (hblank : ∀ c ∈ blanks, isBlank c = true) (hsingle : '\n' ∉ blanks) (hrest : FromLineEnd after)
    (number : Nat) (before : List Char) :
    effectiveLines number (lines (before ++ (blanks ++ after))) =
      effectiveLines number (lines (before ++ after)) := by
  obtain ⟨below, hbelow⟩ := hrest.exists_lines
  refine effectiveLines_congr (fun number line hline => ?_) number before
  have hboth : '\n' ∉ line ++ blanks := by simp [hline, hsingle]
  rw [← List.append_assoc, hbelow number _ hboth, hbelow number _ hline,
    effectiveLines_append_blanks hblank]

private theorem effectiveLines_addEnd {ending : List Char} (h : IsLineEnd ending) (number : Nat)
    (text : List Char) :
    effectiveLines number (lines (text ++ ending)) = effectiveLines number (lines text) := by
  have hend : ∀ number line, '\n' ∉ line → effectiveLines number (lines (line ++ ending)) =
      effectiveLines number (lines (line ++ [])) := by
    intro number line hline
    have hended := effectiveLines_lineEnd h hline number []
    rw [List.append_nil] at hended
    rw [List.append_nil, hended, effectiveLines_unended hline]
    rfl
  have hall := effectiveLines_congr hend number text
  rwa [List.append_nil] at hall

private theorem effectiveLines_insertLine {above line ending : List Char} (hwhole : Finished above)
    (hidle : IsIdle line) (hsingle : '\n' ∉ line) (hends : IsLineEnd ending) (below : List Char) :
    effectiveLines 1 (lines (above ++ (line ++ (ending ++ below)))) =
      (effectiveLines 1 (lines (above ++ below))).map
        (Prod.map (fun number => if number ≤ above.count '\n' then number else number + 1) id) := by
  have hlength : (lines above).length = above.count '\n' := by
    rw [lines, List.length_map, length_pieces hwhole]
  rw [← hlength, lines_append hwhole, lines_append hwhole, effectiveLines_append,
    effectiveLines_append, List.map_append, effectiveLines_lineEnd hends hsingle,
    effectiveLines_idle _ hidle.isIdle]
  congr 1
  · refine effectiveLines_move fun i hi => ?_
    rw [if_pos (by omega)]
  · refine effectiveLines_move fun i _ => ?_
    rw [if_neg (by omega)]
    omega

private theorem Edit.effectiveLines_eq {old new : List Char} {place : Nat → Nat}
    (h : Edit old place new) :
    effectiveLines 1 (lines new) = (effectiveLines 1 (lines old)).map (Prod.map place id) := by
  cases h with
  | insertLine hwhole hidle hsingle hends below =>
    exact effectiveLines_insertLine hwhole hidle hsingle hends below
  | appendBlanks before hblank hsingle hrest =>
    rw [effectiveLines_appendBlanks hblank hsingle hrest, Prod.map_id, List.map_id]
  | useReturn before after =>
    have hlines := effectiveLines_appendBlanks isBlank_of_mem_return (by decide)
      (.line .lineFeed after) 1 before
    rw [Prod.map_id, List.map_id]
    exact hlines
  | addEnd text hends => rw [effectiveLines_addEnd hends, Prod.map_id, List.map_id]
  | removeEnd text hends => rw [effectiveLines_addEnd hends, Prod.map_id, List.map_id]

private theorem Relaid.effectiveLines_eq {old new : List Char} {place : Nat → Nat}
    (h : Relaid old place new) :
    effectiveLines 1 (lines new) = (effectiveLines 1 (lines old)).map (Prod.map place id) := by
  induction h with
  | same => rw [Prod.map_id, List.map_id]
  | step _ edit ih =>
    rw [edit.effectiveLines_eq, ih, List.map_map, Prod.map_comp_map, Function.comp_id]

private theorem relaid_withReturns (done rest : List Char) :
    Relaid (done ++ rest) id (done ++ withReturns rest) := by
  induction rest generalizing done with
  | nil => exact .same
  | cons c rest ih =>
    have hmore := ih (done ++ [c])
    rw [List.append_assoc, List.append_assoc, List.singleton_append] at hmore
    rw [withReturns, List.flatMap_cons, ← withReturns]
    by_cases hc : c = '\n'
    · rw [if_pos hc]
      rw [hc] at hmore ⊢
      exact hmore.step (.useReturn done (withReturns rest))
    · rw [if_neg hc]
      exact hmore

/-- A rule file and one that differs from it in its layout are read in the same way: both give the
same graph, or both are refused for the same fault of the same line, with the same warnings. The
lines that have an effect are the same, except for blanks at their ends. -/
theorem layout_has_no_effect (policy : DuplicatePolicy) (old : String) :
    (∀ place new, Relaid old.toList place new.toList →
      effectiveLines 1 (lines new.toList) =
          (effectiveLines 1 (lines old.toList)).map (Prod.map place id) ∧
        parseText policy new = (parseText policy old).renumber place) ∧
    parseText policy (String.ofList (withReturns old.toList)) = parseText policy old := by
  have hparse : ∀ place new, Relaid old.toList place new.toList →
      parseText policy new = (parseText policy old).renumber place :=
    fun _ _ h => parseText_renumber h.effectiveLines_eq
  refine ⟨fun place new h => ⟨h.effectiveLines_eq, hparse place new h⟩, ?_⟩
  have hreturns : Relaid old.toList id (String.ofList (withReturns old.toList)).toList := by
    rw [String.toList_ofList]
    exact relaid_withReturns [] old.toList
  rw [hparse id _ hreturns, Logged.renumber_id]

/-- With a comment above them, a warning and an error are told of the next lines. -/
theorem commented_text_is_refused_one_line_later :
    ∃ place, Relaid "a:\na:\n\t@\n".toList place "a:\n\t# b:\r\na:\t\n\t@".toList ∧
      parseText .overwrite "a:\na:\n\t@\n" =
        ⟨[.overridingRecipe "a" 2], .error (.format 3 .emptyCommand)⟩ ∧
      parseText .overwrite "a:\n\t# b:\r\na:\t\n\t@" =
        ⟨[.overridingRecipe "a" 3], .error (.format 4 .emptyCommand)⟩ := by
  have htab : ∀ c ∈ ['\t'], isBlank c = true := List.forall_mem_singleton.mpr (by decide)
  have hinsert : Edit "a:\na:\n\t@\n".toList
      (fun number => if number ≤ 1 then number else number + 1) "a:\n\t# b:\r\na:\n\t@\n".toList :=
    @Edit.insertLine "a:\n".toList "\t# b:".toList _ (by simp [Finished])
      (.comment htab " b:".toList) (by decide) .returned "a:\n\t@\n".toList
  have hblank : Edit "a:\n\t# b:\r\na:\n\t@\n".toList id "a:\n\t# b:\r\na:\t\n\t@\n".toList :=
    @Edit.appendBlanks ['\t'] "\n\t@\n".toList "a:\n\t# b:\r\na:".toList htab (by decide)
      (.line .lineFeed "\t@\n".toList)
  have hend : Edit "a:\n\t# b:\r\na:\t\n\t@\n".toList id "a:\n\t# b:\r\na:\t\n\t@".toList :=
    .removeEnd "a:\n\t# b:\r\na:\t\n\t@".toList .lineFeed
  have hrelaid := ((Relaid.same.step hinsert).step hblank).step hend
  refine ⟨_, hrelaid, rfl, ?_⟩
  exact ((layout_has_no_effect .overwrite "a:\na:\n\t@\n").1 _ _ hrelaid).2

end BuildRunner.RuleFile
