import BuildRunner.Proofs.Text.Words
import BuildRunner.RuleFile.Line
import Mathlib.Data.List.TakeWhile

/-! The forms of rule-file lines, told by the characters of the line: a target line is a name, a
colon and words, a command line is a tab and a text. -/
namespace BuildRunner.RuleFile
open Text

/-- What can stand before the colon of a target line. -/
structure IsName (name : String) : Prop where
  nonempty : name ≠ ""
  solid : ∀ c ∈ name.toList, isBlank c = false
  no_colon : ':' ∉ name.toList
  no_comment : name.toList.head? ≠ some '#'

/-- What can stand in a dependency list. It may look like a comment. -/
structure IsDependency (name : String) : Prop where
  nonempty : name ≠ ""
  solid : ∀ c ∈ name.toList, isBlank c = false
  no_colon : ':' ∉ name.toList

/-- What can stand after the tab of a command line and be a command. -/
structure IsCommand (command : String) : Prop where
  nonempty : command ≠ ""
  trimmed : trim command.toList = command.toList
  no_lineFeed : '\n' ∉ command.toList
  no_comment : command.toList.head? ≠ some '#'
  not_marker : command ≠ "@"

theorem toList_ne_nil {s : String} (h : s ≠ "") : s.toList ≠ [] := by simpa using h

private theorem IsName.exists_cons {name : String} (h : IsName name) :
    ∃ c rest, name.toList = c :: rest ∧ isBlank c = false ∧ c ≠ '#' := by
  obtain ⟨c, rest, hn⟩ := List.exists_cons_of_ne_nil (toList_ne_nil h.nonempty)
  have hc := h.no_comment
  exact ⟨c, rest, hn, h.solid c (by simp [hn]), by simpa [hn] using hc⟩

namespace Line

private theorem splitTarget?_cut {name : List Char} (h : ':' ∉ name) (rest : List Char) :
    splitTarget? (name ++ ':' :: rest) =
      if name ≠ [] ∧ name.all (!isBlank ·) ∧ ':' ∉ rest then some (name, rest) else none := by
  have hall : ∀ c ∈ name, (decide (c ≠ ':')) = true := fun c hc =>
    decide_eq_true fun e => h (e ▸ hc)
  have htake : (name ++ ':' :: rest).takeWhile (· ≠ ':') = name := by
    rw [List.takeWhile_append_of_pos hall]
    simp
  have hdrop : (name ++ ':' :: rest).dropWhile (· ≠ ':') = ':' :: rest := by
    rw [List.dropWhile_append_of_pos hall]
    simp
  rw [splitTarget?, htake, hdrop]

private theorem splitTarget?_of_not_mem {line : List Char} (h : ':' ∉ line) :
    splitTarget? line = none := by
  have hall : ∀ c ∈ line, (decide (c ≠ ':')) = true := fun c hc =>
    decide_eq_true fun e => h (e ▸ hc)
  have hdrop : line.dropWhile (· ≠ ':') = [] := List.dropWhile_eq_nil_iff.mpr hall
  rw [splitTarget?, hdrop]

/-- The line is cut at its first colon, which must be its only one. -/
theorem splitTarget?_eq_some_iff {line name rest : List Char} :
    splitTarget? line = some (name, rest) ↔
      line = name ++ ':' :: rest ∧ name ≠ [] ∧ (∀ c ∈ name, isBlank c = false) ∧
        ':' ∉ name ∧ ':' ∉ rest := by
  constructor
  · intro h
    by_cases hcolon : ':' ∈ line
    · obtain ⟨first, after, rfl, hfirst⟩ := List.eq_append_cons_of_mem hcolon
      rw [splitTarget?_cut hfirst] at h
      split at h
      · rename_i hok
        cases h
        obtain ⟨hne, hsolid, hafter⟩ := hok
        exact ⟨rfl, hne, by simpa using hsolid, hfirst, hafter⟩
      · cases h
    · rw [splitTarget?_of_not_mem hcolon] at h
      cases h
  · rintro ⟨rfl, hne, hsolid, hname, hrest⟩
    have hblank : name.all (!isBlank ·) = true := by simpa using hsolid
    rw [splitTarget?_cut hname]
    exact if_pos ⟨hne, hblank, hrest⟩

private theorem splitTarget?_append_blanks {blanks : List Char} (h : ∀ c ∈ blanks, isBlank c = true)
    (line : List Char) :
    splitTarget? (line ++ blanks) =
      (splitTarget? line).map fun (name, rest) => (name, rest ++ blanks) := by
  have hblanks : ':' ∉ blanks := fun hm => absurd (h _ hm) (by decide)
  by_cases hcolon : ':' ∈ line
  · obtain ⟨first, after, rfl, hfirst⟩ := List.eq_append_cons_of_mem hcolon
    rw [List.append_assoc, List.cons_append, splitTarget?_cut hfirst, splitTarget?_cut hfirst]
    by_cases hafter : ':' ∈ after
    · simp [hafter]
    · simp only [List.mem_append, hafter, hblanks, or_self]
      split <;> rfl
  · have hboth : ':' ∉ line ++ blanks := by simp [hcolon, hblanks]
    rw [splitTarget?_of_not_mem hcolon, splitTarget?_of_not_mem hboth, Option.map_none]

theorem classify_eq (line : String) :
    classify line =
      if trim line.toList = [] then .blank
      else if (trim line.toList).head? = some '#' then .comment
      else if line.toList.head? = some '\t' then .command (String.ofList (trim line.toList))
      else
        match splitTarget? line.toList with
        | some (name, rest) => .target (String.ofList name) ((words rest).map String.ofList)
        | none => .invalid := by
  unfold classify
  split
  · rename_i ht
    simp [ht]
  · rename_i rest ht
    simp [ht]
  · rename_i _ hne hnot
    have hhead : (trim line.toList).head? ≠ some '#' := fun h =>
      (List.head?_eq_some_iff.mp h).elim hnot
    exact ((if_neg hne).trans (if_neg hhead)).symm

/-- Blanks at the end of a line do not change its form, nor anything that is read from it. -/
theorem classify_append_blanks {blanks : List Char} (h : ∀ c ∈ blanks, isBlank c = true)
    (line : List Char) :
    classify (String.ofList (line ++ blanks)) = classify (String.ofList line) := by
  rw [classify_eq, classify_eq, String.toList_ofList, String.toList_ofList, trim_append_blanks h,
    splitTarget?_append_blanks h]
  by_cases hblank : trim line = []
  · rw [if_pos hblank, if_pos hblank]
  · -- the line is not empty, so its first character stays the first one
    have hhead : (line ++ blanks).head? = line.head? := by
      cases line with
      | nil => exact absurd rfl hblank
      | cons c line => rfl
    rw [hhead]
    cases splitTarget? line with
    | none => rfl
    | some cut => simp only [Option.map_some, words_append_blanks h]

theorem classify_trimEnd (line : List Char) :
    classify (String.ofList (trimEnd line)) = classify (String.ofList line) := by
  obtain ⟨blanks, hline, hblanks⟩ := exists_trimEnd_append line
  rw [← classify_append_blanks hblanks, ← hline]

private theorem classify_name_append {name : String} (h : IsName name) (rest : List Char) :
    classify (String.ofList (name.toList ++ rest)) =
      match splitTarget? (name.toList ++ rest) with
      | some (name, rest) => .target (String.ofList name) ((words rest).map String.ofList)
      | none => .invalid := by
  obtain ⟨c, tail, hn, hc, hcomment⟩ := h.exists_cons
  have htab : c ≠ '\t' := fun e => by
    rw [e] at hc
    exact absurd hc (by decide)
  rw [classify_eq, String.toList_ofList, hn, List.cons_append, trim_cons_of_not_blank hc]
  simp [hcomment, htab]

theorem classify_eq_target_iff {line name : String} {dependencies : List String} :
    classify line = .target name dependencies ↔
      IsName name ∧ ∃ rest, line.toList = name.toList ++ ':' :: rest ∧ ':' ∉ rest ∧
        dependencies = (words rest).map String.ofList := by
  constructor
  · intro h
    rw [classify_eq] at h
    split at h
    · cases h
    split at h
    · cases h
    rename_i hcomment
    split at h
    · cases h
    split at h
    · rename_i first rest hs
      cases h
      obtain ⟨hline, hne, hsolid, hcolon, hrest⟩ := splitTarget?_eq_some_iff.mp hs
      obtain ⟨c, tail, rfl⟩ := List.exists_cons_of_ne_nil hne
      have hc := hsolid c List.mem_cons_self
      rw [hline, List.cons_append, trim_cons_of_not_blank hc] at hcomment
      refine ⟨⟨by simp, ?_, ?_, ?_⟩, rest, ?_, hrest, rfl⟩
      · simpa using hsolid
      · simpa using hcolon
      · simpa using hcomment
      · simpa using hline
    · cases h
  · rintro ⟨hname, rest, hline, hrest, rfl⟩
    have hs : splitTarget? (name.toList ++ ':' :: rest) = some (name.toList, rest) :=
      splitTarget?_eq_some_iff.mpr ⟨rfl, toList_ne_nil hname.nonempty, hname.solid,
        hname.no_colon, hrest⟩
    have hof : line = String.ofList (name.toList ++ ':' :: rest) := by
      rw [← hline, String.ofList_toList]
    rw [hof, classify_name_append hname, hs]
    simp

theorem classify_eq_command_iff {line text : String} :
    classify line = .command text ↔
      line.toList.head? = some '\t' ∧ trim line.toList ≠ [] ∧
        (trim line.toList).head? ≠ some '#' ∧ text = String.ofList (trim line.toList) := by
  rw [classify_eq]
  constructor
  · intro h
    split at h
    · cases h
    split at h
    · cases h
    split at h
    · rename_i hne hcomment htab
      cases h
      exact ⟨htab, hne, hcomment, rfl⟩
    · split at h <;> cases h
  · rintro ⟨htab, hne, hcomment, rfl⟩
    rw [if_neg hne, if_neg hcomment, if_pos htab]

end Line

/-- A text without outer blanks is an empty command if it is a marker at most. -/
theorem isEmptyCommand_iff {text : String} (h : trim text.toList = text.toList) :
    isEmptyCommand text = true ↔ text = "" ∨ text = "@" := by
  have htrimmed : Trimmed text.toList := trim_eq_self_iff.mp h
  rw [← String.toList_inj, ← String.toList_inj, isEmptyCommand]
  cases hc : text.toList with
  | nil => simp
  | cons c rest =>
    rw [hc] at h htrimmed
    by_cases hmarker : c = silentMarker
    · have hempty : trim rest = [] ↔ rest = [] := trim_eq_nil_iff.trans htrimmed.blank_tail_iff
      simp [hmarker, hempty, silentMarker]
    · have hne : c ≠ '@' := hmarker
      simp [hne, hmarker, h]

end BuildRunner.RuleFile
