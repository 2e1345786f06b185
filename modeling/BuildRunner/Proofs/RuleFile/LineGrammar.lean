import BuildRunner.Proofs.RuleFile.LineForms
import BuildRunner.Proofs.Text.LongestRuns

/-! The grammar of rule-file lines. Every form has a condition on the characters of the line that says
nothing of the order in which the forms are tried; each line meets just one of the five. -/
namespace BuildRunner.RuleFile.Line
open Text
variable {line : String}

def IsBlankLine (line : String) : Prop := ∀ c ∈ line.toList, isBlank c = true

/-- The first character that is not blank is the mark of comments. -/
def IsCommentLine (line : String) : Prop := line.toList.find? (!isBlank ·) = some '#'

structure IsCommandLine (line text : String) : Prop where
  not_blank : ¬ IsBlankLine line
  not_comment : ¬ IsCommentLine line
  tab : line.toList.head? = some '\t'
  trims : TrimsTo line.toList text.toList

/-- The line is cut into a name and a rest at its only colon. -/
structure Cuts (line name rest : String) : Prop where
  line_eq : line = name ++ ":" ++ rest
  isName : IsName name
  no_colon : ':' ∉ rest.toList

/-- The forms of a line. Blanks in front of anything but a comment or a command make it invalid. -/
inductive HasForm (line : String) : Line → Prop
  | blank (blank : IsBlankLine line) : HasForm line .blank
  | comment (comment : IsCommentLine line) : HasForm line .comment
  | command {text : String} (command : IsCommandLine line text) : HasForm line (.command text)
  | target {name rest : String} {dependencies : List String} (cuts : Cuts line name rest)
      (runs : LongestRuns rest.toList (dependencies.map String.toList)) :
      HasForm line (.target name dependencies)
  | invalid (not_blank : ¬ IsBlankLine line) (not_comment : ¬ IsCommentLine line)
      (not_command : ∀ text, ¬ IsCommandLine line text)
      (not_target : ∀ name rest, ¬ Cuts line name rest) : HasForm line .invalid

private theorem isBlankLine_iff : IsBlankLine line ↔ trim line.toList = [] := trim_eq_nil_iff.symm

private theorem isCommentLine_iff : IsCommentLine line ↔ (trim line.toList).head? = some '#' := by
  rw [IsCommentLine, find?_eq_head?_trim]

private theorem classify_eq_blank_iff : classify line = .blank ↔ IsBlankLine line := by
  rw [isBlankLine_iff, classify_eq]
  constructor
  · intro h
    by_contra hne
    rw [if_neg hne] at h
    split_ifs at h
    split at h <;> cases h
  · intro hnil
    exact if_pos hnil

private theorem classify_eq_comment_iff : classify line = .comment ↔ IsCommentLine line := by
  rw [isCommentLine_iff, classify_eq]
  constructor
  · intro h
    by_contra hcomment
    rw [if_neg hcomment] at h
    split_ifs at h
    split at h <;> cases h
  · intro hcomment
    have hne : trim line.toList ≠ [] := by
      intro hnil
      rw [hnil] at hcomment
      cases hcomment
    rw [if_neg hne, if_pos hcomment]

private theorem classify_eq_command_iff_isCommandLine {text : String} :
    classify line = .command text ↔ IsCommandLine line text := by
  rw [classify_eq_command_iff]
  constructor
  · rintro ⟨htab, hne, hcomment, rfl⟩
    refine ⟨mt isBlankLine_iff.mp hne, mt isCommentLine_iff.mp hcomment, htab, ?_⟩
    rw [String.toList_ofList]
    exact trim_eq_iff.mp rfl
  · rintro ⟨hblank, hcomment, htab, htrims⟩
    refine ⟨htab, mt isBlankLine_iff.mpr hblank, mt isCommentLine_iff.mpr hcomment, ?_⟩
    rw [trim_eq_iff.mpr htrims, String.ofList_toList]

private theorem cuts_iff {name rest : String} :
    Cuts line name rest ↔
      IsName name ∧ line.toList = name.toList ++ ':' :: rest.toList ∧ ':' ∉ rest.toList := by
  have hline : line = name ++ ":" ++ rest ↔ line.toList = name.toList ++ ':' :: rest.toList := by
    rw [← String.toList_inj]
    simp
  constructor
  · rintro ⟨he, hname, hcolon⟩
    exact ⟨hname, hline.mp he, hcolon⟩
  · rintro ⟨hname, he, hcolon⟩
    exact ⟨hline.mpr he, hname, hcolon⟩

private theorem classify_eq_target_iff_cuts {name : String} {dependencies : List String} :
    classify line = .target name dependencies ↔
      ∃ rest, Cuts line name rest ∧
        LongestRuns rest.toList (dependencies.map String.toList) := by
  rw [classify_eq_target_iff]
  constructor
  · rintro ⟨hname, rest, hline, hcolon, hwords⟩
    refine ⟨String.ofList rest, cuts_iff.mpr ⟨hname, ?_, ?_⟩, ?_⟩
    all_goals rw [String.toList_ofList]
    · exact hline
    · exact hcolon
    · exact eq_map_words_iff.mp hwords
  · rintro ⟨rest, hcuts, hruns⟩
    obtain ⟨hname, hline, hcolon⟩ := cuts_iff.mp hcuts
    exact ⟨hname, rest.toList, hline, hcolon, eq_map_words_iff.mpr hruns⟩

private theorem Cuts.exists_target {name rest : String} (h : Cuts line name rest) :
    ∃ dependencies, classify line = .target name dependencies := by
  exact ⟨(words rest.toList).map String.ofList,
    classify_eq_target_iff_cuts.mpr ⟨rest, h, eq_map_words_iff.mp rfl⟩⟩

private theorem Cuts.splitTarget?_eq {name rest : String} (h : Cuts line name rest) :
    Line.splitTarget? line.toList = some (name.toList, rest.toList) := by
  obtain ⟨hname, hline, hcolon⟩ := cuts_iff.mp h
  exact splitTarget?_eq_some_iff.mpr
    ⟨hline, toList_ne_nil hname.nonempty, hname.solid, hname.no_colon, hcolon⟩

private theorem Cuts.unique {name rest name' rest' : String} (h : Cuts line name rest)
    (h' : Cuts line name' rest') : name = name' ∧ rest = rest' := by
  have hsplit := h.splitTarget?_eq.symm.trans h'.splitTarget?_eq
  obtain ⟨hn, hr⟩ := Prod.mk.inj (Option.some.inj hsplit)
  exact ⟨String.toList_inj.mp hn, String.toList_inj.mp hr⟩

private theorem hasForm_classify (line : String) : HasForm line (classify line) := by
  cases h : classify line with
  | blank => exact .blank (classify_eq_blank_iff.mp h)
  | comment => exact .comment (classify_eq_comment_iff.mp h)
  | command text => exact .command (classify_eq_command_iff_isCommandLine.mp h)
  | target name dependencies =>
    obtain ⟨rest, hcuts, hruns⟩ := classify_eq_target_iff_cuts.mp h
    exact .target hcuts hruns
  | invalid =>
    -- a condition that held would make the line of its own form
    refine .invalid (fun hblank => ?_) (fun hcomment => ?_) (fun text hcommand => ?_)
      fun name rest hcuts => ?_
    · rw [classify_eq_blank_iff.mpr hblank] at h
      cases h
    · rw [classify_eq_comment_iff.mpr hcomment] at h
      cases h
    · rw [classify_eq_command_iff_isCommandLine.mpr hcommand] at h
      cases h
    · obtain ⟨dependencies, htarget⟩ := hcuts.exists_target
      rw [htarget] at h
      cases h

private theorem HasForm.classify_eq {form : Line} (h : HasForm line form) :
    classify line = form := by
  cases h with
  | blank hblank => exact classify_eq_blank_iff.mpr hblank
  | comment hcomment => exact classify_eq_comment_iff.mpr hcomment
  | command hcommand => exact classify_eq_command_iff_isCommandLine.mpr hcommand
  | target hcuts hruns => exact classify_eq_target_iff_cuts.mpr ⟨_, hcuts, hruns⟩
  | invalid hblank hcomment hcommand htarget =>
    have hform := hasForm_classify line
    generalize classify line = found at hform ⊢
    cases hform with
    | blank h => exact absurd h hblank
    | comment h => exact absurd h hcomment
    | command h => exact absurd h (hcommand _)
    | target h => exact absurd h (htarget _ _)
    | invalid => rfl

/-- Lines are classified by the grammar and by nothing else. Its five forms exclude each other and
leave no line out, and a target line can be cut in one way only. -/
theorem classification_follows_grammar (line : String) :
    (∀ form, classify line = form ↔ HasForm line form) ∧
      (∃! form, HasForm line form) ∧
      ∀ name rest name' rest', Cuts line name rest → Cuts line name' rest' →
        name = name' ∧ rest = rest' := by
  refine ⟨fun form => ⟨?_, HasForm.classify_eq⟩, ⟨classify line, hasForm_classify line, ?_⟩, ?_⟩
  · rintro rfl
    exact hasForm_classify line
  · intro form h
    exact h.classify_eq.symm
  · intro name rest name' rest' h h'
    exact h.unique h'

/-- A comment mark glued to a name, a blank that is no tab in front, and a second colon. -/
example : classify "#run:" = .comment ∧ classify "\u00A0run:" = .invalid ∧
    classify "run:a:" = .invalid := by
  decide +kernel

end BuildRunner.RuleFile.Line
