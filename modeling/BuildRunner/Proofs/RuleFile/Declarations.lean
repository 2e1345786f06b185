import BuildRunner.Proofs.RuleFile.LineForms

/-! The places of the declarations among the lines of a rule file: which line declares a name last,
what stands below it before the next target line, and whose recipe a line belongs to. Each notion
comes with the lemma on one more line at the end, which is how a file is read. -/
namespace BuildRunner.RuleFile
open Text

/-- The name that a line declares, if it is a target line. -/
def declared? (line : String) : Option String :=
  match Line.classify line with
  | .target name _ => some name
  | _ => none

def isCommandLine (line : String) : Bool :=
  match Line.classify line with
  | .command _ => true
  | _ => false

/-- The command lines among some lines, without their outer blanks. -/
def commandTexts (lines : List String) : List String :=
  (lines.filter isCommandLine).map fun line => String.ofList (trim line.toList)

/-- The names that some lines declare, each as often as it is declared. -/
def declaredNames (lines : List String) : List String := lines.filterMap declared?

/-- The lines that come before any further target line. -/
def untilNextTarget (lines : List String) : List String := lines.takeWhile (declared? · = none)

/-- The line is the last of the lines that declare the name; the others stand after it. -/
structure DeclaresLast (lines : List String) (name line : String) (after : List String) : Prop where
  place : ∃ before, lines = before ++ line :: after
  declares : declared? line = some name
  last : name ∉ declaredNames after

/-- Whose recipe a line belongs to, from the lines down to it and the lines below it: the nearest
target line has the name, unless it is declared again below. -/
def owner? (upTo below : List String) : Option String :=
  (declaredNames upTo).getLast?.filter (· ∉ declaredNames below)

/-- The lines that belong to a name, among those that stand below others. -/
def ownedLines (name : String) (above : List String) : List String → List String
  | [] => []
  | line :: below =>
    if owner? (above ++ [line]) below = some name then
      line :: ownedLines name (above ++ [line]) below
    else ownedLines name (above ++ [line]) below

section
variable {line name text : String} {dependencies lines : List String}

theorem declared?_of_target (h : Line.classify line = .target name dependencies) :
    declared? line = some name := by
  rw [declared?, h]

theorem declared?_of_command (h : Line.classify line = .command text) : declared? line = none := by
  rw [declared?, h]

@[simp] theorem declaredNames_append (first second : List String) :
    declaredNames (first ++ second) = declaredNames first ++ declaredNames second :=
  List.filterMap_append

theorem declaredNames_of_some (h : declared? line = some name) : declaredNames [line] = [name] := by
  simp [declaredNames, h]

theorem declaredNames_of_none (h : declared? line = none) : declaredNames [line] = [] := by
  simp [declaredNames, h]

theorem declaredNames_concat_of_none (lines : List String) (h : declared? line = none) :
    declaredNames (lines ++ [line]) = declaredNames lines := by
  rw [declaredNames_append, declaredNames_of_none h, List.append_nil]

theorem declaredNames_concat_of_some (lines : List String) (h : declared? line = some name) :
    declaredNames (lines ++ [line]) = declaredNames lines ++ [name] := by
  rw [declaredNames_append, declaredNames_of_some h]

@[simp] theorem commandTexts_nil : commandTexts [] = [] := rfl

@[simp] theorem commandTexts_append (first second : List String) :
    commandTexts (first ++ second) = commandTexts first ++ commandTexts second := by
  simp [commandTexts]

theorem commandTexts_of_command (h : Line.classify line = .command text) :
    commandTexts [line] = [text] := by
  have hcommand : isCommandLine line = true := by rw [isCommandLine, h]
  obtain ⟨-, -, -, rfl⟩ := Line.classify_eq_command_iff.mp h
  simp [commandTexts, hcommand]

theorem commandTexts_of_not_command (h : isCommandLine line = false) : commandTexts [line] = [] := by
  simp [commandTexts, h]

theorem commandTexts_of_declared (h : declared? line = some name) : commandTexts [line] = [] := by
  unfold declared? at h
  split at h
  · rename_i hl
    exact commandTexts_of_not_command (by rw [isCommandLine, hl])
  · cases h

private theorem untilNextTarget_concat (after : List String) (line : String) :
    untilNextTarget (after ++ [line]) =
      untilNextTarget after ++
        if declaredNames after = [] ∧ declared? line = none then [line] else [] := by
  induction after with
  | nil => cases hd : declared? line <;> simp [untilNextTarget, declaredNames, hd]
  | cons first after ih =>
    cases hd : declared? first with
    | some name => simp [untilNextTarget, declaredNames, hd]
    | none =>
      have hnames : declaredNames (first :: after) = declaredNames after := by
        simp [declaredNames, hd]
      simp only [untilNextTarget] at ih
      rw [hnames]
      simp [untilNextTarget, hd, ih]

/-- Of one more line below a declaration, a command goes to it if no target line stands between. -/
theorem commandTexts_untilNextTarget_concat (after : List String) (line : String) :
    commandTexts (untilNextTarget (after ++ [line])) =
      commandTexts (untilNextTarget after) ++
        if declaredNames after = [] then commandTexts [line] else [] := by
  rw [untilNextTarget_concat, commandTexts_append]
  cases hd : declared? line with
  | some name => simp [commandTexts_of_declared hd]
  | none => by_cases hafter : declaredNames after = [] <;> simp [hafter]

/-- A further line takes all lines from a name that it declares, and goes to the name of the last
target line. -/
theorem ownedLines_concat (name : String) (above lines : List String) (line : String) :
    ownedLines name above (lines ++ [line]) =
      (if declared? line = some name then [] else ownedLines name above lines) ++
        if (declaredNames (above ++ lines ++ [line])).getLast? = some name then [line] else [] := by
  induction lines generalizing above with
  | nil => simp [ownedLines, owner?, declaredNames]
  | cons first lines ih =>
    have howner : owner? (above ++ [first]) (lines ++ [line]) = some name ↔
        owner? (above ++ [first]) lines = some name ∧ declared? line ≠ some name := by
      simp only [owner?, Option.filter_eq_some_iff, declaredNames_append, decide_eq_true_eq,
        List.mem_append, not_or, and_assoc]
      simp [declaredNames]
    have hrest := ih (above ++ [first])
    rw [List.append_assoc above, List.singleton_append] at hrest
    rw [List.cons_append, ownedLines, ownedLines, hrest]
    by_cases hline : declared? line = some name
    · simp [howner, hline]
    · by_cases hfirst : owner? (above ++ [first]) lines = some name <;> simp [howner, hline, hfirst]

/-- A further command goes to the name of the last target line, and a further declaration takes all
commands from its name. -/
theorem commandTexts_ownedLines_concat (name : String) (lines : List String) (line : String) :
    commandTexts (ownedLines name [] (lines ++ [line])) =
      (if declared? line = some name then [] else commandTexts (ownedLines name [] lines)) ++
        if (declaredNames lines).getLast? = some name then commandTexts [line] else [] := by
  rw [ownedLines_concat, commandTexts_append, List.nil_append]
  congr 1
  · split <;> rfl
  · cases hd : declared? line with
    | some other => split <;> simp [commandTexts_of_declared hd]
    | none =>
      rw [declaredNames_concat_of_none lines hd]
      split <;> rfl

end

namespace DeclaresLast
variable {lines after : List String} {name line : String}

theorem concat_self (lines : List String) (h : declared? line = some name) :
    DeclaresLast (lines ++ [line]) name line [] where
  place := ⟨lines, rfl⟩
  declares := h
  last := List.not_mem_nil

theorem concat (h : DeclaresLast lines name line after) {next : String}
    (hn : declared? next ≠ some name) :
    DeclaresLast (lines ++ [next]) name line (after ++ [next]) where
  place := by
    obtain ⟨before, rfl⟩ := h.place
    exact ⟨before, by simp⟩
  declares := h.declares
  last := by
    rw [declaredNames_append, List.mem_append, not_or]
    exact ⟨h.last, by simpa [declaredNames] using hn⟩

/-- The last target line of all is the last declaration of its name. -/
theorem getLast?_iff (h : DeclaresLast lines name line after) :
    (declaredNames lines).getLast? = some name ↔ declaredNames after = [] := by
  obtain ⟨before, rfl⟩ := h.place
  have hnames : declaredNames (before ++ line :: after) =
      (declaredNames before ++ [name]) ++ declaredNames after := by
    rw [← List.singleton_append, declaredNames_append, declaredNames_append,
      declaredNames_of_some h.declares, List.append_assoc]
  rw [hnames]
  constructor
  · intro hl
    rw [List.getLast?_append] at hl
    cases hafter : (declaredNames after).getLast? with
    | none => exact List.getLast?_eq_none_iff.mp hafter
    | some found =>
      have hfound : found = name := by simpa [hafter] using hl
      exact absurd (List.mem_of_getLast? (hfound ▸ hafter)) h.last
  · intro hnil
    rw [hnil, List.append_nil, List.getLast?_concat]

end DeclaresLast
end BuildRunner.RuleFile
