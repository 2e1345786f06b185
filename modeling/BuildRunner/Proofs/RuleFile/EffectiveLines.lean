import BuildRunner.Proofs.RuleFile.LineForms
import BuildRunner.RuleFile.Parse

/-! The lines that a rule file has an effect by: all but blank lines and comments, each without the
blanks at its end. Nothing else of a text decides what is read from it. The numbers of the lines
are seen in errors and warnings only. -/
namespace BuildRunner
open Text

/-- The same error, with a line that stands elsewhere. -/
def BuildError.renumber (place : Nat → Nat) : BuildError → BuildError
  | .format line issue => .format (place line) issue
  | .duplicateTarget name line => .duplicateTarget name (place line)
  | other => other

def Event.renumber (place : Nat → Nat) : Event → Event
  | .overridingRecipe name line => .overridingRecipe name (place line)
  | other => other

private theorem BuildError.renumber_id (error : BuildError) : error.renumber id = error := by
  cases error <;> rfl

private theorem Event.renumber_id (event : Event) : event.renumber id = event := by
  cases event <;> rfl

namespace Logged
variable {α β : Type}

/-- The same outcome of the same lines at other places. A value does not know of lines. -/
def renumber (place : Nat → Nat) (x : Logged α) : Logged α :=
  ⟨x.log.map (Event.renumber place), x.result.mapError (BuildError.renumber place)⟩

private theorem renumber_andThen (place : Nat → Nat) (x : Logged α) (next : α → Logged β) :
    (x.andThen next).renumber place =
      (x.renumber place).andThen fun value => (next value).renumber place := by
  obtain ⟨log, result⟩ := x
  cases result with
  | error error => rfl
  | ok value => simp [andThen, renumber, Except.mapError]

theorem renumber_id (x : Logged α) : x.renumber id = x := by
  obtain ⟨log, result⟩ := x
  have hlog : log.map (Event.renumber id) = log := by
    rw [funext Event.renumber_id, List.map_id'']
    exact fun _ => rfl
  cases result with
  | error error => rw [renumber, hlog, Except.mapError, BuildError.renumber_id]
  | ok value => rw [renumber, hlog, Except.mapError]

end Logged

namespace RuleFile

/-- Whether a line has no effect in any place. -/
def Line.isIdle : Line → Bool
  | .blank | .comment => true
  | .invalid | .target .. | .command _ => false

/-- The lines that have an effect, with their numbers; the first of all lines has the given one. -/
def effectiveLines : Nat → List (List Char) → List (Nat × List Char)
  | _, [] => []
  | number, line :: rest =>
    if (Line.classify (String.ofList line)).isIdle then effectiveLines (number + 1) rest
    else (number, trimEnd line) :: effectiveLines (number + 1) rest

theorem effectiveLines_append (number : Nat) (first second : List (List Char)) :
    effectiveLines number (first ++ second) =
      effectiveLines number first ++ effectiveLines (number + first.length) second := by
  induction first generalizing number with
  | nil => rfl
  | cons line first ih =>
    have hnumber : number + 1 + first.length = number + (first.length + 1) := by omega
    rw [List.cons_append, effectiveLines, effectiveLines, ih, hnumber, List.length_cons]
    split <;> rfl

theorem effectiveLines_append_blanks {blanks : List Char} (h : ∀ c ∈ blanks, isBlank c = true)
    (number : Nat) (line : List Char) (rest : List (List Char)) :
    effectiveLines number ((line ++ blanks) :: rest) = effectiveLines number (line :: rest) := by
  rw [effectiveLines, effectiveLines, Line.classify_append_blanks h, trimEnd_append_blanks h]

theorem effectiveLines_idle {line : List Char} (number : Nat)
    (h : (Line.classify (String.ofList line)).isIdle = true) (rest : List (List Char)) :
    effectiveLines number (line :: rest) = effectiveLines (number + 1) rest := by
  rw [effectiveLines, if_pos h]

/-- Lines that keep their distances when they move keep what they have an effect by. -/
theorem effectiveLines_move {place : Nat → Nat} {number moved : Nat} {lines : List (List Char)}
    (h : ∀ i < lines.length, place (number + i) = moved + i) :
    effectiveLines moved lines = (effectiveLines number lines).map (Prod.map place id) := by
  induction lines generalizing number moved with
  | nil => rfl
  | cons line rest ih =>
    have hhere : place number = moved := h 0 (by simp)
    have hrest := @ih (number + 1) (moved + 1) fun i hi => by
      have hnext := h (i + 1) (by simpa using hi)
      rwa [Nat.add_right_comm, Nat.add_right_comm moved]
    rw [effectiveLines, effectiveLines, hrest]
    split
    · rfl
    · rw [List.map_cons, Prod.map_apply, hhere, id]

namespace Draft
variable {policy : DuplicatePolicy}

def acceptEffective (policy : DuplicatePolicy) : Draft → List (Nat × List Char) → Logged Draft
  | draft, [] => .ok draft
  | draft, (number, line) :: rest =>
    (draft.accept policy number (Line.classify (String.ofList line))).andThen fun next =>
      acceptEffective policy next rest

private theorem accept_idle {line : Line} (h : line.isIdle = true) (number : Nat) (draft : Draft) :
    draft.accept policy number line = .ok draft := by
  cases line <;> first | rfl | cases h

/-- The other lines are passed over with the draft as it is. -/
theorem acceptAll_eq_acceptEffective (number : Nat) (draft : Draft) (lines : List (List Char)) :
    acceptAll policy number draft (lines.map String.ofList) =
      acceptEffective policy draft (effectiveLines number lines) := by
  induction lines generalizing number draft with
  | nil => rfl
  | cons line rest ih =>
    rw [List.map_cons, acceptAll, effectiveLines]
    simp only [ih]
    split
    · rename_i hidle
      rw [accept_idle hidle, Logged.ok_andThen]
    · rw [acceptEffective, Line.classify_trimEnd]

private theorem accept_renumber (place : Nat → Nat) (number : Nat) (draft : Draft) (line : Line) :
    draft.accept policy (place number) line = (draft.accept policy number line).renumber place := by
  cases line with
  | blank => rfl
  | comment => rfl
  | invalid => rfl
  | target name dependencies =>
    simp only [accept, declare]
    split
    · cases policy <;> rfl
    · rfl
  | command text =>
    simp only [accept, addCommand]
    split
    · rfl
    · split <;> rfl

private theorem acceptEffective_renumber (place : Nat → Nat) (draft : Draft)
    (lines : List (Nat × List Char)) :
    acceptEffective policy draft (lines.map (Prod.map place id)) =
      (acceptEffective policy draft lines).renumber place := by
  induction lines generalizing draft with
  | nil => rfl
  | cons line rest ih =>
    obtain ⟨number, text⟩ := line
    rw [List.map_cons, Prod.map_apply, acceptEffective, acceptEffective, Logged.renumber_andThen,
      accept_renumber]
    simp only [ih, id]

end Draft

/-- Texts whose lines have the same effect, at places of their own, are read in the same way. -/
theorem parseText_renumber {policy : DuplicatePolicy} {old new : String} {place : Nat → Nat}
    (h : effectiveLines 1 (lines new.toList) =
      (effectiveLines 1 (lines old.toList)).map (Prod.map place id)) :
    parseText policy new = (parseText policy old).renumber place := by
  rw [parseText, parseText, parse, parse, Delivery.ofText, Delivery.ofText,
    Draft.acceptAll_eq_acceptEffective, Draft.acceptAll_eq_acceptEffective, h,
    Draft.acceptEffective_renumber, Logged.renumber_andThen]
  rfl

end RuleFile
end BuildRunner
