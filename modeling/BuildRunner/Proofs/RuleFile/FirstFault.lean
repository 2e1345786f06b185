import BuildRunner.Proofs.RuleFile.Meaning
import BuildRunner.Proofs.Text.LineEnds
import Mathlib.Data.List.Induction

/-! Where the reading of a rule file ends. Whether a line is at fault is told by its form and by the
lines above it. The first line at fault gives the error, with its number, and nothing below that
line has a part in it. -/
namespace BuildRunner.RuleFile
open Text

/-- A line is at fault below the lines above it, which also give it its number. -/
inductive LineFault (policy : DuplicatePolicy) (above : List String) (line : String) :
    BuildError → Prop
  | unrecognized (form : Line.classify line = .invalid) :
      LineFault policy above line (.format (above.length + 1) .unrecognized)
  /-- No target line stands above a command. The command may be empty, too. -/
  | globalCommand {text : String} (form : Line.classify line = .command text)
      (unowned : declaredNames above = []) :
      LineFault policy above line (.format (above.length + 1) .globalCommand)
  /-- Nothing is left of a command when a marker in front is taken away. -/
  | emptyCommand {text : String} (form : Line.classify line = .command text)
      (owned : declaredNames above ≠ []) (empty : text = "" ∨ text = "@") :
      LineFault policy above line (.format (above.length + 1) .emptyCommand)
  | redeclared {name : String} {dependencies : List String}
      (form : Line.classify line = .target name dependencies)
      (known : name ∈ declaredNames above) (strict : policy = .reject) :
      LineFault policy above line (.duplicateTarget name (above.length + 1))

/-- The line with the number is at fault. All lines count, from 1. -/
def FaultAt (policy : DuplicatePolicy) (lines : List String) (number : Nat) (error : BuildError) :
    Prop :=
  ∃ above line below, lines = above ++ line :: below ∧ number = above.length + 1 ∧
    LineFault policy above line error

/-- The line with the number is at fault, and none before it. -/
structure FirstFault (policy : DuplicatePolicy) (lines : List String) (number : Nat)
    (error : BuildError) : Prop where
  fault : FaultAt policy lines number error
  first : ∀ earlier < number, ∀ other, ¬ FaultAt policy lines earlier other

section
variable {policy : DuplicatePolicy} {lines above : List String} {line : String}
variable {number other : Nat} {error error' : BuildError}

private theorem LineFault.unique (h : LineFault policy above line error)
    (h' : LineFault policy above line error') : error = error' := by
  cases h <;> cases h' <;> simp_all

private theorem FaultAt.unique (h : FaultAt policy lines number error)
    (h' : FaultAt policy lines number error') : error = error' := by
  obtain ⟨above, line, below, rfl, rfl, hfault⟩ := h
  obtain ⟨above', line', below', hlines, hnumber, hfault'⟩ := h'
  obtain ⟨rfl, hrest⟩ := List.append_inj hlines (by omega)
  obtain ⟨rfl, -⟩ := List.cons.inj hrest
  exact hfault.unique hfault'

private theorem FaultAt.le_length (h : FaultAt policy lines number error) :
    number ≤ lines.length := by
  obtain ⟨above, line, below, rfl, rfl, -⟩ := h
  rw [List.length_append, List.length_cons]
  omega

/-- A line below others is at fault with all of these above it. -/
theorem faultAt_append_iff {later : List String} :
    FaultAt policy (lines ++ later) number error ↔
      FaultAt policy lines number error ∨
        ∃ above line below, later = above ++ line :: below ∧
          number = lines.length + (above.length + 1) ∧
          LineFault policy (lines ++ above) line error := by
  constructor
  · rintro ⟨above, line, below, hlines, rfl, hfault⟩
    have hlater : ∀ more, above = lines ++ more → later = more ++ line :: below →
        ∃ above' line' below', later = above' ++ line' :: below' ∧
          above.length + 1 = lines.length + (above'.length + 1) ∧
          LineFault policy (lines ++ above') line' error := by
      rintro more rfl hmore
      exact ⟨more, line, below, hmore, by rw [List.length_append, Nat.add_assoc], hfault⟩
    obtain ⟨more, habove, hmore⟩ | ⟨more, habove, hmore⟩ := List.append_eq_append_iff.mp hlines
    · exact .inr (hlater more habove hmore)
    · obtain ⟨rfl, hmore⟩ | ⟨rest, rfl, -⟩ := List.cons_eq_append_iff.mp hmore
      · rw [List.append_nil] at habove
        exact .inr (hlater [] (by simp [habove]) hmore.symm)
      · exact .inl ⟨above, line, rest, habove, rfl, hfault⟩
  · rintro (⟨above, line, below, rfl, rfl, hfault⟩ | ⟨above, line, below, rfl, rfl, hfault⟩)
    · exact ⟨above, line, below ++ later, by simp, rfl, hfault⟩
    · exact ⟨lines ++ above, line, below, by simp, by simp [Nat.add_assoc], hfault⟩

/-- One more line at the end adds its own fault and changes none. -/
theorem faultAt_concat :
    FaultAt policy (lines ++ [line]) number error ↔
      FaultAt policy lines number error ∨
        (number = lines.length + 1 ∧ LineFault policy lines line error) := by
  rw [faultAt_append_iff]
  refine or_congr Iff.rfl ⟨?_, ?_⟩
  · rintro ⟨above, found, below, hline, rfl, hfault⟩
    obtain ⟨rfl, hrest⟩ | ⟨-, ⟨⟩⟩ := List.singleton_eq_append_iff.mp hline
    obtain ⟨rfl, -⟩ := List.cons.inj hrest
    rw [List.append_nil] at hfault
    exact ⟨rfl, hfault⟩
  · rintro ⟨rfl, hfault⟩
    exact ⟨[], line, [], rfl, rfl, by rwa [List.append_nil]⟩

private theorem FirstFault.concat (h : FirstFault policy lines number error) (line : String) :
    FirstFault policy (lines ++ [line]) number error where
  fault := faultAt_concat.mpr (.inl h.fault)
  first earlier hlt other hfault := by
    have hle := h.fault.le_length
    rcases faultAt_concat.mp hfault with hold | ⟨hlast, -⟩
    · exact h.first earlier hlt other hold
    · omega

private theorem FirstFault.unique (h : FirstFault policy lines number error)
    (h' : FirstFault policy lines other error') : error = error' := by
  have hnumber : number = other := by
    have hge : ¬ number < other := fun hlt => h'.first number hlt error h.fault
    have hle : ¬ other < number := fun hlt => h.first other hlt error' h'.fault
    omega
  exact h.fault.unique (hnumber ▸ h'.fault)

end

namespace Reads
variable {policy : DuplicatePolicy} {above : List String} {draft : Draft} {line : String}
variable {error : BuildError}

theorem contains_iff (h : Reads above draft) (name : String) :
    draft.graph.contains name = true ↔ name ∈ declaredNames above := by
  rw [Graph.contains_iff, h.describes.targets, List.mem_eraseDups]

private theorem current_eq_none_iff (h : Reads above draft) :
    draft.current = none ↔ declaredNames above = [] := by
  rw [h.current, List.getLast?_eq_none_iff]

/-- A draft of the lines above a line refuses it exactly for the fault of that line. -/
theorem accept_error_iff (h : Reads above draft) :
    (draft.accept policy (above.length + 1) (.classify line)).result = .error error ↔
      LineFault policy above line error := by
  constructor
  · intro hr
    generalize hl : Line.classify line = form at hr
    cases form with
    | blank => cases hr
    | comment => cases hr
    | invalid =>
      cases hr
      exact .unrecognized hl
    | target name dependencies =>
      simp only [Draft.accept, Draft.declare] at hr
      split at hr
      · rename_i hknown
        cases policy <;> cases hr
        exact .redeclared hl ((h.contains_iff name).mp hknown) rfl
      · cases hr
    | command text =>
      obtain ⟨-, -, -, htext⟩ := Line.classify_eq_command_iff.mp hl
      have htrimmed : trim text.toList = text.toList := by rw [htext, String.toList_ofList, trim_trim]
      simp only [Draft.accept, Draft.addCommand] at hr
      split at hr
      · rename_i howner
        cases hr
        exact .globalCommand hl (h.current_eq_none_iff.mp howner)
      · rename_i name howner
        have howned : declaredNames above ≠ [] := fun hnil => by
          rw [h.current_eq_none_iff.mpr hnil] at howner
          cases howner
        split at hr
        · rename_i hempty
          cases hr
          exact .emptyCommand hl howned ((isEmptyCommand_iff htrimmed).mp hempty)
        · cases hr
  · intro hfault
    cases hfault with
    | unrecognized hl =>
      rw [hl]
      rfl
    | globalCommand hl hnil =>
      rw [hl, Draft.accept, Draft.addCommand, h.current_eq_none_iff.mpr hnil]
      rfl
    | @emptyCommand text hl howned hempty =>
      obtain ⟨name, howner⟩ := Option.ne_none_iff_exists'.mp (mt h.current_eq_none_iff.mp howned)
      have htext : isEmptyCommand text = true := by rcases hempty with rfl | rfl <;> rfl
      rw [hl, Draft.accept, Draft.addCommand, howner]
      simp [htext, Logged.fail]
    | @redeclared name dependencies hl hknown hstrict =>
      simp [hl, Draft.accept, Draft.declare, hstrict, (h.contains_iff name).mpr hknown, Logged.fail]

end Reads

section
variable {policy : DuplicatePolicy}

/-- The lines from the top are accepted if none is at fault; otherwise the first fault is the error. -/
theorem acceptAll_cases (policy : DuplicatePolicy) (lines : List String) :
    (∃ draft, (Draft.acceptAll policy 1 .empty lines).result = .ok draft ∧ Reads lines draft ∧
        ∀ number error, ¬ FaultAt policy lines number error) ∨
      ∃ number error, (Draft.acceptAll policy 1 .empty lines).result = .error error ∧
        FirstFault policy lines number error := by
  induction lines using List.reverseRecOn with
  | nil =>
    refine .inl ⟨.empty, rfl, .empty, fun number error hfault => ?_⟩
    obtain ⟨above, line, below, hlines, -⟩ := hfault
    simp at hlines
  | append_singleton lines line ih =>
    obtain ⟨draft, hok, hreads, hnone⟩ | ⟨number, error, herror, hfirst⟩ := ih
    · -- the draft of the lines above decides about the last line
      have hlast : (Draft.acceptAll policy 1 .empty (lines ++ [line])).result =
          (draft.accept policy (lines.length + 1) (.classify line)).result := by
        rw [Draft.acceptAll_append, Nat.add_comm 1]
        cases ha : (draft.accept policy (lines.length + 1) (.classify line)).result <;>
          simp [Logged.andThen, Draft.acceptAll, Logged.ok, hok, ha]
      rw [hlast]
      cases ha : (draft.accept policy (lines.length + 1) (.classify line)).result with
      | ok next =>
        refine .inl ⟨next, rfl, hreads.takes (Draft.takes_of_accept ha), fun number error hfault => ?_⟩
        rcases faultAt_concat.mp hfault with hold | ⟨-, hnew⟩
        · exact hnone number error hold
        · rw [hreads.accept_error_iff.mpr hnew] at ha
          cases ha
      | error error =>
        have hfault := hreads.accept_error_iff.mp ha
        refine .inr ⟨lines.length + 1, error, rfl, faultAt_concat.mpr (.inr ⟨rfl, hfault⟩), ?_⟩
        intro earlier hlt other hother
        rcases faultAt_concat.mp hother with hold | ⟨heq, -⟩
        · exact hnone earlier other hold
        · omega
    · refine .inr ⟨number, error, ?_, hfirst.concat line⟩
      rw [Draft.acceptAll_append, Logged.andThen_of_error herror]

theorem acceptAll_error_iff {lines : List String} {error : BuildError} :
    (Draft.acceptAll policy 1 .empty lines).result = .error error ↔
      ∃ number, FirstFault policy lines number error := by
  obtain ⟨draft, hok, -, hnone⟩ | ⟨number, found, herror, hfirst⟩ := acceptAll_cases policy lines
  · rw [hok]
    exact ⟨nofun, fun ⟨number, hfirst⟩ => absurd hfirst.fault (hnone number error)⟩
  · rw [herror]
    constructor
    · intro he
      cases he
      exact ⟨number, hfirst⟩
    · rintro ⟨other, hother⟩
      rw [hfirst.unique hother]

/-- A text has no other errors than those of its lines. -/
theorem parseText_error_iff {text : String} {error : BuildError} :
    (parseText policy text).result = .error error ↔
      (Draft.acceptAll policy 1 .empty (Delivery.ofText text).lines).result = .error error := by
  have hfault : (Delivery.ofText text).fault = none := rfl
  rw [parseText, parse, Logged.result_andThen_eq_error, hfault]
  simp

theorem lines_ofText_append {text : String} (h : Finished text.toList) (rest : String) :
    (Delivery.ofText (text ++ rest)).lines =
      (Delivery.ofText text).lines ++ (Delivery.ofText rest).lines := by
  simp [Delivery.ofText, String.toList_append, lines_append h]

private theorem parseText_append_of_error {text : String} {error : BuildError}
    (h : Finished text.toList) (he : (parseText policy text).result = .error error)
    (rest : String) : parseText policy (text ++ rest) = parseText policy text := by
  have hlines := parseText_error_iff.mp he
  have hrest : (Draft.acceptAll policy 1 .empty (Delivery.ofText (text ++ rest)).lines) =
      Draft.acceptAll policy 1 .empty (Delivery.ofText text).lines := by
    rw [lines_ofText_append h, Draft.acceptAll_append, Logged.andThen_of_error hlines, ← hlines]
  rw [parseText, parseText, parse, parse, hrest, Logged.andThen_of_error hlines,
    Logged.andThen_of_error hlines]

/-- A text is refused exactly if a line is at fault, and for the fault with the least number. A text
of finished lines that is refused stays refused in the same way, with the same warnings before the
error, whatever text follows it. -/
theorem refused_for_first_faulty_line (policy : DuplicatePolicy) (text : String) :
    let lines := (Delivery.ofText text).lines
    ((∃ error, (parseText policy text).result = .error error) ↔
      ∃ number error, FaultAt policy lines number error) ∧
    (∀ error, (parseText policy text).result = .error error ↔
      ∃ number, FirstFault policy lines number error) ∧
    (Finished text.toList → ∀ error, (parseText policy text).result = .error error →
      ∀ rest, parseText policy (text ++ rest) = parseText policy text) := by
  intro lines
  refine ⟨?_, fun _ => parseText_error_iff.trans acceptAll_error_iff,
    fun h error he => parseText_append_of_error h he⟩
  simp only [parseText_error_iff]
  obtain ⟨draft, hok, -, hnone⟩ | ⟨number, error, herror, hfirst⟩ := acceptAll_cases policy lines
  · rw [hok]
    exact ⟨nofun, fun ⟨number, error, hfault⟩ => absurd hfault (hnone number error)⟩
  · exact ⟨fun _ => ⟨number, error, hfirst.fault⟩, fun _ => ⟨error, herror⟩⟩

end

/-- Of two faults the first one counts, and a comment has a number like any line. -/
example : (parseText .reject "a:\n# rule\r\n\t@\na:\n").result = .error (.format 3 .emptyCommand) := by
  rfl

end BuildRunner.RuleFile
