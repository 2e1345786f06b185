import BuildRunner.Proofs.RuleFile.Declarations
import BuildRunner.Proofs.RuleFile.Reading
import Mathlib.Data.List.TakeWhile

/-! How the two policies on targets that are declared again go together. They read a rule file alike
up to the first such target, where one warns and goes on and the other ends. So the strict reading
is told by the lenient one and its warnings, whatever the lenient one comes to. -/
namespace BuildRunner

/-- The name and the line of a warning about a target that is declared again. -/
def Event.override? : Event → Option (String × Nat)
  | .overridingRecipe name line => some (name, line)
  | _ => none

/-- The warnings of a log about targets that are declared again. -/
def overrides (log : List Event) : List (String × Nat) := log.filterMap Event.override?

@[simp] theorem overrides_append (first second : List Event) :
    overrides (first ++ second) = overrides first ++ overrides second :=
  List.filterMap_append

private theorem overrides_eq_nil_iff {log : List Event} :
    overrides log = [] ↔ ∀ event ∈ log, event.override? = none :=
  List.filterMap_eq_nil_iff

private theorem Event.isWarning_of_override? {event : Event} (h : event.override? = none) :
    event.isWarning = false := by
  cases event with
  | overridingRecipe name line => cases h
  | _ => rfl

namespace Logged
variable {α β : Type}

/-- What is left if the first such warning is an error instead. -/
def rejectOverrides (x : Logged α) : Logged α where
  log := x.log.takeWhile (·.override? = none)
  result :=
    match overrides x.log with
    | [] => x.result
    | (name, line) :: _ => .error (.duplicateTarget name line)

theorem rejectOverrides_of_nil {x : Logged α} (h : overrides x.log = []) : x.rejectOverrides = x := by
  have hlog : x.log.takeWhile (·.override? = none) = x.log :=
    List.takeWhile_eq_self_iff.mpr fun event he => decide_eq_true (overrides_eq_nil_iff.mp h event he)
  rw [rejectOverrides, hlog, h]

theorem rejectOverrides_of_cons {x : Logged α} {name : String} {line : Nat}
    {rest : List (String × Nat)} (h : overrides x.log = (name, line) :: rest) :
    x.rejectOverrides = ⟨x.log.takeWhile (·.override? = none), .error (.duplicateTarget name line)⟩ := by
  rw [rejectOverrides, h]

private theorem override?_of_mem_rejectOverrides {x : Logged α} {event : Event}
    (h : event ∈ x.rejectOverrides.log) : event.override? = none :=
  of_decide_eq_true (List.all_eq_true.mp List.all_takeWhile event h)

private theorem takeWhile_append_of_override {log : List Event} (h : overrides log ≠ [])
    (later : List Event) :
    (log ++ later).takeWhile (·.override? = none) = log.takeWhile (·.override? = none) := by
  rw [List.takeWhile_append, if_neg]
  intro hlength
  have hall := (List.takeWhile_prefix _).eq_of_length hlength
  refine h (overrides_eq_nil_iff.mpr fun event he => ?_)
  rw [← hall] at he
  exact of_decide_eq_true (List.all_eq_true.mp List.all_takeWhile event he)

/-- Of two steps, the second counts if the first gave no such warning. -/
theorem rejectOverrides_andThen (x : Logged α) (next : α → Logged β) :
    (x.andThen next).rejectOverrides =
      x.rejectOverrides.andThen fun value => (next value).rejectOverrides := by
  obtain ⟨log, result⟩ := x
  cases ho : overrides log with
  | nil =>
    have hall : ∀ event ∈ log, decide (event.override? = none) = true := fun event he =>
      decide_eq_true (overrides_eq_nil_iff.mp ho event he)
    rw [rejectOverrides_of_nil (x := ⟨log, result⟩) ho]
    cases result with
    | error error => exact rejectOverrides_of_nil ho
    | ok value => simp [andThen, rejectOverrides, ho, List.takeWhile_append_of_pos hall]
  | cons first rest =>
    -- the first such warning ends both sides, so nothing of the second step is left
    have hne : overrides log ≠ [] := by simp [ho]
    rw [rejectOverrides_of_cons (x := ⟨log, result⟩) ho]
    cases result with
    | error error => exact rejectOverrides_of_cons ho
    | ok value => simp [andThen, rejectOverrides, ho, takeWhile_append_of_override hne]

end Logged

namespace RuleFile

namespace Draft

private theorem accept_reject (number : Nat) (draft : Draft) (line : Line) :
    draft.accept .reject number line = (draft.accept .overwrite number line).rejectOverrides := by
  cases line with
  | target name dependencies =>
    simp only [accept, declare]
    split <;> rfl
  | command text =>
    simp only [accept, addCommand]
    split
    · rfl
    · split <;> rfl
  | _ => rfl

private theorem acceptAll_reject (number : Nat) (draft : Draft) (lines : List String) :
    acceptAll .reject number draft lines =
      (acceptAll .overwrite number draft lines).rejectOverrides := by
  induction lines generalizing number draft with
  | nil => rfl
  | cons line rest ih =>
    rw [acceptAll, acceptAll, Logged.rejectOverrides_andThen, accept_reject]
    simp only [ih]

end Draft

/-- The strict reading is the lenient one with the first warning as its error. -/
theorem parse_reject (delivery : Delivery) :
    parse .reject delivery = (parse .overwrite delivery).rejectOverrides := by
  rw [parse, parse, Logged.rejectOverrides_andThen, Draft.acceptAll_reject]
  congr 1
  funext draft
  split <;> rfl

private theorem size_eq_length_targets (g : Graph) : g.size = g.targets.length :=
  (List.length_map Prod.fst).symm

private theorem size_declare (g : Graph) (name : String) (dependencies : List String) :
    (g.declare name dependencies).size = if name ∈ g.targets then g.size else g.size + 1 := by
  rw [size_eq_length_targets, size_eq_length_targets, Graph.targets_declare]
  split
  · rfl
  · rw [List.length_append, List.length_singleton]

variable {policy : DuplicatePolicy}

private theorem count_accept {number : Nat} {draft next : Draft} {line : String}
    (h : (draft.accept policy number (.classify line)).result = .ok next) :
    (overrides (draft.accept policy number (.classify line)).log).length + next.graph.size =
      draft.graph.size + (declaredNames [line]).length := by
  generalize hl : Line.classify line = form at h ⊢
  cases form with
  | blank | comment =>
    cases h
    simp [declaredNames, declared?, hl, Draft.accept, Logged.ok, overrides]
  | invalid => cases h
  | target name dependencies =>
    rw [declaredNames_of_some (declared?_of_target hl)]
    simp only [Draft.accept, Draft.declare] at h ⊢
    split at h
    · rename_i hknown
      cases policy with
      | reject => cases h
      | overwrite =>
        cases h
        rw [if_pos hknown, size_declare, if_pos ((draft.graph.contains_iff name).mp hknown)]
        simp [overrides, Event.override?, Nat.add_comm]
    · rename_i hnew
      cases h
      rw [if_neg hnew, size_declare, if_neg (mt (draft.graph.contains_iff name).mpr hnew)]
      simp [overrides, Logged.ok]
  | command text =>
    rw [declaredNames_of_none (declared?_of_command hl)]
    simp only [Draft.accept, Draft.addCommand] at h ⊢
    split at h
    · cases h
    · split at h
      · cases h
      · rename_i howner htext
        cases h
        simp [howner, htext, overrides, Logged.ok, Graph.size, Graph.addCommand]

private theorem count_acceptAll {number : Nat} {draft last : Draft} {lines : List String}
    (h : (Draft.acceptAll policy number draft lines).result = .ok last) :
    (overrides (Draft.acceptAll policy number draft lines).log).length + last.graph.size =
      draft.graph.size + (declaredNames lines).length := by
  induction lines generalizing number draft with
  | nil =>
    cases h
    simp [Draft.acceptAll, Logged.ok, overrides, declaredNames]
  | cons line rest ih =>
    rw [Draft.acceptAll, Logged.result_andThen_eq_ok] at h
    obtain ⟨next, hnext, hlast⟩ := h
    have hline := count_accept hnext
    have hrest := ih hlast
    have hnames : declaredNames (line :: rest) = declaredNames [line] ++ declaredNames rest :=
      declaredNames_append [line] rest
    rw [Draft.acceptAll, Logged.andThen_of_ok hnext, overrides_append, hnames, List.length_append,
      List.length_append]
    omega

/-- Of the target lines of an accepted text, those that add no target are the ones warned about. -/
theorem count_parseText {text : String} {g : Graph} (h : (parseText policy text).result = .ok g) :
    (overrides (parseText policy text).log).length + g.size =
      (declaredNames (Delivery.ofText text).lines).length := by
  obtain ⟨draft, rfl, hdraft⟩ := parseText_ok h
  have hfault : (Delivery.ofText text).fault = none := rfl
  have hcount := count_acceptAll hdraft
  have hempty : Draft.empty.graph.size = 0 := rfl
  have hlast : overrides [.parsedRuleFile draft.graph.size] = [] := rfl
  rw [hempty, Nat.zero_add] at hcount
  rw [parseText, parse, Logged.andThen_of_ok hdraft, hfault, overrides_append, hlast, List.append_nil,
    hcount]

/-- Reading a text strictly gives what reading it leniently gives, if that comes without a warning
about a target that is declared again. Otherwise the first such warning is the error, also where the
lenient reading ends in an error below. A strict reading has no warnings, and a lenient one has one
for each target line beyond the number of targets. -/
theorem strict_reading_follows_from_lenient_one (text : String) :
    let lenient := parseText .overwrite text
    let strict := parseText .reject text
    (overrides lenient.log = [] → strict = lenient) ∧
    (∀ name number later, overrides lenient.log = (name, number) :: later →
      strict.result = .error (.duplicateTarget name number)) ∧
    (∀ event ∈ strict.log, event.isWarning = false) ∧
    ∀ g, lenient.result = .ok g →
      (overrides lenient.log).length + g.size =
        (declaredNames (Delivery.ofText text).lines).length := by
  intro lenient strict
  have hstrict : strict = lenient.rejectOverrides := parse_reject (.ofText text)
  refine ⟨fun h => ?_, fun name number later h => ?_, fun event he => ?_, fun g h => count_parseText h⟩
  · rw [hstrict, Logged.rejectOverrides_of_nil h]
  · rw [hstrict, Logged.rejectOverrides_of_cons h]
  · rw [hstrict] at he
    exact Event.isWarning_of_override? (Logged.override?_of_mem_rejectOverrides he)

/-- The warning counts although the lenient reading ends in an error of its own. -/
example : (parseText .overwrite "a:\na: b\nb\n").result = .error (.format 3 .unrecognized) ∧
    (parseText .reject "a:\na: b\nb\n").result = .error (.duplicateTarget "a" 2) :=
  ⟨rfl, rfl⟩

end RuleFile
end BuildRunner
