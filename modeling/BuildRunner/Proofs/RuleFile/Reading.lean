import BuildRunner.RuleFile.Source

/-! Reading a rule file as a sequence of steps from draft to draft. What every accepted line keeps
holds of the whole file, and every fault names the line or the file that it was found in. -/
namespace BuildRunner

/-- Whether an error names a line of a rule file, or a rule file that cannot be read. -/
def BuildError.isOfRuleFile : BuildError → Bool
  | .format .. | .duplicateTarget .. | .unreadable .. => true
  | _ => false

namespace RuleFile

namespace Draft
variable {policy : DuplicatePolicy} {draft next last : Draft} {number : Nat} {line : Line}

/-- An accepted line leads from one draft to the next. -/
inductive Takes (policy : DuplicatePolicy) : Draft → Line → Draft → Prop
  | blank (draft : Draft) : Takes policy draft .blank draft
  | comment (draft : Draft) : Takes policy draft .comment draft
  | target {draft : Draft} {name : String} {dependencies : List String}
      (unless_rejected : policy = .reject → draft.graph.contains name = false) :
      Takes policy draft (.target name dependencies)
        ⟨draft.graph.declare name dependencies, some name⟩
  | command {draft : Draft} {name text : String} (owner : draft.current = some name)
      (nonempty : isEmptyCommand text = false) :
      Takes policy draft (.command text) { draft with graph := draft.graph.addCommand name text }

theorem takes_of_accept (h : (draft.accept policy number line).result = .ok next) :
    Takes policy draft line next := by
  cases line with
  | blank =>
    cases h
    exact .blank draft
  | comment =>
    cases h
    exact .comment draft
  | invalid => cases h
  | target name dependencies =>
    simp only [accept, declare] at h
    split at h
    · cases policy with
      | reject => cases h
      | overwrite =>
        cases h
        exact .target nofun
    · rename_i hnew
      cases h
      exact .target fun _ => by simpa using hnew
  | command text =>
    simp only [accept, addCommand] at h
    split at h
    · cases h
    · rename_i name howner
      split at h
      · cases h
      · rename_i htext
        cases h
        exact .command howner (by simpa using htext)

/-- A new target is accepted under every policy, and without a warning. -/
theorem accept_new_target {name : String} (dependencies : List String)
    (h : draft.graph.contains name = false) :
    draft.accept policy number (.target name dependencies) =
      .ok ⟨draft.graph.declare name dependencies, some name⟩ := by
  simp [accept, declare, h]

theorem accept_command {name text : String} (howner : draft.current = some name)
    (htext : isEmptyCommand text = false) :
    draft.accept policy number (.command text) =
      .ok { draft with graph := draft.graph.addCommand name text } := by
  simp [accept, addCommand, howner, htext]

theorem acceptAll_append (policy : DuplicatePolicy) (number : Nat) (draft : Draft)
    (first second : List String) :
    acceptAll policy number draft (first ++ second) =
      (acceptAll policy number draft first).andThen fun next =>
        acceptAll policy (number + first.length) next second := by
  induction first generalizing number draft with
  | nil => simp [acceptAll]
  | cons line first ih =>
    simp only [List.cons_append, acceptAll, Logged.andThen_assoc]
    congr 1
    funext next
    rw [ih, List.length_cons, Nat.add_assoc, Nat.add_comm 1]

theorem acceptAll_cons_ok {text : String} {rest : List String}
    (h : (acceptAll policy number draft (text :: rest)).result = .ok last) :
    ∃ next, Takes policy draft (.classify text) next ∧
      (acceptAll policy (number + 1) next rest).result = .ok last := by
  rw [acceptAll, Logged.result_andThen_eq_ok] at h
  obtain ⟨next, ha, hr⟩ := h
  exact ⟨next, takes_of_accept ha, hr⟩

/-- What each accepted line keeps, with the lines before it, holds at the end with all lines. -/
theorem acceptAll_induction {p : List String → Draft → Prop} {lines done : List String}
    (keep : ∀ done line draft next, line ∈ lines → p done draft →
      Takes policy draft (.classify line) next → p (done ++ [line]) next)
    (start : p done draft) (h : (acceptAll policy number draft lines).result = .ok last) :
    p (done ++ lines) last := by
  induction lines generalizing number draft done with
  | nil =>
    cases h
    simpa using start
  | cons line rest ih =>
    obtain ⟨next, ht, hr⟩ := acceptAll_cons_ok h
    have hnext := keep done line draft next List.mem_cons_self start ht
    have hlast := ih (fun done line draft next hl => keep done line draft next
      (List.mem_cons_of_mem _ hl)) hnext hr
    simpa using hlast

private theorem accept_fault {error : BuildError}
    (h : (draft.accept policy number line).result = .error error) : error.isOfRuleFile = true := by
  cases line with
  | blank => cases h
  | comment => cases h
  | invalid =>
    cases h
    rfl
  | target name dependencies =>
    simp only [accept, declare] at h
    split at h
    · cases policy <;> cases h
      rfl
    · cases h
  | command text =>
    simp only [accept, addCommand] at h
    split at h
    · cases h
      rfl
    · split at h <;> cases h
      rfl

private theorem acceptAll_fault {lines : List String} {error : BuildError}
    (h : (acceptAll policy number draft lines).result = .error error) :
    error.isOfRuleFile = true := by
  induction lines generalizing number draft with
  | nil => cases h
  | cons line rest ih =>
    rw [acceptAll, Logged.result_andThen_eq_error] at h
    obtain hfault | ⟨next, -, hrest⟩ := h
    · exact accept_fault hfault
    · exact ih hrest

end Draft

theorem parseText_ok {policy : DuplicatePolicy} {text : String} {g : Graph}
    (h : (parseText policy text).result = .ok g) :
    ∃ draft : Draft, draft.graph = g ∧
      (Draft.acceptAll policy 1 .empty (Delivery.ofText text).lines).result = .ok draft := by
  rw [parseText, parse, Logged.result_andThen_eq_ok] at h
  obtain ⟨draft, hd, hg⟩ := h
  cases hg
  exact ⟨draft, rfl, hd⟩

/-- What each accepted line keeps, with the lines before it, holds of the graph of a text. -/
theorem parseText_induction {policy : DuplicatePolicy} {text : String} {g : Graph}
    {p : List String → Draft → Prop}
    (keep : ∀ done line draft next, line ∈ (Delivery.ofText text).lines → p done draft →
      Draft.Takes policy draft (.classify line) next → p (done ++ [line]) next)
    (start : p [] .empty) (h : (parseText policy text).result = .ok g) :
    ∃ draft : Draft, draft.graph = g ∧ p (Delivery.ofText text).lines draft := by
  obtain ⟨draft, hg, hd⟩ := parseText_ok h
  exact ⟨draft, hg, Draft.acceptAll_induction keep start hd⟩

private theorem parse_fault {policy : DuplicatePolicy} {delivery : Delivery} {error : BuildError}
    (h : (parse policy delivery).result = .error error) :
    error.isOfRuleFile = true ∨ ∃ cause, error = .io cause := by
  rw [parse, Logged.result_andThen_eq_error] at h
  obtain hfault | ⟨draft, -, hend⟩ := h
  · exact .inl (Draft.acceptAll_fault hfault)
  · split at hend
    · rename_i cause _
      cases hend
      exact .inr ⟨cause, rfl⟩
    · cases hend

private theorem isOfRuleFile_locate {error : BuildError} (path : String)
    (h : error.isOfRuleFile = true ∨ ∃ cause, error = .io cause) :
    (locate path error).isOfRuleFile = true := by
  obtain hfile | ⟨cause, rfl⟩ := h
  · cases error with
    | io cause => rfl
    | _ => exact hfile
  · rfl

section
variable {policy : DuplicatePolicy} {path : String} {opened : Except IoError Delivery}
variable {delivery : Delivery} {error : BuildError} {g : Graph}

theorem load_unopened (policy : DuplicatePolicy) (path : String) (cause : IoError) :
    load policy path (.error cause) = ⟨[], .error (.unreadable path cause)⟩ := rfl

theorem load_of_fault (path : String) (h : (parse policy delivery).result = .error error) :
    load policy path (.ok delivery) =
      ⟨.readingRuleFile path :: (parse policy delivery).log, .error (locate path error)⟩ := by
  have hopened : (parseOpened policy path (.ok delivery)).result = .error (locate path error) :=
    Logged.result_mapError_eq_error.mpr ⟨error, h, rfl⟩
  exact Logged.andThen_of_error hopened _

theorem load_of_parsed (path : String) (h : (parse policy delivery).result = .ok g) :
    load policy path (.ok delivery) =
      ⟨.readingRuleFile path :: (parse policy delivery).log ++
        [.loadedRuleFile path g.size policy], .ok g⟩ := by
  have hopened : (parseOpened policy path (.ok delivery)).result = .ok g := by
    simp only [parseOpened, Logged.after, Logged.mapError, h]
    rfl
  exact Logged.andThen_of_ok hopened _

/-- A rule file gives a graph exactly if it can be opened and what it delivers is parsed to it. -/
theorem load_eq_ok_iff :
    (load policy path opened).result = .ok g ↔
      ∃ delivery, opened = .ok delivery ∧ (parse policy delivery).result = .ok g := by
  cases opened with
  | error cause => simp [load_unopened]
  | ok delivery =>
    cases hp : (parse policy delivery).result with
    | error error => simp [load_of_fault path hp, hp]
    | ok parsed => simp [load_of_parsed path hp, hp]

/-- The faults of a stream are told as faults of the file. -/
theorem load_fault (h : (load policy path opened).result = .error error) :
    error.isOfRuleFile = true := by
  cases opened with
  | error cause =>
    cases h
    rfl
  | ok delivery =>
    cases hp : (parse policy delivery).result with
    | error cause =>
      rw [load_of_fault path hp] at h
      cases h
      exact isOfRuleFile_locate path (parse_fault hp)
    | ok parsed =>
      rw [load_of_parsed path hp] at h
      cases h

end

end RuleFile
end BuildRunner
