import BuildRunner.Graph.Validation
import BuildRunner.Proofs.Graph.CycleDetection

/-! What the checks of a whole graph report. A cycle outweighs a missing dependency, and a graph
that passes both has neither. -/
namespace BuildRunner.Graph
variable {g : Graph}

/-- Every name in a dependency list is a target. -/
def Closed (g : Graph) : Prop := ∀ name, ∀ d ∈ g.dependencies name, d ∈ g.targets

theorem mem_missingDependencies {name : String} :
    name ∈ g.missingDependencies ↔
      name ∉ g.targets ∧ ∃ dependent, name ∈ g.dependencies dependent := by
  have hcontains : (!g.contains name) = true ↔ name ∉ g.targets := by
    rw [Bool.not_eq_true', ← Bool.not_eq_true, contains_iff]
  rw [missingDependencies, List.mem_eraseDups, List.mem_filter, List.mem_flatMap, hcontains]
  constructor
  · rintro ⟨⟨dependent, -, hd⟩, hnew⟩
    exact ⟨hnew, dependent, hd⟩
  · rintro ⟨hnew, dependent, hd⟩
    exact ⟨⟨dependent, mem_targets_of_mem_dependencies hd, hd⟩, hnew⟩

theorem missingDependencies_eq_nil_iff : g.missingDependencies = [] ↔ g.Closed := by
  rw [List.eq_nil_iff_forall_not_mem]
  constructor
  · intro h name d hd
    by_contra hnew
    exact h d (mem_missingDependencies.mpr ⟨hnew, name, hd⟩)
  · intro h d hd
    obtain ⟨hnew, name, hd⟩ := mem_missingDependencies.mp hd
    exact hnew (h name d hd)

theorem validate_of_cyclic (h : ¬ g.Acyclic) :
    ∃ edge : Edge, edge.OnCycle g ∧
      g.validate = .fail (.cycleDetected edge.dependent edge.dependency) := by
  obtain ⟨-, ha⟩ | ⟨edge, hc, hedge⟩ := checkCycles_cases g
  · exact absurd ha h
  · exact ⟨edge, hedge, by rw [validate, hc]⟩

theorem validate_of_open (ha : g.Acyclic) (h : ¬ g.Closed) :
    g.validate = .fail (.missingDependency g.missingDependencies) := by
  have hne : g.missingDependencies ≠ [] := mt missingDependencies_eq_nil_iff.mp h
  rw [validate, checkCycles_eq_ok_iff.mpr ha]
  cases hm : g.missingDependencies with
  | nil => exact absurd hm hne
  | cons name names => rfl

theorem validate_of_closed (ha : g.Acyclic) (h : g.Closed) :
    g.validate = ⟨[.graphValidated g.size], .ok ()⟩ := by
  rw [validate, checkCycles_eq_ok_iff.mpr ha, missingDependencies_eq_nil_iff.mpr h]

theorem validate_eq_ok_iff : g.validate.result = .ok () ↔ g.Acyclic ∧ g.Closed := by
  by_cases ha : g.Acyclic
  · by_cases hc : g.Closed
    · simp [validate_of_closed ha hc, ha, hc]
    · simp [validate_of_open ha hc, Logged.fail, hc]
  · obtain ⟨edge, -, hv⟩ := validate_of_cyclic ha
    simp [hv, Logged.fail, ha]

end BuildRunner.Graph
