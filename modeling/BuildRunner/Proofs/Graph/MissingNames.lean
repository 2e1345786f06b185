import BuildRunner.Proofs.FirstOccurrence
import BuildRunner.Proofs.Graph.Validation

/-! The names that a graph lists as dependencies but does not declare, in the order in which they
are listed, and the verdict on a graph, which reports them when there is no cycle. -/
namespace BuildRunner.Graph
variable {g : Graph}

/-- All dependency lists joined, in the order of the map. -/
def listed (g : Graph) : List String := g.adjacency.toList.flatMap Prod.snd

private theorem dependencies_of_mem_toList {name : String} {list : List String}
    (h : (name, list) ∈ g.adjacency.toList) : g.dependencies name = list := by
  have hget : g.dependencies? name = some list := g.adjacency.get?_of_mem h
  rw [dependencies, hget, Option.getD_some]

private theorem listed_eq_flatMap_dependencies (g : Graph) :
    g.listed = g.targets.flatMap g.dependencies := by
  have hkeys : g.targets = g.adjacency.toList.map Prod.fst := rfl
  rw [hkeys, List.flatMap_map]
  exact List.flatMap_congr fun entry h => (dependencies_of_mem_toList h).symm

private theorem missingDependencies_eq_filter (g : Graph) :
    g.missingDependencies = g.listed.eraseDups.filter (!g.contains ·) := by
  rw [missingDependencies, ← listed_eq_flatMap_dependencies, eraseDups_filter]

/-- Missing names stand in the order of the places where they are first listed. -/
theorem pairwise_missingDependencies (g : Graph) :
    g.missingDependencies.Pairwise fun a b => g.listed.idxOf a < g.listed.idxOf b := by
  rw [missingDependencies_eq_filter]
  exact (pairwise_idxOf_eraseDups g.listed).filter _

private theorem validate_eq_missing_iff {names : List String} :
    g.validate.result = .error (.missingDependency names) ↔
      g.Acyclic ∧ g.missingDependencies ≠ [] ∧ names = g.missingDependencies := by
  by_cases ha : g.Acyclic
  · by_cases hc : g.Closed
    · simp [validate_of_closed ha hc, missingDependencies_eq_nil_iff.mpr hc]
    · have hne : g.missingDependencies ≠ [] := mt missingDependencies_eq_nil_iff.mp hc
      simp [validate_of_open ha hc, Logged.fail, ha, hne, eq_comm]
  · obtain ⟨edge, -, hv⟩ := validate_of_cyclic ha
    simp [hv, Logged.fail, ha]

private theorem validate_eq_cycle_iff :
    (∃ a b, g.validate.result = .error (.cycleDetected a b)) ↔ ¬ g.Acyclic := by
  constructor
  · rintro ⟨a, b, h⟩ ha
    by_cases hc : g.Closed
    · rw [validate_of_closed ha hc] at h
      cases h
    · rw [validate_of_open ha hc] at h
      cases h
  · intro h
    obtain ⟨edge, -, hv⟩ := validate_of_cyclic h
    exact ⟨edge.dependent, edge.dependency, by rw [hv]; rfl⟩

/-- The missing names are those that a target lists and that are no targets, each once, in the order
of their first places in the lists. A graph is valid if it has no cycle and misses no name; without
a cycle exactly the missing names are reported, and with one a cycle is, whatever is missing. -/
theorem validation_is_exact (g : Graph) :
    (∀ name, name ∈ g.missingDependencies ↔
        (∃ target ∈ g.targets, name ∈ g.dependencies target) ∧ name ∉ g.targets) ∧
      g.missingDependencies.Nodup ∧
      g.missingDependencies.Pairwise (fun a b => g.listed.idxOf a < g.listed.idxOf b) ∧
      (g.validate.result = .ok () ↔ g.Acyclic ∧ g.missingDependencies = []) ∧
      (∀ names, g.validate.result = .error (.missingDependency names) ↔
        g.Acyclic ∧ g.missingDependencies ≠ [] ∧ names = g.missingDependencies) ∧
      ((∃ a b, g.validate.result = .error (.cycleDetected a b)) ↔ ¬ g.Acyclic) := by
  refine ⟨fun name => ?_, nodup_eraseDups _, pairwise_missingDependencies g, ?_,
    fun names => validate_eq_missing_iff, validate_eq_cycle_iff⟩
  · rw [mem_missingDependencies, and_comm]
    refine and_congr_left fun _ => ⟨fun ⟨target, h⟩ => ?_, fun ⟨target, _, h⟩ => ⟨target, h⟩⟩
    exact ⟨target, mem_targets_of_mem_dependencies h, h⟩
  · rw [validate_eq_ok_iff, missingDependencies_eq_nil_iff]

/-- A name that is missed twice, and one that is declared after it is listed. -/
example : missingDependencies
    ⟨.ofList [("a", ["c", "z", "b"]), ("b", ["y", "z", "x", "y"])], .empty⟩ =
      ["c", "z", "y", "x"] := by
  cbv

end BuildRunner.Graph
