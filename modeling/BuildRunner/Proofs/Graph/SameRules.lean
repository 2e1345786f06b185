import BuildRunner.Proofs.Graph.PlanOrder
import BuildRunner.Proofs.Graph.Validation
import Mathlib.Data.List.Perm.Subperm

/-! Graphs with the same rules in different orders. Dependencies, cycles, missing names and plans do
not depend on the order of the targets; which cycle is reported, and the order of missing names, do. -/
namespace BuildRunner

namespace OrderedMap
variable {κ ν : Type} [DecidableEq κ]

private theorem get?_eq_none_iff (m : OrderedMap κ ν) (key : κ) :
    m.get? key = none ↔ key ∉ m.keys := by
  rw [mem_keys_iff, ← Option.ne_none_iff_exists', not_not]

variable [DecidableEq ν] {m n : OrderedMap κ ν}

private theorem get?_of_sameEntries_of_mem (h : m.sameEntries n = true) {key : κ}
    (hk : key ∈ m.keys) :
    m.get? key = n.get? key := by
  obtain ⟨⟨key, value⟩, he, rfl⟩ := List.mem_map.mp hk
  have hall := List.all_eq_true.mp (Bool.and_eq_true_iff.mp h).2 _ he
  rw [m.get?_of_mem he, eq_of_beq hall]

private theorem perm_keys_of_sameEntries (h : m.sameEntries n = true) : m.keys.Perm n.keys := by
  have hsize : m.size = n.size := eq_of_beq (Bool.and_eq_true_iff.mp h).1
  have hlength : n.keys.length ≤ m.keys.length := by
    simp only [keys, List.length_map]
    exact hsize.ge
  have hsubset : m.keys ⊆ n.keys := by
    intro key hk
    obtain ⟨value, hv⟩ := (m.mem_keys_iff key).mp hk
    exact (n.mem_keys_iff key).mpr ⟨value, by rw [← get?_of_sameEntries_of_mem h hk, hv]⟩
  exact (m.nodup_keys.subperm hsubset).perm_of_length_le hlength

private theorem get?_of_sameEntries (h : m.sameEntries n = true) (key : κ) :
    m.get? key = n.get? key := by
  by_cases hk : key ∈ m.keys
  · exact get?_of_sameEntries_of_mem h hk
  · have hk' : key ∉ n.keys := mt (perm_keys_of_sameEntries h).mem_iff.mpr hk
    rw [(m.get?_eq_none_iff key).mpr hk, (n.get?_eq_none_iff key).mpr hk']

end OrderedMap

namespace Graph
variable {g h : Graph}

private theorem dependencies_of_sameRules (hs : g.sameRules h = true) :
    g.dependencies = h.dependencies := by
  funext name
  rw [dependencies, dependencies, dependencies?, dependencies?,
    OrderedMap.get?_of_sameEntries (Bool.and_eq_true_iff.mp hs).1 name]

theorem recipe_of_sameRules (hs : g.sameRules h = true) : g.recipe = h.recipe := by
  funext name
  rw [recipe, recipe, recipe?, recipe?,
    OrderedMap.get?_of_sameEntries (Bool.and_eq_true_iff.mp hs).2 name]

private theorem perm_targets_of_sameRules (hs : g.sameRules h = true) : g.targets.Perm h.targets :=
  OrderedMap.perm_keys_of_sameEntries (Bool.and_eq_true_iff.mp hs).1

private theorem size_of_sameRules (hs : g.sameRules h = true) : g.size = h.size :=
  eq_of_beq (Bool.and_eq_true_iff.mp (Bool.and_eq_true_iff.mp hs).1).1

private theorem dependsOn_congr (hd : g.dependencies = h.dependencies) :
    g.DependsOn = h.DependsOn := by
  funext a b
  rw [eq_iff_iff, dependsOn_iff, dependsOn_iff, hd]

private theorem acyclic_congr (hd : g.dependencies = h.dependencies) : g.Acyclic ↔ h.Acyclic := by
  rw [Acyclic, Acyclic, Requires, Requires, dependsOn_congr hd]

theorem plan_of_sameRules (hs : g.sameRules h = true) (t : String) : g.plan t = h.plan t := by
  have hmem : t ∈ g.targets ↔ t ∈ h.targets := (perm_targets_of_sameRules hs).mem_iff
  by_cases ht : t ∈ g.targets
  · exact plan_congr ht (hmem.mp ht) fun name _ => congrFun (dependencies_of_sameRules hs) name
  · rw [plan_of_not_mem ht, plan_of_not_mem (mt hmem.mpr ht)]

theorem perm_missingDependencies_of_sameRules (hs : g.sameRules h = true) :
    g.missingDependencies.Perm h.missingDependencies := by
  refine (List.perm_ext_iff_of_nodup (nodup_eraseDups _) (nodup_eraseDups _)).mpr fun name => ?_
  change name ∈ g.missingDependencies ↔ name ∈ h.missingDependencies
  rw [mem_missingDependencies, mem_missingDependencies, dependencies_of_sameRules hs,
    (perm_targets_of_sameRules hs).mem_iff]

/-- The check may report different edges, but it reports one for both graphs or for neither. -/
theorem checkCycles_of_sameRules (hs : g.sameRules h = true) :
    g.checkCycles = .ok () ↔ h.checkCycles = .ok () := by
  rw [checkCycles_eq_ok_iff, checkCycles_eq_ok_iff]
  exact acyclic_congr (dependencies_of_sameRules hs)

/-- Two checks of whole graphs come to the same verdict, though perhaps to another edge on a cycle
or to the missing names in another order. -/
inductive SameVerdict : Except BuildError Unit → Except BuildError Unit → Prop
  | valid : SameVerdict (.ok ()) (.ok ())
  | cyclic (edge edge' : Edge) :
      SameVerdict (.error (.cycleDetected edge.dependent edge.dependency))
        (.error (.cycleDetected edge'.dependent edge'.dependency))
  | incomplete {names names' : List String} (perm : names.Perm names') :
      SameVerdict (.error (.missingDependency names)) (.error (.missingDependency names'))

private theorem closed_of_sameRules (hs : g.sameRules h = true) : g.Closed ↔ h.Closed := by
  have hperm := perm_missingDependencies_of_sameRules hs
  rw [← missingDependencies_eq_nil_iff, ← missingDependencies_eq_nil_iff]
  exact ⟨fun hnil => (hnil ▸ hperm).nil_eq.symm, fun hnil => (hnil ▸ hperm).eq_nil⟩

theorem sameVerdict_validate (hs : g.sameRules h = true) :
    SameVerdict g.validate.result h.validate.result := by
  have hacyclic := acyclic_congr (dependencies_of_sameRules hs)
  have hclosed := closed_of_sameRules hs
  by_cases ha : g.Acyclic
  · by_cases hc : g.Closed
    · rw [validate_of_closed ha hc, validate_of_closed (hacyclic.mp ha) (hclosed.mp hc)]
      exact .valid
    · rw [validate_of_open ha hc, validate_of_open (hacyclic.mp ha) (mt hclosed.mpr hc)]
      exact .incomplete (perm_missingDependencies_of_sameRules hs)
  · obtain ⟨edge, -, hg⟩ := validate_of_cyclic ha
    obtain ⟨edge', -, hh⟩ := validate_of_cyclic (mt hacyclic.mpr ha)
    rw [hg, hh]
    exact .cyclic edge edge'

theorem validate_of_sameRules (hs : g.sameRules h = true) (hv : g.validate.result = .ok ()) :
    g.validate = h.validate := by
  have hacyclic := acyclic_congr (dependencies_of_sameRules hs)
  have hclosed := closed_of_sameRules hs
  obtain ⟨ha, hc⟩ := validate_eq_ok_iff.mp hv
  rw [validate_of_closed ha hc, validate_of_closed (hacyclic.mp ha) (hclosed.mp hc),
    size_of_sameRules hs]

end Graph
end BuildRunner
