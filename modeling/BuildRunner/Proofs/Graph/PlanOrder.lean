import BuildRunner.Proofs.Graph.CycleDetection
import BuildRunner.Proofs.Graph.WalkInvariant

/-! The plan of a target holds what the target needs and nothing else, each name once. Its order
puts dependencies first as far as cycles allow, so it does so everywhere just when the check for
cycles passes. -/
namespace BuildRunner.Graph
open Relation
variable {g : Graph} {root : String}

private theorem postorder_invariant (g : Graph) (root : String) :
    ∃ w, Walk.Invariant g root w ∧ w.stack = [] ∧ g.postorder root = w.order :=
  Walk.finish_induction (fun _ _ h hs => h.step hs) (Walk.start root) (Walk.start_invariant g root)

theorem nodup_postorder (g : Graph) (root : String) : (g.postorder root).Nodup := by
  obtain ⟨w, h, hs, he⟩ := postorder_invariant g root
  simpa [he, hs] using h.nodup

theorem mem_postorder {name : String} : name ∈ g.postorder root ↔ g.Reaches root name := by
  obtain ⟨w, h, hs, he⟩ := postorder_invariant g root
  have hiff : ∀ name, name ∈ w.visited ↔ name ∈ w.order := by simpa [hs] using h.mem_visited
  rw [he, ← hiff]
  refine ⟨h.reached name, fun hr => ?_⟩
  exact hr.mem_of_closed (fun u hu => h.closed u ((hiff u).mp hu)) h.root_visited

instance (g : Graph) (a b : String) : Decidable (g.Reaches a b) := decidable_of_iff _ mem_postorder

private theorem getLast?_postorder (g : Graph) (root : String) :
    (g.postorder root).getLast? = some root := by
  obtain ⟨w, h, hs, he⟩ := postorder_invariant g root
  exact he ▸ h.ends hs

/-- The order of a plan is told by the dependencies of the names that it holds. -/
theorem postorder_congr {g' : Graph}
    (hd : ∀ name, g.Reaches root name → g.dependencies name = g'.dependencies name) :
    g.postorder root = g'.postorder root :=
  Walk.finish_congr hd (Walk.start_invariant g root)

private theorem postorder_precedes {u v : String} (hu : u ∈ g.postorder root)
    (hv : v ∈ g.dependencies u) : Precedes (g.postorder root) v u ∨ g.Reaches v u := by
  obtain ⟨w, h, -, he⟩ := postorder_invariant g root
  rw [he] at hu ⊢
  exact h.ordered u hu v hv

theorem Acyclic.postorder_precedes (ha : g.Acyclic) {u v : String} (hu : u ∈ g.postorder root)
    (hv : v ∈ g.dependencies u) : Precedes (g.postorder root) v u :=
  (Graph.postorder_precedes hu hv).resolve_right fun hback =>
    ha u (.head' (dependsOn_iff.mpr hv) hback)

/-- Where every plan puts dependencies first, a name on a cycle would stand before itself. -/
theorem acyclic_of_postorder_precedes
    (h : ∀ t ∈ g.targets, ∀ u ∈ g.postorder t, ∀ v ∈ g.dependencies u,
      Precedes (g.postorder t) v u) : g.Acyclic := by
  intro name hcycle
  have hmem : name ∈ g.postorder name := mem_postorder.mpr .refl
  have hself := precedes_of_requires (h name (mem_targets_of_requires hcycle)) hmem hcycle
  obtain ⟨before, after, he⟩ := List.append_of_mem hmem
  have hn := he ▸ nodup_postorder g name
  exact (List.nodup_append.mp hn).2.2 name (hself before after he) name List.mem_cons_self rfl

private theorem target?_of_mem {name : String} (h : name ∈ g.targets) :
    g.target? name = some name := by
  unfold target?
  cases hf : g.targets.find? (· == name) with
  | none => simpa using List.find?_eq_none.mp hf name h
  | some found =>
    obtain rfl : found = name := by simpa using List.find?_some hf
    rfl

private theorem target?_of_not_mem {name : String} (h : name ∉ g.targets) : g.target? name = none :=
  List.find?_eq_none.mpr fun _ ho he => h (eq_of_beq he ▸ ho)

theorem plan_of_mem {t : String} (h : t ∈ g.targets) :
    g.plan t = ⟨[.orderComputed t (g.postorder t).length], .ok (g.postorder t)⟩ := by
  simp [plan, target?_of_mem h]

theorem plan_of_not_mem {t : String} (h : t ∉ g.targets) : g.plan t = .fail (.targetNotFound t) := by
  simp [plan, target?_of_not_mem h]

/-- A plan sees of a graph the dependencies of the names that the target reaches. -/
theorem plan_congr {g' : Graph} {t : String} (h : t ∈ g.targets) (h' : t ∈ g'.targets)
    (hd : ∀ name, g.Reaches t name → g.dependencies name = g'.dependencies name) :
    g.plan t = g'.plan t := by
  rw [plan_of_mem h, plan_of_mem h', postorder_congr hd]

theorem plan_eq_ok {t : String} {order : List String} (h : (g.plan t).result = .ok order) :
    t ∈ g.targets ∧ order = g.postorder t := by
  by_cases ht : t ∈ g.targets
  · rw [plan_of_mem ht] at h
    cases h
    exact ⟨ht, rfl⟩
  · rw [plan_of_not_mem ht] at h
    cases h

/-- Targets and no other names have a plan: the target, last, and the names it reaches, which may
be no targets or lie on cycles. -/
theorem plan_holds_exactly_what_is_needed (g : Graph) (t : String) :
    ((∃ order, (g.plan t).result = .ok order) ↔ t ∈ g.targets) ∧
      (t ∉ g.targets → (g.plan t).result = .error (.targetNotFound t)) ∧
      ∀ order, (g.plan t).result = .ok order →
        order.Nodup ∧ (∀ name, name ∈ order ↔ g.Reaches t name) ∧ order.getLast? = some t := by
  refine ⟨⟨fun ⟨_, h⟩ => (plan_eq_ok h).1, fun h => ⟨_, by rw [plan_of_mem h]⟩⟩,
    fun h => by rw [plan_of_not_mem h]; rfl, fun order h => ?_⟩
  obtain ⟨-, rfl⟩ := plan_eq_ok h
  exact ⟨nodup_postorder g t, fun _ => mem_postorder, getLast?_postorder g t⟩

/-- Repeated entries, a cycle through the target and a name that is no target. -/
example : (plan ⟨.ofList [("a", ["b", "b"]), ("b", ["a", "c"])], .empty⟩ "a").result =
    .ok ["c", "b", "a"] := by
  cbv

/-- A dependency stands before its dependent in every plan, unless a path leads from it back to the
dependent. The check for cycles therefore passes just when no plan has such an exception. -/
theorem plan_order_agrees_with_cycle_check (g : Graph) :
    (∀ t ∈ g.targets, ∃ order, (g.plan t).result = .ok order ∧
        ∀ u ∈ order, ∀ v ∈ g.dependencies u, Precedes order v u ∨ g.Reaches v u) ∧
      (g.checkCycles = .ok () ↔
        ∀ t ∈ g.targets, ∃ order, (g.plan t).result = .ok order ∧
          ∀ u ∈ order, ∀ v ∈ g.dependencies u, Precedes order v u) := by
  refine ⟨fun t ht => ⟨g.postorder t, by rw [plan_of_mem ht], fun u hu v => postorder_precedes hu⟩,
    ?_⟩
  rw [checkCycles_eq_ok_iff]
  constructor
  · intro ha t ht
    exact ⟨g.postorder t, by rw [plan_of_mem ht], fun u hu v => ha.postorder_precedes hu⟩
  · intro h
    refine acyclic_of_postorder_precedes fun t ht => ?_
    obtain ⟨order, ho, hfirst⟩ := h t ht
    obtain ⟨-, rfl⟩ := plan_eq_ok ho
    exact hfirst

end BuildRunner.Graph
