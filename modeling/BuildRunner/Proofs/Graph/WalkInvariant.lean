import BuildRunner.Graph.Plan
import BuildRunner.Proofs.Graph.Dependency

/-! What the walk behind a plan keeps at the head of each iteration, on cyclic graphs as well: the
names entered are those left and those on the stack, each once, and a name left stands after all
that it depends on, except where a path leads back to it. -/
namespace BuildRunner.Walk
variable {g : Graph} {root : String} {w v : Walk}

/-- Names entered are left or on the stack, each once; what a frame has passed, and all that a name
left depends on, has been entered. -/
structure Invariant (g : Graph) (root : String) (w : Walk) : Prop where
  mem_visited : ∀ name, name ∈ w.visited ↔ name ∈ w.order ∨ name ∈ w.stack.map Frame.name
  nodup : (w.order ++ w.stack.map Frame.name).Nodup
  path : g.StackPath root w.stack
  reached : ∀ name ∈ w.visited, g.Reaches root name
  root_visited : root ∈ w.visited
  scanned : ∀ f ∈ w.stack, ∀ d ∈ g.passed f, d ∈ w.visited
  closed : ∀ u ∈ w.order, ∀ d ∈ g.dependencies u, d ∈ w.visited
  ordered : ∀ u ∈ w.order, ∀ d ∈ g.dependencies u, Graph.Precedes w.order d u ∨ g.Reaches d u
  ends : w.stack = [] → w.order.getLast? = some root

theorem start_invariant (g : Graph) (root : String) : Invariant g root (start root) where
  mem_visited name := by simp [start, Frame.enter]
  nodup := by simp [start]
  path := .enter_root g root
  reached name hn := by
    obtain rfl := List.mem_singleton.mp hn
    exact .refl
  root_visited := List.mem_singleton_self root
  scanned f hf := by
    obtain rfl := List.mem_singleton.mp hf
    simp
  closed := nofun
  ordered := nofun
  ends := nofun

variable {visited order : List String} {top : Frame} {below : List Frame} {d : String}

private theorem scanned_advance {visited' : List String}
    (hs : ∀ f ∈ top :: below, ∀ e ∈ g.passed f, e ∈ visited) (hn : g.nextDependency? top = some d)
    (hsub : visited ⊆ visited') (hd : d ∈ visited') :
    ∀ f ∈ top.advance :: below, ∀ e ∈ g.passed f, e ∈ visited' := by
  intro f hf e he
  rcases List.mem_cons.mp hf with rfl | hf
  · rw [Graph.passed_advance hn, List.mem_append] at he
    rcases he with he | he
    · exact hsub (hs top List.mem_cons_self e he)
    · exact List.mem_singleton.mp he ▸ hd
  · exact hsub (hs f (List.mem_cons_of_mem _ hf) e he)

namespace Invariant

/-- The name on top is left behind the names left before it. Those of its dependencies that are
still on the stack lie below it, so they reach it. -/
theorem leave (h : Invariant g root ⟨visited, top :: below, order⟩)
    (hn : g.nextDependency? top = none) :
    Invariant g root ⟨visited, below, order ++ [top.name]⟩ := by
  have hnew : top.name ∉ order := by
    have := List.nodup_append.mp h.nodup
    exact fun hm => this.2.2 _ hm _ (by simp) rfl
  have hall : ∀ d ∈ g.dependencies top.name, d ∈ visited := fun d hd =>
    h.scanned top List.mem_cons_self d (Graph.passed_of_nextDependency?_eq_none hn ▸ hd)
  exact {
    mem_visited := fun name => by
      rw [h.mem_visited]
      simp [or_assoc]
    nodup := by simpa using h.nodup
    path := h.path.leave
    reached := h.reached
    root_visited := h.root_visited
    scanned := fun f hf => h.scanned f (List.mem_cons_of_mem _ hf)
    closed := fun u hu d hd => by
      rcases List.mem_append.mp hu with hu | hu
      · exact h.closed u hu d hd
      · obtain rfl := List.mem_singleton.mp hu
        exact hall d hd
    ordered := fun u hu d hd => by
      rcases List.mem_append.mp hu with hu | hu
      · exact (h.ordered u hu d hd).imp_left fun hp => hp.concat fun he => hnew (he ▸ hu)
      · obtain rfl := List.mem_singleton.mp hu
        rcases (h.mem_visited d).mp (hall d hd) with ho | hs
        · exact .inl (Graph.precedes_concat_self ho hnew)
        · exact .inr (h.path.reaches_top d hs)
    ends := fun hb => by
      subst hb
      simpa using h.path.name_of_singleton }

private theorem pass (h : Invariant g root ⟨visited, top :: below, order⟩)
    (hn : g.nextDependency? top = some d) (hd : d ∈ visited) :
    Invariant g root ⟨visited, top.advance :: below, order⟩ where
  mem_visited := h.mem_visited
  nodup := h.nodup
  path := h.path.advance
  reached := h.reached
  root_visited := h.root_visited
  scanned := scanned_advance h.scanned hn (List.Subset.refl _) hd
  closed := h.closed
  ordered := h.ordered
  ends := nofun

private theorem enter (h : Invariant g root ⟨visited, top :: below, order⟩)
    (hn : g.nextDependency? top = some d) (hd : d ∉ visited) :
    Invariant g root ⟨d :: visited, .enter d :: top.advance :: below, order⟩ where
  mem_visited name := by
    rw [List.mem_cons, h.mem_visited]
    simp [Frame.enter, Frame.advance, or_left_comm]
  nodup := by
    have hnot := mt (h.mem_visited d).mpr hd
    refine (List.perm_middle.nodup_iff).mpr (List.nodup_cons.mpr ⟨fun hm => ?_, h.nodup⟩)
    exact hnot (List.mem_append.mp hm)
  path := h.path.enter hn
  reached name hm := by
    rcases List.mem_cons.mp hm with rfl | hm
    · have htop := h.reached top.name ((h.mem_visited _).mpr (.inr (by simp)))
      exact htop.tail (Graph.dependsOn_of_getElem? hn)
    · exact h.reached name hm
  root_visited := List.mem_cons_of_mem _ h.root_visited
  scanned f hf e he := by
    rcases List.mem_cons.mp hf with rfl | hf
    · simp at he
    · exact scanned_advance h.scanned hn (List.subset_cons_self _ _) List.mem_cons_self f hf e he
  closed u hu e he := List.mem_cons_of_mem _ (h.closed u hu e he)
  ordered := h.ordered
  ends := nofun

theorem step (h : Invariant g root w) (hs : w.step g = some v) : Invariant g root v := by
  obtain ⟨visited, stack, order⟩ := w
  obtain ⟨top, below, rfl, ⟨hn, rfl⟩ | ⟨d, hn, ⟨hd, rfl⟩ | ⟨hd, rfl⟩⟩⟩ := step_cases hs
  · exact h.leave hn
  · exact h.pass hn hd
  · exact h.enter hn hd

end Invariant

/-- What every iteration keeps holds at the empty stack, where the walk ends. -/
theorem finish_induction {p : Walk → Prop} (keep : ∀ w v, p w → w.step g = some v → p v)
    (w : Walk) (h : p w) : ∃ last, p last ∧ last.stack = [] ∧ w.finish g = last.order := by
  fun_induction finish g w with
  | case1 w hs => exact ⟨w, h, step_eq_none.mp hs, rfl⟩
  | case2 w next hs ih => exact ih (keep w next h hs)

theorem finish_of_step (h : w.step g = some v) : w.finish g = v.finish g := by
  rw [finish]
  split <;> simp_all

theorem finish_of_stack_eq_nil (h : w.stack = []) : w.finish g = w.order := by
  have hstep : w.step g = none := step_eq_none.mpr h
  rw [finish]
  split <;> simp_all

/-- A walk looks at the dependencies of the names on its stack, and those are reached. -/
theorem finish_congr {g' : Graph}
    (hd : ∀ name, g.Reaches root name → g.dependencies name = g'.dependencies name)
    (h : Invariant g root w) : w.finish g = w.finish g' := by
  fun_induction finish g w with
  | case1 w hs => exact (finish_of_stack_eq_nil (step_eq_none.mp hs)).symm
  | case2 w next hs ih =>
    have hstep : w.step g' = some next := by
      obtain ⟨top, below, hw, -⟩ := step_cases hs
      have htop : g.Reaches root top.name :=
        h.reached top.name ((h.mem_visited top.name).mpr (.inr (by simp [hw])))
      rw [← hs]
      simp only [step, hw, Graph.nextDependency?, hd top.name htop]
    rw [ih (h.step hs), finish_of_step hstep]

end BuildRunner.Walk
