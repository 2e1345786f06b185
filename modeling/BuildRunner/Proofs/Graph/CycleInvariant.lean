import BuildRunner.Graph.CycleSearch
import BuildRunner.Proofs.Graph.Dependency

/-! What the search for a cycle keeps at the head of each iteration: names on the path are the names
on the stack, the stack is a dependency path, and names that are done lie on no cycle. -/
namespace BuildRunner

namespace Marks
variable {marks : Marks} {name other : String}

def OnPath (marks : Marks) (name : String) : Prop := marks.lookup name = some .onPath

def Done (marks : Marks) (name : String) : Prop := marks.lookup name = some .done

theorem lookup_mark (marks : Marks) (name other : String) (mark : Mark) :
    List.lookup other ((name, mark) :: marks) =
      if other = name then some mark else marks.lookup other := by
  by_cases h : other = name
  · simp [h]
  · simp [List.lookup_cons, beq_eq_false_iff_ne.mpr h, h]

theorem onPath_mark_onPath :
    OnPath ((name, .onPath) :: marks) other ↔ other = name ∨ OnPath marks other := by
  unfold OnPath
  rw [lookup_mark]
  by_cases h : other = name <;> simp [h]

theorem onPath_mark_done :
    OnPath ((name, .done) :: marks) other ↔ other ≠ name ∧ OnPath marks other := by
  unfold OnPath
  rw [lookup_mark]
  by_cases h : other = name <;> simp [h]

theorem done_mark_done :
    Done ((name, .done) :: marks) other ↔ other = name ∨ Done marks other := by
  unfold Done
  rw [lookup_mark]
  by_cases h : other = name <;> simp [h]

/-- A name that carries no mark is not done, so putting it on the path forgets nothing. -/
theorem done_mark_onPath (h : marks.lookup name = none) :
    Done ((name, .onPath) :: marks) other ↔ Done marks other := by
  unfold Done
  rw [lookup_mark]
  by_cases he : other = name <;> simp [he, h]

theorem contains_iff : marks.contains name = true ↔ OnPath marks name ∨ Done marks name := by
  unfold contains OnPath Done
  cases marks.lookup name with
  | none => simp
  | some mark => cases mark <;> simp

end Marks

namespace CycleSearch
open Relation
variable {g : Graph} {root : String} {s t : CycleSearch}

/-- Of the dependencies before a frame's index all are done, except the one on the frame above. -/
def Scanned (g : Graph) (marks : Marks) : Option String → List Frame → Prop
  | _, [] => True
  | above, f :: below =>
    (∀ d ∈ g.passed f, marks.Done d ∨ above = some d) ∧
      Scanned g marks (some f.name) below

/-- What is done stays within what is done, and no cycle runs through it. -/
structure Settled (g : Graph) (marks : Marks) : Prop where
  closed : ∀ name, marks.Done name → ∀ d ∈ g.dependencies name, marks.Done d
  acyclic : ∀ name, marks.Done name → ¬ g.Requires name name

/-- The marks on the path are those of the stack, which spells a path from the root; every frame
stands within its dependency list. -/
structure Invariant (g : Graph) (root : String) (s : CycleSearch) : Prop where
  onPath_iff : ∀ name, s.marks.OnPath name ↔ name ∈ s.stack.map Frame.name
  nodup : (s.stack.map Frame.name).Nodup
  path : g.StackPath root s.stack
  next_le : ∀ f ∈ s.stack, f.next ≤ (g.dependencies f.name).length
  scanned : Scanned g s.marks none s.stack
  settled : Settled g s.marks

private theorem Scanned.mono {marks marks' : Marks}
    (hm : ∀ name, marks.Done name → marks'.Done name)
    {above : Option String} {stack : List Frame} (h : Scanned g marks above stack) :
    Scanned g marks' above stack := by
  induction stack generalizing above with
  | nil => trivial
  | cons f below ih => exact ⟨fun d hd => (h.1 d hd).imp_left (hm d), ih h.2⟩

private theorem Scanned.settle {marks : Marks} {name : String} {stack : List Frame}
    (h : Scanned g marks (some name) stack) (hd : marks.Done name) : Scanned g marks none stack := by
  cases stack with
  | nil => trivial
  | cons f below =>
    refine ⟨fun d hm => .inl ?_, h.2⟩
    rcases h.1 d hm with h | h
    · exact h
    · cases h
      exact hd

private theorem Scanned.advance {marks : Marks} {above : Option String} {top : Frame}
    {below : List Frame}
    {d : String} (h : Scanned g marks none (top :: below)) (hn : g.nextDependency? top = some d)
    (hd : marks.Done d ∨ above = some d) : Scanned g marks above (top.advance :: below) := by
  refine ⟨fun e he => ?_, h.2⟩
  rw [Graph.passed_advance hn, List.mem_append] at he
  rcases he with he | he
  · exact .inl ((h.1 e he).resolve_right nofun)
  · obtain rfl := List.mem_singleton.mp he
    exact hd

/-- A name is done after its dependencies. From them only names that were done before are reached,
so no cycle runs through it. -/
theorem Settled.mark {marks : Marks} (h : Settled g marks) {name : String}
    (hn : ¬ marks.Done name) (hd : ∀ d ∈ g.dependencies name, marks.Done d) :
    Settled g ((name, .done) :: marks) where
  closed other ho d hmem := by
    rw [Marks.done_mark_done] at ho ⊢
    rcases ho with rfl | ho
    · exact .inr (hd d hmem)
    · exact .inr (h.closed other ho d hmem)
  acyclic other ho hc := by
    rw [Marks.done_mark_done] at ho
    rcases ho with rfl | ho
    · obtain ⟨d, hnd, hback⟩ := TransGen.head'_iff.mp hc
      exact hn (Graph.Reaches.mem_of_closed h.closed hback (hd d hnd.2))
    · exact h.acyclic other ho hc

private theorem Settled.enter {marks : Marks} (h : Settled g marks) {name : String}
    (hn : marks.lookup name = none) : Settled g ((name, .onPath) :: marks) where
  closed other ho d hmem :=
    (Marks.done_mark_onPath hn).mpr (h.closed other ((Marks.done_mark_onPath hn).mp ho) d hmem)
  acyclic other ho := h.acyclic other ((Marks.done_mark_onPath hn).mp ho)

namespace Invariant
variable {marks : Marks} {top : Frame} {below : List Frame} {d : String}

private theorem not_done_of_mem (h : Invariant g root s) {name : String}
    (hm : name ∈ s.stack.map Frame.name) : ¬ s.marks.Done name := by
  intro hd
  have ho := (h.onPath_iff name).mpr hm
  rw [Marks.OnPath, hd] at ho
  cases ho

private theorem leave (h : Invariant g root ⟨marks, top :: below⟩)
    (hn : g.nextDependency? top = none) :
    Invariant g root ⟨(top.name, .done) :: marks, below⟩ where
  onPath_iff name := by
    rw [Marks.onPath_mark_done, h.onPath_iff]
    have hd := h.nodup
    simp only [List.map_cons, List.nodup_cons, List.mem_cons] at hd ⊢
    constructor
    · rintro ⟨hne, rfl | hm⟩
      · exact absurd rfl hne
      · exact hm
    · intro hm
      exact ⟨fun he => hd.1 (he ▸ hm), .inr hm⟩
  nodup := (List.nodup_cons.mp h.nodup).2
  path := h.path.leave
  next_le f hf := h.next_le f (List.mem_cons_of_mem _ hf)
  scanned := (h.scanned.2.mono fun _ hd => Marks.done_mark_done.mpr (.inr hd)).settle
    (Marks.done_mark_done.mpr (.inl rfl))
  settled := by
    refine h.settled.mark (h.not_done_of_mem (by simp)) fun d hd => ?_
    rw [← Graph.passed_of_nextDependency?_eq_none hn] at hd
    exact (h.scanned.1 d hd).resolve_right nofun

private theorem pass (h : Invariant g root ⟨marks, top :: below⟩)
    (hn : g.nextDependency? top = some d)
    (hd : marks.Done d) : Invariant g root ⟨marks, top.advance :: below⟩ where
  onPath_iff := h.onPath_iff
  nodup := h.nodup
  path := h.path.advance
  next_le f hf := by
    rcases List.mem_cons.mp hf with rfl | hf
    · exact Graph.advance_next_le hn
    · exact h.next_le f (List.mem_cons_of_mem _ hf)
  scanned := h.scanned.advance hn (.inl hd)
  settled := h.settled

private theorem enter (h : Invariant g root ⟨marks, top :: below⟩)
    (hn : g.nextDependency? top = some d) (hd : marks.lookup d = none) :
    Invariant g root ⟨(d, .onPath) :: marks, .enter d :: top.advance :: below⟩ where
  onPath_iff name := by
    rw [Marks.onPath_mark_onPath, h.onPath_iff]
    exact List.mem_cons.symm
  nodup := by
    refine List.nodup_cons.mpr ⟨fun hm => ?_, h.nodup⟩
    have ho := (h.onPath_iff d).mpr hm
    rw [Marks.OnPath, hd] at ho
    cases ho
  path := h.path.enter hn
  next_le f hf := by
    rcases List.mem_cons.mp hf with rfl | hf
    · exact Nat.zero_le _
    rcases List.mem_cons.mp hf with rfl | hf
    · exact Graph.advance_next_le hn
    · exact h.next_le f (List.mem_cons_of_mem _ hf)
  scanned := ⟨by simp, (h.scanned.advance hn (.inr rfl)).mono
    fun _ => (Marks.done_mark_onPath hd).mpr⟩
  settled := h.settled.enter hd

theorem step (h : Invariant g root s) (hs : s.step g = some (.ok t)) : Invariant g root t := by
  obtain ⟨marks, stack⟩ := s
  obtain ⟨top, below, rfl, ⟨hn, rfl⟩ | ⟨d, hn, ⟨hd, rfl⟩ | ⟨hd, rfl⟩⟩⟩ := step_ok_cases hs
  · exact h.leave hn
  · exact h.pass hn hd
  · exact h.enter hn hd

end Invariant

theorem start_invariant {marks : Marks} (h : Settled g marks) (hp : ∀ name, ¬ marks.OnPath name)
    (hr : marks.lookup root = none) : Invariant g root (start marks root) where
  onPath_iff name := by
    rw [start, Marks.onPath_mark_onPath]
    simp [hp, Frame.enter]
  nodup := by simp [start]
  path := .enter_root g root
  next_le f hf := by
    obtain rfl := List.mem_singleton.mp hf
    exact Nat.zero_le _
  scanned := ⟨by simp, trivial⟩
  settled := h.enter hr

theorem run_of_step_ok (h : s.step g = some (.ok t)) : s.run g = t.run g := by
  rw [run]
  split <;> simp_all

theorem run_of_step_error {edge : Edge} (h : s.step g = some (.error edge)) :
    s.run g = .error edge := by
  rw [run]
  split <;> simp_all

theorem run_nil (marks : Marks) : (mk marks []).run g = .ok marks := by
  rw [run]
  split <;> simp_all [step]

/-- What every iteration keeps holds where a run ends: at an empty stack, or at an edge back to
the path. -/
theorem run_induction {p : CycleSearch → Prop}
    (keep : ∀ s t, p s → s.step g = some (.ok t) → p t) (s : CycleSearch) (h : p s) :
    ∃ last, p last ∧ ((last.stack = [] ∧ s.run g = .ok last.marks) ∨
      ∃ edge, last.step g = some (.error edge) ∧ s.run g = .error edge) := by
  fun_induction run g s with
  | case1 s hs => exact ⟨s, h, .inl ⟨step_eq_none.mp hs, rfl⟩⟩
  | case2 s edge hs => exact ⟨s, h, .inr ⟨edge, hs, rfl⟩⟩
  | case3 s next hs ih => exact ih (keep s next h hs)

end CycleSearch
end BuildRunner
