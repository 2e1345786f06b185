import BuildRunner.Proofs.Graph.CycleInvariant

/-! The search for a cycle decides acyclicity of the whole graph, and an edge that it reports lies
on a cycle. -/
namespace BuildRunner

/-- The dependency leads back to the dependent. -/
def Edge.OnCycle (g : Graph) (edge : Edge) : Prop :=
  g.DependsOn edge.dependent edge.dependency ∧ g.Reaches edge.dependency edge.dependent

namespace Edge.OnCycle
variable {g : Graph} {edge : Edge}
open Relation

private theorem not_acyclic (h : edge.OnCycle g) : ¬ g.Acyclic :=
  fun ha => ha edge.dependent (.head' h.1 h.2)

private theorem dependency_mem_targets (h : edge.OnCycle g) : edge.dependency ∈ g.targets := by
  rcases ReflTransGen.cases_head h.2 with he | ⟨next, hn, -⟩
  · exact he ▸ h.1.1
  · exact hn.1

end Edge.OnCycle

namespace CycleSearch
variable {g : Graph} {root : String} {s : CycleSearch}

private theorem Invariant.onCycle {edge : Edge} (h : Invariant g root s)
    (hs : s.step g = some (.error edge)) : edge.OnCycle g := by
  obtain ⟨marks, stack⟩ := s
  obtain ⟨top, below, d, rfl, hn, hd, rfl⟩ := step_error_cases hs
  exact ⟨Graph.dependsOn_of_getElem? hn, h.path.reaches_top d ((h.onPath_iff d).mp hd)⟩

/-- Between two roots nothing is on the path. -/
structure AtRest (g : Graph) (marks : Marks) : Prop where
  settled : Settled g marks
  not_onPath : ∀ name, ¬ marks.OnPath name

theorem atRest_nil (g : Graph) : AtRest g [] where
  settled := ⟨nofun, nofun⟩
  not_onPath := nofun

theorem Invariant.atRest (h : Invariant g root s) (hs : s.stack = []) : AtRest g s.marks where
  settled := h.settled
  not_onPath name ho := by simpa [hs] using (h.onPath_iff name).mp ho

private theorem contains_of_step {t : CycleSearch} (hs : s.step g = some (.ok t)) {name : String}
    (h : s.marks.contains name = true) : t.marks.contains name = true := by
  obtain ⟨top, below, -, ⟨-, rfl⟩ | ⟨d, -, ⟨-, rfl⟩ | ⟨-, rfl⟩⟩⟩ := step_ok_cases hs
  · simp [contains_cons, h]
  · exact h
  · simp [contains_cons, h]

/-- Searches from some roots have marked them and kept earlier marks. -/
structure Searched (g : Graph) (roots : List String) (marks last : Marks) : Prop where
  atRest : AtRest g last
  kept : ∀ name, marks.contains name = true → last.contains name = true
  marked : ∀ name ∈ roots, last.contains name = true

namespace Searched
variable {roots : List String} {marks next last : Marks}

private theorem nil (h : AtRest g marks) : Searched g [] marks marks where
  atRest := h
  kept _ hn := hn
  marked := nofun

private theorem cons (h : Searched g [root] marks next) (h' : Searched g roots next last) :
    Searched g (root :: roots) marks last where
  atRest := h'.atRest
  kept name hn := h'.kept name (h.kept name hn)
  marked := List.forall_mem_cons.mpr ⟨h'.kept root (h.marked root (by simp)), h'.marked⟩

private theorem cons_of_marked (hr : marks.contains root = true) (h : Searched g roots marks last) :
    Searched g (root :: roots) marks last where
  atRest := h.atRest
  kept := h.kept
  marked := List.forall_mem_cons.mpr ⟨h.kept root hr, h.marked⟩

end Searched

private theorem run_start_cases {marks : Marks} (h : AtRest g marks)
    (hr : marks.contains root = false) :
    (∃ next, (start marks root).run g = .ok next ∧ Searched g [root] marks next) ∨
      ∃ edge, (start marks root).run g = .error edge ∧ edge.OnCycle g := by
  have hl : marks.lookup root = none := by simpa [Marks.contains] using hr
  -- marks are only ever added, so the root is still marked when the stack is empty
  obtain ⟨last, ⟨hi, hm⟩, ⟨hs, he⟩ | ⟨edge, hs, he⟩⟩ := run_induction (g := g)
    (p := fun s => Invariant g root s ∧
      ∀ name, (marks.contains name || name == root) = true → s.marks.contains name = true)
    (fun s t hp hs => ⟨hp.1.step hs, fun name hn => contains_of_step hs (hp.2 name hn)⟩)
    (start marks root)
    ⟨start_invariant h.settled h.not_onPath hl, fun name hn => by rw [start, contains_cons, hn]⟩
  · exact .inl ⟨last.marks, he, hi.atRest hs, fun name hn => hm name (by simp [hn]),
      List.forall_mem_singleton.mpr (hm root (by simp))⟩
  · exact .inr ⟨edge, he, hi.onCycle hs⟩

/-- The searches from a list of roots mark all of them, unless one finds an edge on a cycle. -/
theorem runAll_cases (roots : List String) {marks : Marks} (h : AtRest g marks) :
    (∃ last, runAll g roots marks = .ok last ∧ Searched g roots marks last) ∨
      ∃ edge, runAll g roots marks = .error edge ∧ edge.OnCycle g := by
  induction roots generalizing marks with
  | nil => exact .inl ⟨marks, rfl, .nil h⟩
  | cons root rest ih =>
    unfold runAll
    split
    · rename_i hr
      exact (ih h).imp_left fun ⟨last, he, hl⟩ => ⟨last, he, hl.cons_of_marked hr⟩
    · rename_i hr
      obtain ⟨next, he, hn⟩ | ⟨edge, he, hc⟩ := run_start_cases h (Bool.eq_false_iff.mpr hr)
      · rw [he]
        exact (ih hn.atRest).imp_left fun ⟨last, he, hl⟩ => ⟨last, he, hn.cons hl⟩
      · rw [he]
        exact .inr ⟨edge, rfl, hc⟩

end CycleSearch

namespace Graph
variable {g : Graph}

theorem checkCycles_cases (g : Graph) :
    (g.checkCycles = .ok () ∧ g.Acyclic) ∨
      ∃ edge : Edge, g.checkCycles = .error (.cycleDetected edge.dependent edge.dependency) ∧
        edge.OnCycle g := by
  unfold checkCycles
  obtain ⟨last, he, hl⟩ | ⟨edge, he, hc⟩ :=
    CycleSearch.runAll_cases g.targets (CycleSearch.atRest_nil g)
  · rw [he]
    refine .inl ⟨rfl, fun name hcycle => ?_⟩
    have hm := Marks.contains_iff.mp (hl.marked name (mem_targets_of_requires hcycle))
    have hdone := hm.resolve_left (hl.atRest.not_onPath name)
    exact hl.atRest.settled.acyclic name hdone hcycle
  · rw [he]
    exact .inr ⟨edge, rfl, hc⟩

theorem checkCycles_eq_ok_iff : g.checkCycles = .ok () ↔ g.Acyclic := by
  obtain ⟨he, ha⟩ | ⟨edge, he, hc⟩ := checkCycles_cases g
  · exact ⟨fun _ => ha, fun _ => he⟩
  · rw [he]
    exact ⟨nofun, fun ha => absurd ha hc.not_acyclic⟩

instance (g : Graph) : Decidable g.Acyclic := decidable_of_iff _ checkCycles_eq_ok_iff

/-- A cycle counts wherever it lies. -/
example : decide (Acyclic ⟨.ofList [("run", []), ("x", ["y", "y"]), ("y", ["x"])], .empty⟩) =
    false := by
  cbv

/-- The check passes on acyclic graphs only and on all of them, whichever part a target reaches.
What it reports otherwise is a dependency from which a path leads back. -/
theorem cycle_check_sound_and_complete (g : Graph) :
    (g.checkCycles = .ok () ↔ g.Acyclic) ∧
      ∀ error, g.checkCycles = .error error →
        ∃ dependent dependency, error = .cycleDetected dependent dependency ∧
          dependent ∈ g.targets ∧ dependency ∈ g.targets ∧
          dependency ∈ g.dependencies dependent ∧ g.Reaches dependency dependent := by
  refine ⟨checkCycles_eq_ok_iff, fun error h => ?_⟩
  obtain ⟨he, -⟩ | ⟨edge, he, hc⟩ := checkCycles_cases g
  · rw [he] at h
    cases h
  · rw [he] at h
    cases h
    exact ⟨_, _, rfl, hc.1.1, hc.dependency_mem_targets, hc.1.2, hc.2⟩

end Graph
end BuildRunner
