import BuildRunner.Proofs.Graph.CycleDetection

/-! The states in which the two loops of the check for cycles begin their iterations: the roots with
the marks of earlier searches, and for each root what its search has come to. The invariant of the
search holds in all of them. -/
namespace BuildRunner.CycleSearch
open Relation
variable {g : Graph} {root : String} {roots : List String} {marks : Marks} {s t : CycleSearch}

/-- An iteration of a search that leads to another one. -/
def Iterates (g : Graph) (s t : CycleSearch) : Prop := s.step g = some (.ok t)

/-- The roots that are still to come and the marks that the searches from earlier roots have left. -/
inductive BetweenRoots (g : Graph) : List String → Marks → Prop
  | first : BetweenRoots g g.targets []
  | pass {root : String} {rest : List String} {marks : Marks}
      (before : BetweenRoots g (root :: rest) marks) (marked : marks.contains root = true) :
      BetweenRoots g rest marks
  | search {root : String} {rest : List String} {marks last : Marks}
      (before : BetweenRoots g (root :: rest) marks) (new : marks.contains root = false)
      (iterations : ReflTransGen (Iterates g) (start marks root) ⟨last, []⟩) :
      BetweenRoots g rest last

/-- A state of the search from a root, before any of its iterations or when none is left. -/
structure AtHead (g : Graph) (root : String) (rest : List String) (s : CycleSearch) : Prop where
  reached : ∃ marks, BetweenRoots g (root :: rest) marks ∧ marks.contains root = false ∧
    ReflTransGen (Iterates g) (start marks root) s

private theorem run_eq_of_iterates (h : ReflTransGen (Iterates g) s t) : s.run g = t.run g := by
  induction h with
  | refl => rfl
  | tail _ hstep ih => rw [ih, run_of_step_ok hstep]

private theorem runAll_cons_of_new {rest : List String} (new : marks.contains root = false) :
    runAll g (root :: rest) marks = ((start marks root).run g).bind (runAll g rest) := by
  rw [runAll, if_neg (Bool.eq_false_iff.mp new)]
  cases (start marks root).run g <;> rfl

/-- What is left of the whole check, once it has come to a root. -/
theorem BetweenRoots.runAll_eq (h : BetweenRoots g roots marks) :
    runAll g g.targets [] = runAll g roots marks := by
  induction h with
  | first => rfl
  | pass _ marked ih => rw [ih, runAll, if_pos marked]
  | search _ new iterations ih =>
    rw [ih, runAll_cons_of_new new, run_eq_of_iterates iterations, run_nil]
    rfl

private theorem AtHead.runAll_eq {rest : List String} (h : AtHead g root rest s) :
    runAll g g.targets [] = (s.run g).bind (runAll g rest) := by
  obtain ⟨marks, before, new, iterations⟩ := h.reached
  rw [before.runAll_eq, runAll_cons_of_new new, run_eq_of_iterates iterations]

private theorem Invariant.iterates (h : Invariant g root s) (hst : ReflTransGen (Iterates g) s t) :
    Invariant g root t := by
  induction hst with
  | refl => exact h
  | tail _ hstep ih => exact ih.step hstep

private theorem AtRest.start_invariant (h : AtRest g marks) (new : marks.contains root = false) :
    Invariant g root (start marks root) := by
  have hlookup : marks.lookup root = none := by simpa [Marks.contains] using new
  exact CycleSearch.start_invariant h.settled h.not_onPath hlookup

private theorem BetweenRoots.atRest (h : BetweenRoots g roots marks) : AtRest g marks := by
  induction h with
  | first => exact atRest_nil g
  | pass _ _ ih => exact ih
  | search _ new iterations ih =>
    exact ((ih.start_invariant new).iterates iterations).atRest rfl

private theorem AtHead.invariant {rest : List String} (h : AtHead g root rest s) :
    Invariant g root s := by
  obtain ⟨marks, before, new, iterations⟩ := h.reached
  exact (before.atRest.start_invariant new).iterates iterations

/-- The name of the frame above, if there is one, is the only exception among the dependencies that a
frame has passed. -/
theorem Scanned.of_append {outer : Option String} {above below : List Frame} {f : Frame}
    (h : Scanned g marks outer (above ++ f :: below)) :
    ∀ d ∈ g.passed f, marks.Done d ∨ ((above.getLast?.map Frame.name).or outer) = some d := by
  induction above generalizing outer with
  | nil =>
    intro d hd
    exact h.1 d hd
  | cons upper above ih =>
    intro d hd
    have hlast : ((upper :: above).getLast?.map Frame.name).or outer =
        (above.getLast?.map Frame.name).or (some upper.name) := by
      rw [List.getLast?_cons]
      cases above.getLast? <;> rfl
    rw [hlast]
    exact ih h.2 d hd

/-- The check ends after its last root, or in an iteration that finds an edge back to the path. -/
theorem BetweenRoots.ends (h : BetweenRoots g roots marks) :
    (∃ last, BetweenRoots g [] last ∧ runAll g g.targets [] = .ok last) ∨
      ∃ root rest s edge, AtHead g root rest s ∧ s.step g = some (.error edge) ∧
        runAll g g.targets [] = .error edge := by
  induction roots generalizing marks with
  | nil => exact .inl ⟨marks, h, h.runAll_eq⟩
  | cons root rest ih =>
    cases hr : marks.contains root with
    | true => exact ih (h.pass hr)
    | false =>
      obtain ⟨⟨last, stack⟩, hreach, ⟨hnil, -⟩ | ⟨edge, hstep, -⟩⟩ := run_induction (g := g)
        (p := ReflTransGen (Iterates g) (start marks root)) (fun s t hs hstep => hs.tail hstep)
        (start marks root) .refl
      · obtain rfl : stack = [] := hnil
        exact ih (h.search hr hreach)
      · have hhead : AtHead g root rest ⟨last, stack⟩ := ⟨marks, h, hr, hreach⟩
        refine .inr ⟨root, rest, _, edge, hhead, hstep, ?_⟩
        rw [hhead.runAll_eq, run_of_step_error hstep]
        rfl

/-- Before every iteration of a search, from whatever root: the names on the path are those of the
stack, each there once; the stack spells a dependency path from the root, with no index behind the
end of its list; what a frame has passed is done, up to the name of the frame above; and what is done
depends on what is done. Between two roots nothing is on the path. The check ends in one of these
states. -/
theorem every_iteration_keeps_the_path (g : Graph) :
    (∀ root rest s, AtHead g root rest s →
      (∀ name, s.marks.OnPath name ↔ name ∈ s.stack.map Frame.name) ∧
      (s.stack.map Frame.name).Nodup ∧
      g.StackPath root s.stack ∧
      (∀ f ∈ s.stack, f.next ≤ (g.dependencies f.name).length) ∧
      (∀ above f below, s.stack = above ++ f :: below →
        ∀ d ∈ (g.dependencies f.name).take f.next,
          s.marks.Done d ∨ above.getLast?.map Frame.name = some d) ∧
      (∀ name, s.marks.Done name → ∀ d ∈ g.dependencies name, s.marks.Done d)) ∧
    (∀ roots marks, BetweenRoots g roots marks → ∀ name, ¬ marks.OnPath name) ∧
    ((∃ last, BetweenRoots g [] last ∧ runAll g g.targets [] = .ok last) ∨
      ∃ root rest s edge, AtHead g root rest s ∧ s.step g = some (.error edge) ∧
        runAll g g.targets [] = .error edge) := by
  refine ⟨?_, ?_, BetweenRoots.first.ends⟩
  · intro root rest s h
    have hinv := h.invariant
    refine ⟨hinv.onPath_iff, hinv.nodup, hinv.path, hinv.next_le, ?_, hinv.settled.closed⟩
    intro above f below hstack d hd
    have hscanned := hinv.scanned
    rw [hstack] at hscanned
    simpa using hscanned.of_append d hd
  · intro roots marks h
    exact h.atRest.not_onPath

/-- The search from the second root, two frames deep, with the marks of the first root left. -/
theorem second_root_keeps_the_path :
    let g : Graph := ⟨.ofList [("b", []), ("run", ["b", "a"]), ("a", ["b"])], .empty⟩
    let s : CycleSearch := ⟨[("a", .onPath), ("run", .onPath), ("b", .done), ("b", .onPath)],
      [⟨"a", 0⟩, ⟨"run", 2⟩]⟩
    AtHead g "run" ["a"] s ∧ g.StackPath "run" s.stack ∧ s.marks.Done "b" ∧
      ∀ name, s.marks.OnPath name ↔ name ∈ ["a", "run"] := by
  intro g s
  have hb : ReflTransGen (Iterates g) (start [] "b") ⟨[("b", .done), ("b", .onPath)], []⟩ :=
    .single rfl
  have hpass : Iterates g (start [("b", .done), ("b", .onPath)] "run")
      ⟨[("run", .onPath), ("b", .done), ("b", .onPath)], [⟨"run", 1⟩]⟩ := rfl
  have henter : Iterates g ⟨[("run", .onPath), ("b", .done), ("b", .onPath)], [⟨"run", 1⟩]⟩ s := rfl
  have hrun : ReflTransGen (Iterates g) (start [("b", .done), ("b", .onPath)] "run") s :=
    .tail (.single hpass) henter
  have hhead : AtHead g "run" ["a"] s :=
    ⟨_, .search .first (by decide) hb, by decide, hrun⟩
  obtain ⟨hpath, -, hstack, -⟩ := (every_iteration_keeps_the_path g).1 "run" ["a"] s hhead
  exact ⟨hhead, hstack, rfl, hpath⟩

end BuildRunner.CycleSearch
