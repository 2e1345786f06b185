import BuildRunner.Proofs.Graph.CycleInvariant
import BuildRunner.Proofs.Graph.Progress
import BuildRunner.Proofs.Graph.WalkInvariant

/-! Both traversals end on every graph, cyclic or not. They are run with a limit on their iterations and
with an account of the names they push: the cost of all names, each counted once, is limit enough, and no
name is pushed twice in one traversal, whatever its roots. -/
namespace BuildRunner

/-- What a limited traversal comes to: its result, the iterations left of the limit, and the names that it
has pushed, in order. -/
structure Metered (α : Type) where
  result : α
  left : Nat
  pushed : List String

namespace Metered
variable {α β : Type}

def map (f : α → β) (m : Metered α) : Metered β := ⟨f m.result, m.left, m.pushed⟩

/-- The same with names that were pushed before. -/
def after (names : List String) (m : Metered α) : Metered α := ⟨m.result, m.left, names ++ m.pushed⟩

end Metered

/-- The walk as far as the limit goes. It comes to nothing if an iteration is due and none is left. -/
def Walk.finishWithin (g : Graph) (limit : Nat) (w : Walk) : Option (Metered (List String)) :=
  match w.step g, limit with
  | none, limit => some ⟨w.order, limit, []⟩
  | some _, 0 => none
  | some next, limit + 1 =>
    (finishWithin g limit next).map (.after (Frame.pushed w.stack next.stack))

namespace CycleSearch

/-- The search as far as the limit goes. The iteration that finds an edge back to the path counts. -/
def runWithin (g : Graph) (limit : Nat) (s : CycleSearch) : Option (Metered (Except Edge Marks)) :=
  match s.step g, limit with
  | none, limit => some ⟨.ok s.marks, limit, []⟩
  | some _, 0 => none
  | some (.error edge), limit + 1 => some ⟨.error edge, limit, []⟩
  | some (.ok next), limit + 1 =>
    (runWithin g limit next).map (.after (Frame.pushed s.stack next.stack))

/-- A root with a mark takes no iteration. Each other one is searched with what is left of the limit. -/
def runAllWithin (g : Graph) (limit : Nat) : List String → Marks → Option (Metered (Except Edge Marks))
  | [], marks => some ⟨.ok marks, limit, []⟩
  | root :: rest, marks =>
    if marks.contains root then runAllWithin g limit rest marks
    else
      match runWithin g limit (start marks root) with
      | none => none
      | some ⟨.error edge, left, pushed⟩ => some ⟨.error edge, left, root :: pushed⟩
      | some ⟨.ok next, left, pushed⟩ =>
        (runAllWithin g left rest next).map (.after (root :: pushed))

end CycleSearch

namespace Graph

/-- One iteration for each dependency of each name, and one to leave the name. -/
def iterationLimit (g : Graph) : Nat := g.totalCost g.names

def planWithin (g : Graph) (limit : Nat) (target : String) : Option (Metered (Logged (List String))) :=
  match g.target? target with
  | none => some ⟨.fail (.targetNotFound target), limit, []⟩
  | some root =>
    ((Walk.start root).finishWithin g limit).map fun walk =>
      (walk.after [root]).map fun order => ⟨[.orderComputed target order.length], .ok order⟩

def checkCyclesWithin (g : Graph) (limit : Nat) : Option (Metered (Except BuildError Unit)) :=
  (CycleSearch.runAllWithin g limit g.targets []).map <| .map fun
    | .error edge => .error (.cycleDetected edge.dependent edge.dependency)
    | .ok _ => .ok ()

private theorem work_of_unmarked (g : Graph) {marked : String → Bool} (hm : ∀ n, marked n = false) :
    g.work marked [] = g.iterationLimit := by
  have hall : g.names.filter (!marked ·) = g.names := List.filter_eq_self.mpr (by simp [hm])
  rw [work, hall, totalRemaining, Nat.add_zero, iterationLimit]

end Graph

open BuildRunner.Graph

/-- A walk that may make as many iterations as there is work before it makes them all. -/
theorem Walk.finishWithin_of_work_le {g : Graph} {limit : Nat} {w : Walk} (h : w.work g ≤ limit) :
    ∃ m, w.finishWithin g limit = some m ∧ m.result = w.finish g ∧
      Fresh w.visited.contains m.pushed := by
  fun_induction finishWithin g limit w with
  | case1 w limit hs =>
    exact ⟨_, rfl, (finish_of_stack_eq_nil (step_eq_none.mp hs)).symm, .nil _⟩
  | case2 w next hs =>
    have := work_step hs
    omega
  | case3 w next limit hs ih =>
    have hwork := work_step hs
    have hadv := advances hs
    obtain ⟨m, hm, hresult, hfresh⟩ := ih (by omega)
    refine ⟨m.after (Frame.pushed w.stack next.stack), by rw [hm, Option.map_some], ?_, ?_⟩
    · exact hresult.trans (finish_of_step hs).symm
    · exact hadv.fresh_pushed.append hadv.kept hadv.marked_of_pushed hfresh

namespace CycleSearch
variable {g : Graph} {marks : Marks}

/-- A limited search that ends with marks of its own has kept those that it found, has marked what it
pushed, and leaves as many iterations as the names without a mark may need. -/
structure Afterwards (g : Graph) (marks : Marks) (m : Metered (Except Edge Marks)) (last : Marks) :
    Prop where
  kept : Kept marks.contains last.contains
  marked : ∀ n ∈ m.pushed, last.contains n = true
  enough : g.work last.contains [] ≤ m.left

private theorem work_pos {s : CycleSearch} {next : Except Edge CycleSearch}
    (h : s.step g = some next) :
    0 < s.work g := by
  obtain ⟨marks, stack⟩ := s
  cases stack with
  | nil => simp [step] at h
  | cons top below =>
    simp only [work, Graph.work, totalRemaining, remaining]
    omega

private theorem runWithin_of_work_le {limit : Nat} {s : CycleSearch} (h : s.work g ≤ limit) :
    ∃ m, s.runWithin g limit = some m ∧ m.result = s.run g ∧ Fresh s.marks.contains m.pushed ∧
      ∀ last, m.result = .ok last → Afterwards g s.marks m last := by
  fun_induction runWithin g limit s with
  | case1 s limit hs =>
    obtain ⟨marks, stack⟩ := s
    obtain rfl : stack = [] := step_eq_none.mp hs
    refine ⟨_, rfl, (run_nil marks).symm, .nil _, ?_⟩
    intro last hlast
    cases hlast
    exact ⟨.refl _, nofun, h⟩
  | case2 s next hs =>
    have := work_pos hs
    omega
  | case3 s limit edge hs =>
    exact ⟨_, rfl, (run_of_step_error hs).symm, .nil _, nofun⟩
  | case4 s next limit hs ih =>
    have hwork := work_step hs
    have hadv := advances hs
    obtain ⟨m, hm, hresult, hfresh, hlast⟩ := ih (by omega)
    refine ⟨m.after (Frame.pushed s.stack next.stack), by rw [hm, Option.map_some], ?_, ?_, ?_⟩
    · exact hresult.trans (run_of_step_ok hs).symm
    · exact hadv.fresh_pushed.append hadv.kept hadv.marked_of_pushed hfresh
    · intro last hl
      obtain ⟨hkept, hmarked, henough⟩ := hlast last hl
      refine ⟨hadv.kept.trans hkept, fun n hn => ?_, henough⟩
      rcases List.mem_append.mp hn with hn | hn
      · exact hkept n (hadv.marked_of_pushed n hn)
      · exact hmarked n hn

/-- The searches from all roots together need no more iterations than the names without a mark cost. -/
theorem runAllWithin_of_work_le {limit : Nat} {roots : List String}
    (hroots : ∀ root ∈ roots, root ∈ g.names) (h : g.work marks.contains [] ≤ limit) :
    ∃ m, runAllWithin g limit roots marks = some m ∧ m.result = runAll g roots marks ∧
      Fresh marks.contains m.pushed := by
  induction roots generalizing limit marks with
  | nil => exact ⟨_, rfl, rfl, .nil _⟩
  | cons root rest ih =>
    obtain ⟨hroot, hrest⟩ := List.forall_mem_cons.mp hroots
    rw [runAllWithin, runAll]
    cases hr : marks.contains root with
    | true => exact ih hrest h
    | false =>
      have hmarks (n : String) := contains_cons marks root n .onPath
      have hwork : (start marks root).work g = g.work marks.contains [] :=
        work_root marks.contains _ hroot hr hmarks
      obtain ⟨⟨result, left, pushed⟩, hm, rfl, hfresh, hlast⟩ :=
        runWithin_of_work_le (hwork.trans_le h)
      -- The root is pushed before its search begins.
      have hpushed : Fresh marks.contains (root :: pushed) :=
        (Fresh.singleton hr).append (kept_of_marks hmarks) (by simp [hmarks]) hfresh
      rw [hm]
      cases hrun : (start marks root).run g with
      | error edge => exact ⟨⟨.error edge, left, root :: pushed⟩, by simp, rfl, hpushed⟩
      | ok next =>
        obtain ⟨hkept, hmarked, henough⟩ := hlast next hrun
        obtain ⟨m, hm', hresult, hfresh'⟩ := ih hrest henough
        have hkept' : Kept marks.contains next.contains := (kept_of_marks hmarks).trans hkept
        have hmarked' : ∀ n ∈ root :: pushed, next.contains n = true :=
          List.forall_mem_cons.mpr ⟨hkept root (by simp [start, hmarks]), hmarked⟩
        exact ⟨m.after (root :: pushed), by simp [hm'], hresult,
          hpushed.append hkept' hmarked' hfresh'⟩

end CycleSearch

namespace Graph

private theorem planWithin_iterationLimit (g : Graph) (target : String) :
    ∃ left pushed, g.planWithin g.iterationLimit target = some ⟨g.plan target, left, pushed⟩ ∧
      pushed.Nodup := by
  rw [planWithin, plan]
  cases ht : g.target? target with
  | none => exact ⟨_, [], rfl, List.nodup_nil⟩
  | some root =>
    have hroot : root ∈ g.names := mem_names.mpr (.inl (List.mem_of_find?_eq_some ht))
    have hwork : (Walk.start root).work g = g.iterationLimit := by
      rw [← work_of_unmarked g fun _ => rfl]
      exact work_root _ _ hroot rfl fun n => (List.contains_cons).trans (Bool.or_comm _ _)
    obtain ⟨⟨_, left, pushed⟩, hm, rfl, hfresh⟩ := Walk.finishWithin_of_work_le hwork.le
    have hvisited : (Walk.start root).visited.contains root = true := by simp [Walk.start]
    refine ⟨left, root :: pushed, ?_, List.nodup_cons.mpr ⟨hfresh.not_mem hvisited, hfresh.nodup⟩⟩
    simp only [hm]
    rfl

/-- Where the walk enters every name, one iteration fewer is not enough. -/
example : (planWithin ⟨.ofList [("a", ["b", "a", "b", "x"]), ("b", ["a"])], .empty⟩ 7 "a").isNone := by
  decide

private theorem checkCyclesWithin_iterationLimit (g : Graph) :
    ∃ left pushed, g.checkCyclesWithin g.iterationLimit = some ⟨g.checkCycles, left, pushed⟩ ∧
      pushed.Nodup := by
  have hwork : g.work (Marks.contains []) [] = g.iterationLimit := g.work_of_unmarked fun _ => rfl
  obtain ⟨⟨_, left, pushed⟩, hm, rfl, hfresh⟩ := CycleSearch.runAllWithin_of_work_le
    (fun root hr => mem_names.mpr (.inl hr)) hwork.le
  refine ⟨left, pushed, ?_, hfresh.nodup⟩
  rw [checkCyclesWithin, hm, checkCycles]
  cases CycleSearch.runAll g g.targets [] <;> rfl

/-- Every iteration of the walk and of the search, the one that finds a cycle included, and every new root
of the search leave fewer names without a mark, or as many and less on the stack. A plan and a check for
cycles, each limited to the cost of all names, are never short of an iteration, and push no name twice. -/
theorem traversals_end (g : Graph) :
    (∀ w v : Walk, w.step g = some v → Prod.Lex (· < ·) (· < ·) (v.toGo g) (w.toGo g)) ∧
    (∀ s t : CycleSearch, s.step g = some (.ok t) →
      Prod.Lex (· < ·) (· < ·) (t.toGo g) (s.toGo g)) ∧
    (∀ marks top below edge, (CycleSearch.mk marks (top :: below)).step g = some (.error edge) →
      Prod.Lex (· < ·) (· < ·) ((CycleSearch.mk marks (top.advance :: below)).toGo g)
        ((CycleSearch.mk marks (top :: below)).toGo g)) ∧
    (∀ root ∈ g.targets, ∀ marks : Marks, marks.contains root = false →
      Prod.Lex (· < ·) (· < ·) ((CycleSearch.start marks root).toGo g)
        ((CycleSearch.mk marks []).toGo g)) ∧
    (∀ target, ∃ left pushed,
      g.planWithin g.iterationLimit target = some ⟨g.plan target, left, pushed⟩ ∧ pushed.Nodup) ∧
    ∃ left pushed,
      g.checkCyclesWithin g.iterationLimit = some ⟨g.checkCycles, left, pushed⟩ ∧ pushed.Nodup := by
  refine ⟨?_, ?_, ?_, ?_, g.planWithin_iterationLimit, g.checkCyclesWithin_iterationLimit⟩
  · intro w v hstep
    exact (Walk.advances hstep).toGo_lt
  · intro s t hstep
    exact (CycleSearch.advances hstep).toGo_lt
  · intro marks top below edge hstep
    exact (CycleSearch.advances_of_error hstep).toGo_lt
  · intro root hroot marks hnew
    exact toGo_enter (mem_names.mpr (.inl hroot)) hnew
      fun n => CycleSearch.contains_cons marks root n .onPath

/-- Two names that depend on each other, one of them on itself and on an undefined name as well: they are
planned in eight iterations, which push three names. -/
theorem tangled_graph_is_traversed :
    let g : Graph := ⟨.ofList [("a", ["b", "a", "b", "x"]), ("b", ["a"])], .empty⟩
    let w : Walk := ⟨["b", "a"], [⟨"b", 0⟩, ⟨"a", 1⟩], []⟩
    let s : CycleSearch := ⟨[("b", .onPath), ("a", .onPath)], [⟨"b", 0⟩, ⟨"a", 1⟩]⟩
    Prod.Lex (· < ·) (· < ·) (w.toGo g) ((Walk.start "a").toGo g) ∧
    Prod.Lex (· < ·) (· < ·) (s.toGo g) ((CycleSearch.start [] "a").toGo g) ∧
    Prod.Lex (· < ·) (· < ·) ((CycleSearch.mk s.marks [⟨"b", 1⟩, ⟨"a", 1⟩]).toGo g) (s.toGo g) ∧
    Prod.Lex (· < ·) (· < ·) ((CycleSearch.start [] "a").toGo g) ((CycleSearch.mk [] []).toGo g) ∧
    g.iterationLimit = 8 ∧ g.planWithin 8 "a" = some ⟨g.plan "a", 0, ["a", "b", "x"]⟩ := by
  intro g w s
  obtain ⟨hwalk, hsearch, herror, hroot, hplan, -⟩ := traversals_end g
  have hlimit : g.iterationLimit = 8 := by decide
  have hedge : s.step g = some (.error ⟨"b", "a"⟩) := rfl
  have hpushed : (g.planWithin 8 "a").map (fun m => (m.left, m.pushed)) =
      some (0, ["a", "b", "x"]) := by decide
  obtain ⟨left, pushed, hrun, -⟩ := hplan "a"
  rw [hlimit] at hrun
  rw [hrun] at hpushed
  obtain ⟨rfl, rfl⟩ : left = 0 ∧ pushed = ["a", "b", "x"] := by simpa using hpushed
  exact ⟨hwalk _ w rfl, hsearch _ s rfl, herror s.marks ⟨"b", 0⟩ [⟨"a", 1⟩] _ hedge,
    hroot "a" (by decide) [] rfl, hlimit, hrun⟩

end Graph
end BuildRunner
