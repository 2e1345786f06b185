import BuildRunner.Error
import BuildRunner.Graph.Traversal

/-! The search for a dependency cycle. Targets are roots in their order, dependencies are scanned
in list order, and marks stay from root to root; the first dependency found on the current path
closes a cycle. -/
namespace BuildRunner

inductive Mark where
  /-- The name is on the path from the root to the top of the stack. -/
  | onPath
  /-- All that the name depends on has been searched. -/
  | done
deriving DecidableEq, Repr

/-- Later marks of a name stand before earlier ones. -/
abbrev Marks := List (String × Mark)

def Marks.contains (marks : Marks) (name : String) : Bool := (marks.lookup name).isSome

structure Edge where
  dependent : String
  dependency : String
deriving DecidableEq, Repr

structure CycleSearch where
  marks : Marks
  stack : List Frame

namespace CycleSearch

def start (marks : Marks) (root : String) : CycleSearch :=
  ⟨(root, .onPath) :: marks, [.enter root]⟩

/-- One iteration. There is none when the stack is empty; an edge back to the path ends the search. -/
def step (g : Graph) (s : CycleSearch) : Option (Except Edge CycleSearch) :=
  match s.stack with
  | [] => none
  | top :: below =>
    match g.nextDependency? top with
    | none => some (.ok ⟨(top.name, .done) :: s.marks, below⟩)
    | some d =>
      match s.marks.lookup d with
      | some .onPath => some (.error ⟨top.name, d⟩)
      | some .done => some (.ok ⟨s.marks, top.advance :: below⟩)
      | none => some (.ok ⟨(d, .onPath) :: s.marks, .enter d :: top.advance :: below⟩)

def work (g : Graph) (s : CycleSearch) : Nat := g.work s.marks.contains s.stack

theorem contains_cons (marks : Marks) (name other : String) (mark : Mark) :
    Marks.contains ((name, mark) :: marks) other = (marks.contains other || other == name) := by
  by_cases h : other = name
  · simp [Marks.contains, h]
  · simp [Marks.contains, List.lookup_cons, beq_eq_false_iff_ne.mpr h]

theorem step_eq_none {g : Graph} {s : CycleSearch} : s.step g = none ↔ s.stack = [] := by
  unfold step
  cases s.stack with
  | nil => simp
  | cons top below =>
    simp only [reduceCtorEq, iff_false]
    split
    · simp
    · split <;> simp

/-- An iteration leaves the top name, passes a name that is done, or enters an unmarked one. -/
theorem step_ok_cases {g : Graph} {s t : CycleSearch} (h : s.step g = some (.ok t)) :
    ∃ top below, s.stack = top :: below ∧
      ((g.nextDependency? top = none ∧ t = ⟨(top.name, .done) :: s.marks, below⟩) ∨
        ∃ d, g.nextDependency? top = some d ∧
          ((s.marks.lookup d = some .done ∧ t = ⟨s.marks, top.advance :: below⟩) ∨
            (s.marks.lookup d = none ∧
              t = ⟨(d, .onPath) :: s.marks, .enter d :: top.advance :: below⟩))) := by
  unfold step at h
  split at h
  · cases h
  · rename_i top below hs
    refine ⟨top, below, hs, ?_⟩
    split at h
    · rename_i hn
      cases h
      exact .inl ⟨hn, rfl⟩
    · rename_i d hn
      refine .inr ⟨d, hn, ?_⟩
      split at h
      · cases h
      · rename_i hd
        cases h
        exact .inl ⟨hd, rfl⟩
      · rename_i hd
        cases h
        exact .inr ⟨hd, rfl⟩

theorem step_error_cases {g : Graph} {s : CycleSearch} {edge : Edge}
    (h : s.step g = some (.error edge)) :
    ∃ top below d, s.stack = top :: below ∧ g.nextDependency? top = some d ∧
      s.marks.lookup d = some .onPath ∧ edge = ⟨top.name, d⟩ := by
  unfold step at h
  split at h
  · cases h
  · rename_i top below hs
    split at h
    · cases h
    · rename_i d hn
      split at h
      · rename_i hd
        cases h
        exact ⟨top, below, d, hs, hn, hd, rfl⟩
      · cases h
      · cases h

theorem work_step {g : Graph} {s t : CycleSearch} (h : s.step g = some (.ok t)) :
    t.work g < s.work g := by
  obtain ⟨marks, stack⟩ := s
  obtain ⟨top, below, rfl, ⟨hn, rfl⟩ | ⟨d, hn, ⟨-, rfl⟩ | ⟨hd, rfl⟩⟩⟩ := step_ok_cases h
  · have hle := g.work_mono marks.contains (Marks.contains ((top.name, .done) :: marks)) below
      (fun n hn => by rw [contains_cons, hn, Bool.true_or])
    have := g.work_leave marks.contains below hn
    simp only [work]
    omega
  · have := g.work_advance marks.contains below hn
    simp only [work]
    omega
  · have hnew : marks.contains d = false := by
      simp only at hd
      simp [Marks.contains, hd]
    have := g.work_enter marks.contains (Marks.contains ((d, .onPath) :: marks)) below hn hnew
      (contains_cons marks d · _)
    simp only [work]
    omega

/-- Runs until the stack is empty, with the marks at the end, or until an edge closes a cycle. -/
def run (g : Graph) (s : CycleSearch) : Except Edge Marks :=
  match _ : s.step g with
  | none => .ok s.marks
  | some (.error edge) => .error edge
  | some (.ok next) => run g next
termination_by s.work g
decreasing_by exact work_step ‹_›

/-- Searches from every root that no earlier search has marked. -/
def runAll (g : Graph) : List String → Marks → Except Edge Marks
  | [], marks => .ok marks
  | root :: rest, marks =>
    if marks.contains root then runAll g rest marks
    else
      match run g (start marks root) with
      | .error edge => .error edge
      | .ok next => runAll g rest next

end CycleSearch

def Graph.checkCycles (g : Graph) : Except BuildError Unit :=
  match CycleSearch.runAll g g.targets [] with
  | .error edge => .error (.cycleDetected edge.dependent edge.dependency)
  | .ok _ => .ok ()

end BuildRunner
