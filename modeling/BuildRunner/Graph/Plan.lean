import BuildRunner.Graph.Traversal
import BuildRunner.Log.Logged

/-! The order in which recipes run for one target: depth-first, every name after what it depends
on. A name is marked when it is entered, so it is planned once. -/
namespace BuildRunner

/-- A walk from the requested target: names entered, the stack, and names left so far. -/
structure Walk where
  visited : List String
  stack : List Frame
  order : List String

namespace Walk

def start (root : String) : Walk := ⟨[root], [.enter root], []⟩

def step (g : Graph) (w : Walk) : Option Walk :=
  match w.stack with
  | [] => none
  | top :: below =>
    match g.nextDependency? top with
    | none => some ⟨w.visited, below, w.order ++ [top.name]⟩
    | some d =>
      if w.visited.contains d then some ⟨w.visited, top.advance :: below, w.order⟩
      else some ⟨d :: w.visited, .enter d :: top.advance :: below, w.order⟩

def work (g : Graph) (w : Walk) : Nat := g.work w.visited.contains w.stack

theorem step_eq_none {g : Graph} {w : Walk} : w.step g = none ↔ w.stack = [] := by
  unfold step
  cases w.stack with
  | nil => simp
  | cons top below =>
    simp only [reduceCtorEq, iff_false]
    split
    · simp
    · split <;> simp

/-- An iteration leaves the top name, passes a name entered before, or enters a new one. -/
theorem step_cases {g : Graph} {w v : Walk} (h : w.step g = some v) :
    ∃ top below, w.stack = top :: below ∧
      ((g.nextDependency? top = none ∧ v = ⟨w.visited, below, w.order ++ [top.name]⟩) ∨
        ∃ d, g.nextDependency? top = some d ∧
          ((d ∈ w.visited ∧ v = ⟨w.visited, top.advance :: below, w.order⟩) ∨
            (d ∉ w.visited ∧ v = ⟨d :: w.visited, .enter d :: top.advance :: below, w.order⟩))) := by
  unfold step at h
  split at h
  · cases h
  · rename_i top below hs
    refine ⟨top, below, hs, ?_⟩
    split at h
    · rename_i hn
      cases h
      exact .inl ⟨hn, rfl⟩
    · rename_i d hn
      refine .inr ⟨d, hn, ?_⟩
      split at h
      · rename_i hv
        cases h
        exact .inl ⟨by simpa using hv, rfl⟩
      · rename_i hv
        cases h
        exact .inr ⟨by simpa using hv, rfl⟩

theorem work_step {g : Graph} {w v : Walk} (h : w.step g = some v) : v.work g + 1 = w.work g := by
  obtain ⟨visited, stack, order⟩ := w
  obtain ⟨top, below, rfl, ⟨hn, rfl⟩ | ⟨d, hn, ⟨-, rfl⟩ | ⟨hd, rfl⟩⟩⟩ := step_cases h
  · exact g.work_leave visited.contains below hn
  · exact g.work_advance visited.contains below hn
  · exact g.work_enter visited.contains (d :: visited).contains below hn (by simpa using hd)
      fun n => by rw [List.contains_cons, Bool.or_comm]

/-- The names in the order in which they are left, once the stack is empty. -/
def finish (g : Graph) (w : Walk) : List String :=
  match _ : w.step g with
  | none => w.order
  | some next => finish g next
termination_by w.work g
decreasing_by exact Nat.lt_of_succ_le (Nat.le_of_eq (work_step ‹_›))

end Walk

namespace Graph

def postorder (g : Graph) (root : String) : List String := (Walk.start root).finish g

/-- The names that have to run for a target, the target last. -/
def plan (g : Graph) (target : String) : Logged (List String) :=
  match g.target? target with
  | none => .fail (.targetNotFound target)
  | some root =>
    let order := g.postorder root
    ⟨[.orderComputed target order.length], .ok order⟩

end Graph
end BuildRunner
