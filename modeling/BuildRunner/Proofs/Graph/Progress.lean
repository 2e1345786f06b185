import BuildRunner.Graph.CycleSearch
import BuildRunner.Graph.Plan
import BuildRunner.Proofs.Graph.Recursion

/-! What one iteration of a traversal does, the same for the walk and for the search: it leaves the top
name, passes over a dependency, or enters one that has no mark. The stack may grow, but then a name gets
its mark, and otherwise less is left to scan. -/
namespace BuildRunner

/-- The names of the frames by which a stack has grown. -/
def Frame.pushed (before after : List Frame) : List String :=
  (after.take (after.length - before.length)).map Frame.name

namespace Graph
variable {g : Graph} {marked later : String → Bool} {top : Frame} {below before after : List Frame}
  {name d : String}

/-- Stacked frames, and the dependencies that these have still to scan. -/
def pending (g : Graph) (stack : List Frame) : Nat :=
  stack.length + (stack.flatMap g.ahead).length

/-- Names without a mark, then what is pending, to be compared in this order. -/
def toGo (g : Graph) (marked : String → Bool) (stack : List Frame) : Nat × Nat :=
  (g.unmarkedCount marked, g.pending stack)

/-- What an iteration does to the marks and to the stack. -/
inductive Advances (g : Graph) (marked later : String → Bool) : List Frame → List Frame → Prop
  | leave {top : Frame} {below : List Frame} (scanned : g.nextDependency? top = none)
      (kept : Kept marked later) : Advances g marked later (top :: below) below
  | pass {top : Frame} {below : List Frame} {d : String} (next : g.nextDependency? top = some d)
      (kept : Kept marked later) : Advances g marked later (top :: below) (top.advance :: below)
  | enter {top : Frame} {below : List Frame} {d : String} (next : g.nextDependency? top = some d)
      (new : marked d = false) (marks : ∀ n, later n = (marked n || n == d)) :
      Advances g marked later (top :: below) (.enter d :: top.advance :: below)

private theorem mem_names_of_nextDependency? (h : g.nextDependency? top = some d) : d ∈ g.names :=
  mem_names.mpr (.inr ⟨top.name, List.mem_of_getElem? h⟩)

private theorem pending_leave (g : Graph) (top : Frame) (below : List Frame) :
    g.pending below < g.pending (top :: below) := by
  simp only [pending, List.length_cons, List.flatMap_cons, List.length_append]
  omega

private theorem pending_advance (below : List Frame) (h : g.nextDependency? top = some d) :
    g.pending (top.advance :: below) < g.pending (top :: below) := by
  rw [nextDependency?_eq_head?, List.head?_eq_some_iff] at h
  obtain ⟨rest, hahead⟩ := h
  simp only [pending, List.length_cons, List.flatMap_cons, List.length_append, hahead,
    ahead_advance hahead]
  omega

theorem kept_of_marks (marks : ∀ n, later n = (marked n || n == d)) : Kept marked later :=
  fun n hn => by rw [marks, hn, Bool.true_or]

/-- Marking a name of the graph outweighs whatever is pushed with it. -/
theorem toGo_enter (hname : d ∈ g.names) (new : marked d = false)
    (marks : ∀ n, later n = (marked n || n == d)) :
    Prod.Lex (· < ·) (· < ·) (g.toGo later after) (g.toGo marked before) :=
  .left _ _ (unmarkedCount_lt (kept_of_marks marks) hname new (by simp [marks]))

/-- Names without a mark, each of them once. -/
structure Fresh (marked : String → Bool) (names : List String) : Prop where
  nodup : names.Nodup
  unmarked : ∀ n ∈ names, marked n = false

namespace Fresh
variable {names rest : List String}

theorem nil (marked : String → Bool) : Fresh marked [] := ⟨List.nodup_nil, nofun⟩

theorem singleton (h : marked name = false) : Fresh marked [name] := ⟨by simp, by simpa using h⟩

theorem not_mem (h : Fresh marked names) (hm : marked name = true) : name ∉ names :=
  fun hn => Bool.false_ne_true ((h.unmarked name hn).symm.trans hm)

/-- What is fresh once the first names are marked repeats none of them. -/
theorem append (h : Fresh marked names) (kept : Kept marked later)
    (hmark : ∀ n ∈ names, later n = true) (hrest : Fresh later rest) :
    Fresh marked (names ++ rest) where
  nodup := by
    refine List.nodup_append.mpr ⟨h.nodup, hrest.nodup, fun a ha b hb hab => ?_⟩
    exact hrest.not_mem (hmark a ha) (hab ▸ hb)
  unmarked n hn := by
    rcases List.mem_append.mp hn with hn | hn
    · exact h.unmarked n hn
    · exact Bool.eq_false_iff.mpr fun hm => hrest.not_mem (kept n hm) hn

end Fresh

namespace Advances

theorem kept (h : g.Advances marked later before after) : Kept marked later := by
  cases h with
  | leave _ kept => exact kept
  | pass _ kept => exact kept
  | enter _ _ marks => exact kept_of_marks marks

theorem toGo_lt (h : g.Advances marked later before after) :
    Prod.Lex (· < ·) (· < ·) (g.toGo later after) (g.toGo marked before) := by
  cases h with
  | leave _ kept => exact lex_shorter kept (g.pending_leave _ after)
  | pass next kept => exact lex_shorter kept (pending_advance _ next)
  | enter next new marks => exact toGo_enter (mem_names_of_nextDependency? next) new marks

/-- The stack grows by a name only when this name gets its mark. -/
theorem pushed_cases (h : g.Advances marked later before after) :
    Frame.pushed before after = [] ∨
      ∃ d, Frame.pushed before after = [d] ∧ marked d = false ∧ later d = true := by
  cases h with
  | leave => exact .inl (by simp [Frame.pushed])
  | pass => exact .inl (by simp [Frame.pushed])
  | @enter top below d _ new marks =>
    exact .inr ⟨d, by simp [Frame.pushed, Frame.enter], new, by simp [marks]⟩

theorem fresh_pushed (h : g.Advances marked later before after) :
    Fresh marked (Frame.pushed before after) := by
  obtain hp | ⟨d, hp, hnew, -⟩ := h.pushed_cases
  · exact hp ▸ .nil marked
  · exact hp ▸ .singleton hnew

theorem marked_of_pushed (h : g.Advances marked later before after) :
    ∀ n ∈ Frame.pushed before after, later n = true := by
  obtain hp | ⟨d, hp, -, hmark⟩ := h.pushed_cases
  · simp [hp]
  · simpa [hp] using hmark

end Advances
end Graph

namespace Walk
variable {g : Graph} {w v : Walk}

def toGo (g : Graph) (w : Walk) : Nat × Nat := g.toGo w.visited.contains w.stack

theorem advances (h : w.step g = some v) :
    g.Advances w.visited.contains v.visited.contains w.stack v.stack := by
  obtain ⟨visited, stack, order⟩ := w
  obtain ⟨top, below, rfl, ⟨hn, rfl⟩ | ⟨d, hn, ⟨-, rfl⟩ | ⟨hd, rfl⟩⟩⟩ := step_cases h
  · exact .leave hn (.refl _)
  · exact .pass hn (.refl _)
  · exact .enter hn (by simpa using hd) fun n => by rw [List.contains_cons, Bool.or_comm]

end Walk

namespace CycleSearch
variable {g : Graph} {s t : CycleSearch}

def toGo (g : Graph) (s : CycleSearch) : Nat × Nat := g.toGo s.marks.contains s.stack

theorem advances (h : s.step g = some (.ok t)) :
    g.Advances s.marks.contains t.marks.contains s.stack t.stack := by
  obtain ⟨marks, stack⟩ := s
  obtain ⟨top, below, rfl, ⟨hn, rfl⟩ | ⟨d, hn, ⟨-, rfl⟩ | ⟨hd, rfl⟩⟩⟩ := step_ok_cases h
  · exact .leave hn fun n hm => by rw [contains_cons, hm, Bool.true_or]
  · exact .pass hn (.refl _)
  · have hnew : marks.contains d = false := by
      simp only at hd
      simp [Marks.contains, hd]
    exact .enter hn hnew (contains_cons marks d · .onPath)

/-- The iteration that finds an edge back to the path has still passed over it. -/
theorem advances_of_error {marks : Marks} {top : Frame} {below : List Frame} {edge : Edge}
    (h : (mk marks (top :: below)).step g = some (.error edge)) :
    g.Advances marks.contains marks.contains (top :: below) (top.advance :: below) := by
  obtain ⟨_, _, d, hstack, hn, -, -⟩ := step_error_cases h
  obtain ⟨rfl, rfl⟩ := List.cons.inj hstack
  exact .pass hn (.refl _)

end CycleSearch
end BuildRunner
