import BuildRunner.Graph.Traversal
import Mathlib.Data.List.Chain
import Mathlib.Logic.Relation

/-! Dependency as a relation between names, and the stack of a traversal as a path in it.
Names that are no targets take part as leaves. -/
namespace BuildRunner.Graph
open Relation
variable {g : Graph}

/-- A target depends on every name in its list, whether or not that name is a target. -/
def DependsOn (g : Graph) (name dependency : String) : Prop :=
  name ∈ g.targets ∧ dependency ∈ g.dependencies name

/-- Dependency paths of any length, the empty path included. -/
abbrev Reaches (g : Graph) : String → String → Prop := ReflTransGen g.DependsOn

/-- Transitive dependency: paths with at least one step. -/
abbrev Requires (g : Graph) : String → String → Prop := TransGen g.DependsOn

/-- No name, reachable from a requested target or not, requires itself. -/
def Acyclic (g : Graph) : Prop := ∀ name, ¬ g.Requires name name

theorem dependsOn_iff {name dependency : String} :
    g.DependsOn name dependency ↔ dependency ∈ g.dependencies name :=
  ⟨And.right, fun h => ⟨mem_targets_of_mem_dependencies h, h⟩⟩

/-- A name that is no target takes part as a leaf. -/
theorem dependencies_of_not_mem {name : String} (h : name ∉ g.targets) :
    g.dependencies name = [] :=
  List.eq_nil_iff_forall_not_mem.mpr fun _ hd => h (mem_targets_of_mem_dependencies hd)

theorem dependsOn_of_getElem? {name dependency : String} {i : Nat}
    (h : (g.dependencies name)[i]? = some dependency) : g.DependsOn name dependency :=
  dependsOn_iff.mpr (List.mem_of_getElem? h)

theorem mem_targets_of_requires {a b : String} (h : g.Requires a b) : a ∈ g.targets := by
  obtain ⟨c, hac, -⟩ := TransGen.head'_iff.mp h
  exact hac.1

/-- A set of names that holds the dependencies of its names is never left. -/
theorem Reaches.mem_of_closed {p : String → Prop}
    (closed : ∀ name, p name → ∀ d ∈ g.dependencies name, p d) {a b : String}
    (h : g.Reaches a b) (ha : p a) : p b := by
  induction h with
  | refl => exact ha
  | tail _ hd ih => exact closed _ ih _ hd.2

/-- The dependencies before a frame's index. -/
def passed (g : Graph) (f : Frame) : List String := (g.dependencies f.name).take f.next

@[simp] theorem passed_enter (g : Graph) (name : String) : g.passed (.enter name) = [] := rfl

theorem passed_advance {f : Frame} {d : String} (h : g.nextDependency? f = some d) :
    g.passed f.advance = g.passed f ++ [d] := by
  have hi : (g.dependencies f.name)[f.next]? = some d := h
  rw [passed, passed, Frame.advance, List.take_add_one, hi, Option.toList_some]

theorem passed_of_nextDependency?_eq_none {f : Frame} (h : g.nextDependency? f = none) :
    g.passed f = g.dependencies f.name :=
  List.take_of_length_le (List.getElem?_eq_none_iff.mp h)

theorem advance_next_le {f : Frame} {d : String} (h : g.nextDependency? f = some d) :
    f.advance.next ≤ (g.dependencies f.name).length :=
  (List.getElem?_eq_some_iff.mp h).1

/-- The upper frame was entered as the dependency that the lower frame has just passed. -/
def Entered (g : Graph) (upper lower : Frame) : Prop :=
  ∃ i, lower.next = i + 1 ∧ (g.dependencies lower.name)[i]? = some upper.name

/-- The stack, read from its bottom, is a dependency path from the root. -/
structure StackPath (g : Graph) (root : String) (stack : List Frame) : Prop where
  chain : stack.IsChain g.Entered
  bottom : ∀ f, stack.getLast? = some f → f.name = root

namespace StackPath
variable {root : String} {top : Frame} {below : List Frame}

theorem enter_root (g : Graph) (root : String) : g.StackPath root [.enter root] where
  chain := List.isChain_singleton _
  bottom f hf := by
    obtain rfl : Frame.enter root = f := by simpa using hf
    rfl

theorem leave (h : g.StackPath root (top :: below)) : g.StackPath root below where
  chain := h.chain.tail
  bottom f hf := h.bottom f (by
    cases below with
    | nil => simp at hf
    | cons next rest => simpa [List.getLast?_cons_cons] using hf)

/-- Passing over a dependency changes only the index of the top frame, which no frame refers to. -/
theorem advance (h : g.StackPath root (top :: below)) : g.StackPath root (top.advance :: below) where
  chain := by
    cases below with
    | nil => exact List.isChain_singleton _
    | cons next rest =>
      obtain ⟨hn, hr⟩ := List.isChain_cons_cons.mp h.chain
      exact List.isChain_cons_cons.mpr ⟨hn, hr⟩
  bottom f hf := by
    cases below with
    | nil =>
      obtain rfl : top.advance = f := by simpa using hf
      exact h.bottom top rfl
    | cons next rest =>
      exact h.bottom f (by simpa [List.getLast?_cons_cons] using hf)

theorem enter {d : String} (h : g.StackPath root (top :: below))
    (hd : g.nextDependency? top = some d) :
    g.StackPath root (.enter d :: top.advance :: below) where
  chain := List.isChain_cons_cons.mpr ⟨⟨top.next, rfl, hd⟩, h.advance.chain⟩
  bottom f hf := h.advance.bottom f (by simpa [List.getLast?_cons_cons] using hf)

theorem name_of_singleton (h : g.StackPath root [top]) : top.name = root := h.bottom top rfl

/-- Every name on the stack reaches the name on top. -/
theorem reaches_top (h : g.StackPath root (top :: below)) :
    ∀ name ∈ (top :: below).map Frame.name, g.Reaches name top.name := by
  induction below generalizing top with
  | nil =>
    intro name hn
    obtain rfl : name = top.name := by simpa using hn
    exact .refl
  | cons next rest ih =>
    intro name hn
    rw [List.map_cons, List.mem_cons] at hn
    rcases hn with rfl | hn
    · exact .refl
    · obtain ⟨⟨i, -, hi⟩, -⟩ := List.isChain_cons_cons.mp h.chain
      exact (ih h.leave name hn).tail (dependsOn_of_getElem? hi)

end StackPath

/-- The first name stands before every place of the second. -/
def Precedes (order : List String) (first second : String) : Prop :=
  ∀ before after, order = before ++ second :: after → first ∈ before

theorem Precedes.concat {order : List String} {a b name : String} (h : Precedes order a b)
    (hne : b ≠ name) : Precedes (order ++ [name]) a b := by
  intro before after he
  rcases List.eq_nil_or_concat after with rfl | ⟨rest, last, rfl⟩
  · obtain ⟨-, hb⟩ := List.append_inj' he rfl
    exact absurd (List.head_eq_of_cons_eq hb).symm hne
  · have he' : order ++ [name] = (before ++ b :: rest) ++ [last] := by simpa using he
    exact h before rest (List.append_inj' he' rfl).1

theorem precedes_concat_self {order : List String} {a name : String} (ha : a ∈ order)
    (hn : name ∉ order) : Precedes (order ++ [name]) a name := by
  intro before after he
  rcases List.eq_nil_or_concat after with rfl | ⟨rest, last, rfl⟩
  · exact (List.append_inj' he rfl).1 ▸ ha
  · have he' : order ++ [name] = (before ++ name :: rest) ++ [last] := by simpa using he
    exact absurd ((List.append_inj' he' rfl).1 ▸ by simp) hn

/-- Where direct dependencies come first, transitive dependencies do. -/
theorem precedes_of_requires {order : List String}
    (first : ∀ u ∈ order, ∀ v ∈ g.dependencies u, Precedes order v u) {a b : String}
    (ha : a ∈ order) (h : g.Requires a b) : Precedes order b a := by
  induction h using TransGen.head_induction_on with
  | single hab => exact first _ ha _ hab.2
  | head hac _ ih =>
    intro before after he
    have hc := first _ ha _ hac.2 before after he
    obtain ⟨left, right, rfl⟩ := List.append_of_mem hc
    have hb := ih (he ▸ by simp) left (right ++ _ :: after) (by simpa using he)
    exact List.mem_append_left _ hb

end BuildRunner.Graph
