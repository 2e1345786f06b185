import BuildRunner.Graph.Basic

/-! Depth-first traversals with an explicit stack. A frame scans the dependency list of its name;
names are marked when they are stacked. The work before a traversal, counted in iterations, drops
with every iteration, so traversals end on every graph, cyclic or not. -/
namespace BuildRunner

/-- A name on the stack and the index of the dependency it looks at next. -/
structure Frame where
  name : String
  next : Nat
deriving DecidableEq, Repr

def Frame.enter (name : String) : Frame := ⟨name, 0⟩

def Frame.advance (f : Frame) : Frame := ⟨f.name, f.next + 1⟩

theorem nodup_eraseDups {α : Type} [BEq α] [LawfulBEq α] (l : List α) : l.eraseDups.Nodup := by
  match l with
  | [] => simp
  | a :: rest =>
    have : (rest.filter fun b => !b == a).length < rest.length + 1 :=
      Nat.lt_succ_of_le (List.length_filter_le _ _)
    rw [List.eraseDups_cons, List.nodup_cons]
    exact ⟨by simp, nodup_eraseDups _⟩
termination_by l.length

namespace Graph

/-- Every name in the graph once: the targets and what they depend on. -/
def names (g : Graph) : List String :=
  (g.targets ++ g.targets.flatMap g.dependencies).eraseDups

def nextDependency? (g : Graph) (f : Frame) : Option String := (g.dependencies f.name)[f.next]?

/-- Iterations spent on a name: one for each dependency and one to leave it. -/
def cost (g : Graph) (name : String) : Nat := (g.dependencies name).length + 1

def remaining (g : Graph) (f : Frame) : Nat := (g.dependencies f.name).length - f.next + 1

def totalCost (g : Graph) : List String → Nat
  | [] => 0
  | name :: rest => g.cost name + g.totalCost rest

def totalRemaining (g : Graph) : List Frame → Nat
  | [] => 0
  | f :: rest => g.remaining f + g.totalRemaining rest

/-- Iterations before a traversal at most: all of every unmarked name, the rest of every frame. -/
def work (g : Graph) (marked : String → Bool) (stack : List Frame) : Nat :=
  g.totalCost (g.names.filter (!marked ·)) + g.totalRemaining stack

theorem mem_targets_of_mem_dependencies {g : Graph} {name dependency : String}
    (h : dependency ∈ g.dependencies name) : name ∈ g.targets := by
  simp only [dependencies, dependencies?, OrderedMap.get?] at h
  cases hl : g.adjacency.entries.lookup name with
  | none => simp [hl] at h
  | some list =>
    obtain ⟨before, after, he, -⟩ := List.lookup_eq_some_iff.mp hl
    simp [targets, OrderedMap.keys, he]

theorem mem_names {g : Graph} {name : String} :
    name ∈ g.names ↔ name ∈ g.targets ∨ ∃ target, name ∈ g.dependencies target := by
  simp only [names, List.mem_eraseDups, List.mem_append, List.mem_flatMap]
  constructor
  · rintro (h | ⟨target, -, h⟩)
    · exact .inl h
    · exact .inr ⟨target, h⟩
  · rintro (h | ⟨target, h⟩)
    · exact .inl h
    · exact .inr ⟨target, mem_targets_of_mem_dependencies h, h⟩

theorem nodup_names (g : Graph) : g.names.Nodup := nodup_eraseDups _

private theorem totalCost_erase (g : Graph) {p q : String → Bool} {d : String} (hp : p d = true)
    (hq : ∀ n, q n = (p n && n != d)) :
    ∀ {l : List String}, l.Nodup → d ∈ l →
      g.totalCost (l.filter q) + g.cost d = g.totalCost (l.filter p)
  | a :: rest, hn, hd => by
    rw [List.nodup_cons] at hn
    by_cases ha : a = d
    · subst ha
      have hrest : rest.filter q = rest.filter p :=
        List.filter_congr fun n hmem => by
          have : n ≠ a := fun e => hn.1 (e ▸ hmem)
          simp [hq, this]
      have hqa : q a = false := by simp [hq]
      simp [hqa, hp, hrest, totalCost, Nat.add_comm]
    · have hd' : d ∈ rest := by
        cases hd with
        | head => exact absurd rfl ha
        | tail _ h => exact h
      have ih := totalCost_erase g hp hq hn.2 hd'
      have hqa : q a = p a := by simp [hq, ha]
      cases hpa : p a
      · simpa [hqa, hpa] using ih
      · simp only [totalCost, hqa, hpa, List.filter_cons_of_pos]
        omega

theorem work_leave {g : Graph} (marked : String → Bool) {f : Frame} (rest : List Frame)
    (h : g.nextDependency? f = none) : g.work marked rest + 1 = g.work marked (f :: rest) := by
  rw [nextDependency?, List.getElem?_eq_none_iff] at h
  simp only [work, totalRemaining, remaining]
  omega

theorem work_advance {g : Graph} (marked : String → Bool) {f : Frame} (rest : List Frame)
    {d : String} (h : g.nextDependency? f = some d) :
    g.work marked (f.advance :: rest) + 1 = g.work marked (f :: rest) := by
  obtain ⟨hlt, -⟩ := List.getElem?_eq_some_iff.mp h
  simp only [work, totalRemaining, remaining, Frame.advance]
  omega

theorem work_enter {g : Graph} (marked marked' : String → Bool) {f : Frame} (rest : List Frame)
    {d : String} (h : g.nextDependency? f = some d) (hd : marked d = false)
    (hm : ∀ n, marked' n = (marked n || n == d)) :
    g.work marked' (.enter d :: f.advance :: rest) + 1 = g.work marked (f :: rest) := by
  have hmem : d ∈ g.names := mem_names.mpr (.inr ⟨f.name, List.mem_of_getElem? h⟩)
  have herase := totalCost_erase g (p := fun n => !marked n) (q := fun n => !marked' n) (d := d)
    (by simp [hd]) (fun n => by simp [hm, bne]) g.nodup_names hmem
  obtain ⟨hlt, -⟩ := List.getElem?_eq_some_iff.mp h
  simp only [work, totalRemaining, remaining, Frame.advance, Frame.enter, cost] at *
  omega

/-- Starting from an unmarked name adds no work: its own was among that of the unmarked names. -/
theorem work_root {g : Graph} (marked marked' : String → Bool) {root : String}
    (hroot : root ∈ g.names) (hnew : marked root = false)
    (hm : ∀ n, marked' n = (marked n || n == root)) :
    g.work marked' [.enter root] = g.work marked [] := by
  have herase := totalCost_erase g (p := fun n => !marked n) (q := fun n => !marked' n) (d := root)
    (by simp [hnew]) (fun n => by simp [hm, bne]) g.nodup_names hroot
  simpa only [work, totalRemaining, remaining, Frame.enter, cost, Nat.sub_zero, Nat.add_zero]
    using herase

/-- Marking more names leaves no more work. -/
theorem work_mono {g : Graph} (marked marked' : String → Bool) (stack : List Frame)
    (h : ∀ n, marked n = true → marked' n = true) : g.work marked' stack ≤ g.work marked stack := by
  refine Nat.add_le_add_right ?_ _
  induction g.names with
  | nil => exact Nat.le_refl _
  | cons a rest ih =>
    cases hm : marked a with
    | true => simpa [hm, h a hm] using ih
    | false =>
      cases hm' : marked' a with
      | true => simpa [hm, hm', totalCost] using Nat.le_trans ih (Nat.le_add_left _ (g.cost a))
      | false => simpa [hm, hm', totalCost] using ih

end Graph
end BuildRunner
