import BuildRunner.Proofs.Graph.Dependency

/-! Traversals as recursions. A frame stands for the rest of a loop over a dependency list. A
recursion that marks each name that it enters ends, because a graph has finitely many names. -/
namespace BuildRunner.Graph
variable {g : Graph}

/-- The dependencies that a frame has still to look at. -/
def ahead (g : Graph) (f : Frame) : List String := (g.dependencies f.name).drop f.next

@[simp] theorem ahead_enter (g : Graph) (name : String) :
    g.ahead (.enter name) = g.dependencies name := rfl

theorem nextDependency?_eq_head? (g : Graph) (f : Frame) :
    g.nextDependency? f = (g.ahead f).head? := List.head?_drop.symm

theorem ahead_advance {f : Frame} {d : String} {rest : List String} (h : g.ahead f = d :: rest) :
    g.ahead f.advance = rest := by
  have htail : g.ahead f.advance = (g.ahead f).tail := List.tail_drop.symm
  rw [htail, h, List.tail_cons]

/-- No name has lost its mark. -/
def Kept (marked later : String → Bool) : Prop := ∀ name, marked name = true → later name = true

/-- How many names of the graph have no mark. -/
def unmarkedCount (g : Graph) (marked : String → Bool) : Nat :=
  (g.names.filter (!marked ·)).length

section
variable {marked later last : String → Bool}

theorem Kept.refl (marked : String → Bool) : Kept marked marked := fun _ h => h

theorem Kept.trans (h : Kept marked later) (h' : Kept later last) : Kept marked last :=
  fun name hn => h' name (h name hn)

private theorem filter_unmarked (h : Kept marked later) (l : List String) :
    l.filter (!later ·) = (l.filter (!marked ·)).filter (!later ·) := by
  rw [List.filter_filter]
  refine List.filter_congr fun n _ => ?_
  cases hm : marked n with
  | true => simp [h n hm]
  | false => simp

private theorem unmarkedCount_mono (h : Kept marked later) :
    g.unmarkedCount later ≤ g.unmarkedCount marked := by
  rw [unmarkedCount, filter_unmarked h]
  exact List.length_filter_le _ _

theorem unmarkedCount_lt {name : String} (h : Kept marked later)
    (hname : name ∈ g.names) (hnew : marked name = false) (hmark : later name = true) :
    g.unmarkedCount later < g.unmarkedCount marked := by
  rw [unmarkedCount, filter_unmarked h]
  refine List.length_filter_lt_length_iff_exists.mpr ⟨name, ?_, ?_⟩
  · exact List.mem_filter.mpr ⟨hname, by simp [hnew]⟩
  · simp [hmark]

/-- With more marks or as many, a recursion may go on to a shorter list. -/
theorem lex_shorter {i j : Nat} (h : Kept marked later) (hij : i < j) :
    Prod.Lex (· < ·) (· < ·) (g.unmarkedCount later, i) (g.unmarkedCount marked, j) := by
  rw [Prod.lex_def]
  rcases (unmarkedCount_mono h).lt_or_eq with hlt | heq
  · exact .inl hlt
  · exact .inr ⟨heq, hij⟩

/-- A recursion may enter a name without a mark: fewer names are left without one, or the name is
none of the graph's and has no dependencies. -/
theorem lex_enter {name : String} (h : Kept marked later)
    (hnew : marked name = false) (hmark : later name = true) :
    Prod.Lex (· < ·) (· < ·) (g.unmarkedCount later, 2 * (g.dependencies name).length)
      (g.unmarkedCount marked, 1) := by
  by_cases hname : name ∈ g.names
  · exact .left _ _ (unmarkedCount_lt h hname hnew hmark)
  · have hnone : g.dependencies name = [] :=
      dependencies_of_not_mem fun ht => hname (mem_names.mpr (.inl ht))
    rw [hnone]
    exact lex_shorter h Nat.zero_lt_one

end
end BuildRunner.Graph
