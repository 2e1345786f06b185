import BuildRunner.Proofs.Graph.PlanOrder
import BuildRunner.Proofs.Graph.Recursion

/-! The plan of a target as a recursion without a stack: depth first, in post-order, with one set of
marks for the whole walk. The walk with a stack gives the same list on every graph. -/
namespace BuildRunner

namespace Graph

/-- Names marked so far, and names appended so far. -/
structure Trail where
  marked : List String
  order : List String

namespace Trail

def empty : Trail := ⟨[], []⟩

theorem not_marked_empty (name : String) : name ∉ empty.marked := List.not_mem_nil

def mark (trail : Trail) (name : String) : Trail := ⟨name :: trail.marked, trail.order⟩

def append (trail : Trail) (name : String) : Trail := ⟨trail.marked, trail.order ++ [name]⟩

private theorem kept_mark (trail : Trail) (name : String) :
    Kept trail.marked.contains (trail.mark name).marked.contains := fun other h => by
  simp_all [mark]

end Trail

mutual

/-- Marks a name, visits what it depends on, and appends the name. -/
def visit (g : Graph) (name : String) (trail : Trail) (_ : name ∉ trail.marked) :
    {later : Trail // Kept trail.marked.contains later.marked.contains} :=
  let inner := visitAll g (g.dependencies name) (trail.mark name)
  ⟨inner.1.append name, (trail.kept_mark name).trans inner.2⟩
termination_by (g.unmarkedCount trail.marked.contains, 1)
decreasing_by
  exact lex_enter (trail.kept_mark name) (by simpa using ‹name ∉ trail.marked›)
    (by simp [Trail.mark])

/-- Visits names in their order, each if it has no mark when its turn comes. -/
def visitAll (g : Graph) : (names : List String) → (trail : Trail) →
    {later : Trail // Kept trail.marked.contains later.marked.contains}
  | [], trail => ⟨trail, .refl _⟩
  | name :: rest, trail =>
    if marked : name ∈ trail.marked then visitAll g rest trail
    else
      let first := visit g name trail marked
      let last := visitAll g rest first.1
      ⟨last.1, first.2.trans last.2⟩
termination_by names trail => (g.unmarkedCount trail.marked.contains, 2 * names.length)
decreasing_by
  · exact lex_shorter (.refl _) (by simp)
  · exact lex_shorter (.refl _) (by simp; omega)
  · exact lex_shorter first.2 (by simp)

end

section
variable {g : Graph} {name : String} {rest : List String} {trail : Trail}

theorem visit_val (new : name ∉ trail.marked) :
    (visit g name trail new).1 =
      (visitAll g (g.dependencies name) (trail.mark name)).1.append name := by
  rw [visit]

theorem visitAll_nil (trail : Trail) : (visitAll g [] trail).1 = trail := by
  rw [visitAll]

theorem visitAll_of_marked (h : name ∈ trail.marked) :
    (visitAll g (name :: rest) trail).1 = (visitAll g rest trail).1 := by
  rw [visitAll, dif_pos h]

theorem visitAll_of_new (h : name ∉ trail.marked) :
    (visitAll g (name :: rest) trail).1 = (visitAll g rest (visit g name trail h).1).1 := by
  rw [visitAll, dif_neg h]

end

/-- The names that a visit of the root appends, with nothing marked before. -/
def recursivePostorder (g : Graph) (root : String) : List String :=
  (visit g root .empty (Trail.not_marked_empty root)).1.order

end Graph

/-- A walk that goes on from the names of a trail. -/
def Graph.Trail.walk (trail : Graph.Trail) (stack : List Frame) : Walk :=
  ⟨trail.marked, stack, trail.order⟩

namespace Walk
open BuildRunner.Graph
variable {g : Graph} {trail : Graph.Trail} {f : Frame} {below : List Frame} {d : String}
variable {rest : List String}

private theorem finish_leave (h : g.ahead f = []) :
    (trail.walk (f :: below)).finish g = ((trail.append f.name).walk below).finish g := by
  refine finish_of_step ?_
  simp [Trail.walk, step, nextDependency?_eq_head?, h, Trail.append]

private theorem finish_pass (h : g.ahead f = d :: rest) (hd : d ∈ trail.marked) :
    (trail.walk (f :: below)).finish g = (trail.walk (f.advance :: below)).finish g := by
  refine finish_of_step ?_
  simp [Trail.walk, step, nextDependency?_eq_head?, h, hd]

private theorem finish_enter (h : g.ahead f = d :: rest) (hd : d ∉ trail.marked) :
    (trail.walk (f :: below)).finish g =
      ((trail.mark d).walk (.enter d :: f.advance :: below)).finish g := by
  refine finish_of_step ?_
  simp [Trail.walk, step, nextDependency?_eq_head?, h, hd, Trail.mark]

/-- A frame on top does what visiting the dependencies ahead of it does, and is left then. -/
theorem finish_frame {names : List String} {f : Frame} (h : g.ahead f = names)
    (trail : Graph.Trail) (below : List Frame) :
    (trail.walk (f :: below)).finish g =
      (((visitAll g names trail).1.append f.name).walk below).finish g := by
  -- the induction follows the recursion; of a visit it says what the frame entered for it does
  induction names, trail using visitAll.induct g
    (fun name trail new => ∀ below, ((trail.mark name).walk (.enter name :: below)).finish g =
      ((visit g name trail new).1.walk below).finish g) generalizing f below with
  | case1 name trail new ih =>
    rw [ih (g.ahead_enter name), visit_val]
    rfl
  | case2 trail => rw [finish_leave h, visitAll_nil]
  | case3 name rest trail hd ih =>
    rw [finish_pass h hd, ih (ahead_advance h), visitAll_of_marked hd]
    rfl
  | case4 name rest trail hd first ihd ih =>
    rw [finish_enter h hd, ihd, ih (ahead_advance h), visitAll_of_new hd]
    rfl

end Walk

namespace Graph

theorem postorder_eq_recursivePostorder (g : Graph) (root : String) :
    g.postorder root = g.recursivePostorder root := by
  let inner := visitAll g (g.dependencies root) (Trail.empty.mark root)
  calc g.postorder root
    _ = ((inner.1.append root).walk []).finish g :=
      Walk.finish_frame (g.ahead_enter root) (Trail.empty.mark root) []
    _ = (inner.1.append root).order := Walk.finish_of_stack_eq_nil rfl
    _ = g.recursivePostorder root := by rw [recursivePostorder, visit_val]

/-- The plan of a target is its recursive post-order. -/
theorem plan_is_recursive_postorder (g : Graph) (t : String) :
    (g.plan t).result =
      if t ∈ g.targets then .ok (g.recursivePostorder t) else .error (.targetNotFound t) := by
  split
  · rename_i ht
    rw [plan_of_mem ht, postorder_eq_recursivePostorder]
  · rename_i ht
    rw [plan_of_not_mem ht]
    rfl

end Graph
end BuildRunner
