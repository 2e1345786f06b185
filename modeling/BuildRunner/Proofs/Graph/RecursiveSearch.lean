import BuildRunner.Proofs.Graph.CycleDetection
import BuildRunner.Proofs.Graph.Recursion

/-! The search for a cycle as a recursion without a stack: a name is on the path while its
dependencies are searched, and done after them. The search with a stack has the same result on every
graph, down to the edge that it reports. -/
namespace BuildRunner

namespace Marks

private theorem kept_mark (marks : Marks) (name : String) (mark : Mark) :
    Graph.Kept marks.contains (Marks.contains ((name, mark) :: marks)) := fun other h => by
  rw [CycleSearch.contains_cons, h, Bool.true_or]

end Marks

namespace Graph

mutual

/-- Puts a name on the path, searches what it depends on, and marks the name as done. -/
def search (g : Graph) (name : String) (marks : Marks) (_ : marks.lookup name = none) :
    Except Edge {later : Marks // Kept marks.contains later.contains} :=
  (searchAll g name (g.dependencies name) ((name, .onPath) :: marks)).map fun inner =>
    ⟨(name, .done) :: inner.1, (marks.kept_mark _ _).trans (inner.2.trans (inner.1.kept_mark _ _))⟩
termination_by (g.unmarkedCount marks.contains, 1)
decreasing_by
  exact lex_enter (marks.kept_mark _ _) (by simp [Marks.contains, ‹marks.lookup name = none›])
    (by simp [CycleSearch.contains_cons])

/-- Looks at the dependencies of a name in their order. The first one on the path ends the search,
those without a mark are searched. -/
def searchAll (g : Graph) (dependent : String) : (dependencies : List String) → (marks : Marks) →
    Except Edge {later : Marks // Kept marks.contains later.contains}
  | [], marks => .ok ⟨marks, .refl _⟩
  | d :: rest, marks =>
    match found : marks.lookup d with
    | some .onPath => .error ⟨dependent, d⟩
    | some .done => searchAll g dependent rest marks
    | none =>
      (search g d marks found).bind fun first =>
        (searchAll g dependent rest first.1).map fun last => ⟨last.1, first.2.trans last.2⟩
termination_by dependencies marks => (g.unmarkedCount marks.contains, 2 * dependencies.length)
decreasing_by
  · exact lex_shorter (.refl _) (by simp)
  · exact lex_shorter (.refl _) (by simp; omega)
  · exact lex_shorter first.2 (by simp)

end

/-- Searches from every root that no earlier search has marked. -/
def searchRoots (g : Graph) : List String → Marks → Except Edge Marks
  | [], marks => .ok marks
  | root :: rest, marks =>
    if new : marks.lookup root = none then
      (search g root marks new).bind fun later => searchRoots g rest later.1
    else searchRoots g rest marks

/-- The recursive search from all targets, with the marks kept from one to the next. -/
def recursiveCheck (g : Graph) : Except BuildError Unit :=
  match searchRoots g g.targets [] with
  | .error edge => .error (.cycleDetected edge.dependent edge.dependency)
  | .ok _ => .ok ()

section
variable {g : Graph} {marks : Marks} {dependent d : String} {rest : List String}

theorem searchAll_nil (dependent : String) (marks : Marks) :
    searchAll g dependent [] marks = .ok ⟨marks, .refl _⟩ := by
  rw [searchAll]

theorem searchAll_of_onPath (h : marks.OnPath d) :
    searchAll g dependent (d :: rest) marks = .error ⟨dependent, d⟩ := by
  rw [searchAll]
  split <;> simp_all [Marks.OnPath]

theorem searchAll_of_done (h : marks.Done d) :
    searchAll g dependent (d :: rest) marks = searchAll g dependent rest marks := by
  rw [searchAll]
  split <;> simp_all [Marks.Done]

theorem searchAll_of_new (h : marks.lookup d = none) :
    searchAll g dependent (d :: rest) marks =
      (search g d marks h).bind fun first =>
        (searchAll g dependent rest first.1).map fun last => ⟨last.1, first.2.trans last.2⟩ := by
  rw [searchAll]
  split <;> simp_all

end

end Graph

namespace CycleSearch
open BuildRunner.Graph
variable {g : Graph} {marks : Marks} {f : Frame} {below : List Frame} {root d : String}
variable {rest : List String}

private theorem run_leave (h : g.ahead f = []) :
    (mk marks (f :: below)).run g =
      (mk ((f.name, .done) :: marks) below).run g := by
  refine run_of_step_ok ?_
  simp [step, nextDependency?_eq_head?, h]

private theorem run_stop (h : g.ahead f = d :: rest) (hd : marks.OnPath d) :
    (mk marks (f :: below)).run g = .error ⟨f.name, d⟩ := by
  rw [Marks.OnPath] at hd
  refine run_of_step_error ?_
  simp [step, nextDependency?_eq_head?, h, hd]

private theorem run_pass (h : g.ahead f = d :: rest) (hd : marks.Done d) :
    (mk marks (f :: below)).run g =
      (mk marks (f.advance :: below)).run g := by
  rw [Marks.Done] at hd
  refine run_of_step_ok ?_
  simp [step, nextDependency?_eq_head?, h, hd]

private theorem run_enter (h : g.ahead f = d :: rest) (hd : marks.lookup d = none) :
    (mk marks (f :: below)).run g =
      (mk ((d, .onPath) :: marks) (.enter d :: f.advance :: below)).run g := by
  refine run_of_step_ok ?_
  simp [step, nextDependency?_eq_head?, h, hd]

/-- A frame on top does what searching the dependencies ahead of it does, and is left then. -/
theorem run_frame {names : List String} {f : Frame} (h : g.ahead f = names) (marks : Marks)
    (below : List Frame) :
    (mk marks (f :: below)).run g =
      (searchAll g f.name names marks).bind fun later =>
        (mk ((f.name, .done) :: later.1) below).run g := by
  generalize hname : f.name = name
  -- the induction follows the recursion; of one name it says what the frame entered for it does
  induction name, names, marks using searchAll.induct g
    (fun name marks new => ∀ below,
      (mk ((name, .onPath) :: marks) (.enter name :: below)).run g =
        (search g name marks new).bind fun later => (mk later.1 below).run g)
    generalizing f below with
  | case1 name marks new ih =>
    rw [ih (g.ahead_enter name) _ rfl, search]
    cases searchAll g name (g.dependencies name) ((name, .onPath) :: marks) <;> rfl
  | case2 dependent marks =>
    rw [run_leave h, searchAll_nil, hname]
    rfl
  | case3 dependent d rest marks hd =>
    rw [run_stop h hd, searchAll_of_onPath hd, hname]
    rfl
  | case4 dependent d rest marks hd ih =>
    rw [run_pass h hd, ih (ahead_advance h) _ hname, searchAll_of_done hd]
  | case5 dependent d rest marks hd ihd ih =>
    rw [run_enter h hd, ihd, searchAll_of_new hd]
    cases search g d marks hd with
    | error edge => rfl
    | ok first =>
      refine (ih first (ahead_advance h) below hname).trans ?_
      simp only [Except.bind]
      cases searchAll g dependent rest first.1 <;> rfl

private theorem run_start (new : marks.lookup root = none) :
    (start marks root).run g = (search g root marks new).map (·.1) := by
  have hname : (Frame.enter root).name = root := rfl
  rw [start, run_frame (g.ahead_enter root), search, hname]
  simp only [run_nil]
  cases searchAll g root (g.dependencies root) ((root, .onPath) :: marks) <;> rfl

theorem runAll_eq_searchRoots (roots : List String) (marks : Marks) :
    runAll g roots marks = searchRoots g roots marks := by
  induction roots generalizing marks with
  | nil => rfl
  | cons root rest ih =>
    have hmarked : marks.contains root = true ↔ marks.lookup root ≠ none := by
      rw [Marks.contains, Option.isSome_iff_ne_none]
    rw [runAll, searchRoots]
    by_cases hr : marks.lookup root = none
    · rw [if_neg (mt hmarked.mp (not_not.mpr hr)), dif_pos hr, run_start hr]
      cases search g root marks hr with
      | error edge => rfl
      | ok later => exact ih later.1
    · rw [if_pos (hmarked.mpr hr), dif_neg hr, ih]

end CycleSearch

namespace Graph

/-- The check for cycles has the result of the recursive search, the reported edge included. -/
theorem cycle_check_is_recursive_search (g : Graph) : g.checkCycles = g.recursiveCheck := by
  have hroots : CycleSearch.runAll g g.targets [] = searchRoots g g.targets [] :=
    CycleSearch.runAll_eq_searchRoots g.targets []
  cases hresult : searchRoots g g.targets [] with
  | error edge => simp only [checkCycles, recursiveCheck, hroots, hresult]
  | ok marks => simp only [checkCycles, recursiveCheck, hroots, hresult]

end Graph
end BuildRunner
