import BuildRunner.Proofs.Graph.ThinnedWalk

/-! The plan of a target put together from the plans of its dependencies. While a name on no cycle
is visited, the order between two of its dependencies is closed under dependency, so that a visit
appends the plan of the next one without what stands there already. -/
namespace BuildRunner.Graph
open Relation
variable {g : Graph}

/-- The plan of a name by itself. A name that is no target has none, and stands alone. -/
def planAlone (g : Graph) (name : String) : List String :=
  match (g.plan name).result with
  | .ok order => order
  | .error _ => [name]

private theorem postorder_of_leaf {name : String} (h : g.dependencies name = []) :
    g.postorder name = [name] := by
  rw [postorder_eq_recursivePostorder, recursivePostorder, visit_val, h, visitAll_nil]
  rfl

private theorem planAlone_eq_postorder (g : Graph) (name : String) :
    g.planAlone name = g.postorder name := by
  by_cases h : name ∈ g.targets
  · rw [planAlone, plan_of_mem h]
  · rw [planAlone, plan_of_not_mem h, postorder_of_leaf (dependencies_of_not_mem h)]
    rfl

private theorem mem_marked_visitAll {names : List String} {trail : Trail} {pending : String → Prop}
    (h : ∀ name, name ∈ trail.marked ↔ pending name ∨ name ∈ trail.order) (name : String) :
    name ∈ (visitAll g names trail).1.marked ↔
      pending name ∨ name ∈ (visitAll g names trail).1.order := by
  induction names, trail using visitAll.induct g
    (fun visited trail new => ∀ pending : String → Prop,
      (∀ name, name ∈ trail.marked ↔ pending name ∨ name ∈ trail.order) →
      ∀ name, name ∈ (visit g visited trail new).1.marked ↔
        pending name ∨ name ∈ (visit g visited trail new).1.order)
    generalizing pending name with
  | case1 visited trail new ih pending h name =>
    have hmark : ∀ name, name ∈ (trail.mark visited).marked ↔
        (name = visited ∨ pending name) ∨ name ∈ (trail.mark visited).order := fun name => by
      rw [Trail.mark, List.mem_cons, h, or_assoc]
    rw [visit_val]
    simp only [Trail.append, List.mem_append, List.mem_singleton]
    rw [ih hmark]
    tauto
  | case2 trail =>
    rw [visitAll_nil]
    exact h name
  | case3 visited rest trail hd ih =>
    rw [visitAll_of_marked hd]
    exact ih h name
  | case4 visited rest trail hd first ihd ih =>
    rw [visitAll_of_new hd]
    exact ih (ihd pending h) name

/-- A trail between two dependencies of `root`, which is being visited, after the plans in `done`. -/
structure Trail.Between (g : Graph) (root : String) (done : List String) (trail : Trail) : Prop where
  order_eq : trail.order = done.eraseDups
  mem_marked : ∀ name, name ∈ trail.marked ↔ name = root ∨ name ∈ trail.order
  closed : ∀ name ∈ trail.order, ∀ d ∈ g.dependencies name, d ∈ trail.order

namespace Trail.Between
variable {root d : String} {done : List String} {trail : Trail}

private theorem mem_order_iff (h : trail.Between g root done) {name : String} :
    name ∈ trail.order ↔ name ∈ done := by
  rw [h.order_eq, List.mem_eraseDups]

private theorem skip (h : trail.Between g root done) (hback : ¬ g.Reaches d root)
    (hd : d ∈ trail.marked) : trail.Between g root (done ++ g.postorder d) where
  order_eq := by
    have hplaced : d ∈ trail.order := ((h.mem_marked d).mp hd).resolve_left fun he =>
      hback (he ▸ .refl)
    have hall : ∀ name ∈ g.postorder d, name ∈ done := fun name hn =>
      h.mem_order_iff.mp ((mem_postorder.mp hn).mem_of_closed h.closed hplaced)
    have hnone : (g.postorder d).eraseDups.filter (fun name => !done.contains name) = [] :=
      List.filter_eq_nil_iff.mpr fun name hn => by simpa using hall name (List.mem_eraseDups.mp hn)
    rw [eraseDups_append_filter, hnone, List.append_nil, h.order_eq]
  mem_marked := h.mem_marked
  closed := h.closed

private theorem order_visit (h : trail.Between g root done) (hback : ¬ g.Reaches d root)
    (new : d ∉ trail.marked) :
    (visit g d trail new).1.order = (done ++ g.postorder d).eraseDups := by
  have hroot : ∀ name, g.Reaches d name → name ≠ root := fun name hr he => hback (he ▸ hr)
  have hthin : ThinsOut g g (g.Reaches d) trail.marked.contains := {
    within := fun name hr e he => hr.tail (dependsOn_iff.mpr he)
    closed := fun name hr hm e he => by
      have hplaced := ((h.mem_marked name).mp (by simpa using hm)).resolve_left (hroot name hr)
      simpa using (h.mem_marked e).mpr (.inr (h.closed name hplaced e he))
    thinned := fun name _ _ => .refl _ _ _ }
  have hstart : Trail.Shows g (g.Reaches d) trail.marked.contains trail.order trail .empty := {
    marked_iff := fun name _ hout => by
      have hnot : name ∉ trail.marked := by simpa using hout
      exact iff_of_false hnot (Trail.not_marked_empty name)
    order_eq := (List.append_nil _).symm
    blocked := fun name e _ hm => by simpa using hm }
  have hend := hthin.shows_visit .refl (by simpa using new) hstart (Trail.not_marked_empty d) new
  have hplan : (visit g d .empty (Trail.not_marked_empty d)).1.order = g.postorder d := by
    rw [postorder_eq_recursivePostorder, recursivePostorder]
  rw [hend.order_eq, hplan, eraseDups_append_filter, eraseDups_of_nodup (nodup_postorder g d),
    h.order_eq]
  congr 1
  refine List.filter_congr fun name hn => ?_
  have hiff : name ∈ trail.marked ↔ name ∈ done := by
    rw [h.mem_marked, or_iff_right (hroot name (mem_postorder.mp hn)), h.mem_order_iff]
  simp [hiff]

private theorem visit (h : trail.Between g root done) (hback : ¬ g.Reaches d root)
    (new : d ∉ trail.marked) :
    (visit g d trail new).1.Between g root (done ++ g.postorder d) where
  order_eq := h.order_visit hback new
  mem_marked name := by
    rw [← visitAll_singleton new]
    exact mem_marked_visitAll h.mem_marked name
  closed name hn e he := by
    rw [h.order_visit hback new, List.mem_eraseDups, List.mem_append] at hn ⊢
    rcases hn with hn | hn
    · exact .inl (h.mem_order_iff.mp (h.closed name (h.mem_order_iff.mpr hn) e he))
    · exact .inr (mem_postorder.mpr ((mem_postorder.mp hn).tail (dependsOn_iff.mpr he)))

private theorem visitAll {names : List String} (h : trail.Between g root done)
    (hback : ∀ d ∈ names, ¬ g.Reaches d root) :
    (visitAll g names trail).1.Between g root (done ++ names.flatMap g.postorder) := by
  induction names generalizing trail done with
  | nil => simpa [visitAll_nil] using h
  | cons d rest ih =>
    obtain ⟨hd, hrest⟩ := List.forall_mem_cons.mp hback
    rw [List.flatMap_cons, ← List.append_assoc]
    by_cases hm : d ∈ trail.marked
    · rw [visitAll_of_marked hm]
      exact ih (h.skip hd hm) hrest
    · rw [visitAll_of_new hm]
      exact ih (h.visit hd hm) hrest

end Trail.Between

/-- The plan of a name on no cycle is that of its dependencies, one after the other, and the name. -/
theorem postorder_eq_of_not_requires_self {root : String} (h : ¬ g.Requires root root) :
    g.postorder root = ((g.dependencies root).flatMap g.postorder).eraseDups ++ [root] := by
  have hstart : (Trail.empty.mark root).Between g root [] := {
    order_eq := rfl
    mem_marked := fun name => by simp [Trail.mark, Trail.empty]
    closed := nofun }
  have hback : ∀ d ∈ g.dependencies root, ¬ g.Reaches d root := fun d hd hr =>
    h (.head' (dependsOn_iff.mpr hd) hr)
  have hinner := (hstart.visitAll hback).order_eq
  rw [postorder_eq_recursivePostorder, recursivePostorder, visit_val, Trail.append, hinner,
    List.nil_append]

/-- On an acyclic graph the plan of a target is made of what is planned for each of its dependencies
alone, each name where it comes first, and the target. So the part of a dependency is its own plan,
in its order, without the names that are planned for the dependencies ahead of it. -/
theorem plans_compose {t : String} (ha : g.checkCycles = .ok ()) (ht : t ∈ g.targets) :
    (g.plan t).result = .ok (((g.dependencies t).flatMap g.planAlone).eraseDups ++ [t]) ∧
      ∀ before d after, g.dependencies t = before ++ d :: after →
        ∃ later, (g.plan t).result = .ok ((before.flatMap g.planAlone).eraseDups ++
          (g.planAlone d).filter (· ∉ before.flatMap g.planAlone) ++ later) := by
  have hplan : (g.plan t).result =
      .ok (((g.dependencies t).flatMap g.planAlone).eraseDups ++ [t]) := by
    rw [plan_of_mem ht, postorder_eq_of_not_requires_self (checkCycles_eq_ok_iff.mp ha t),
      funext g.planAlone_eq_postorder]
  refine ⟨hplan, fun before d after he => ?_⟩
  have hnodup : (g.planAlone d).Nodup := g.planAlone_eq_postorder d ▸ nodup_postorder g d
  have hpart : ∀ ran : List String, (g.planAlone d).filter (· ∉ ran) =
      (g.planAlone d).filter (!ran.contains ·) := fun ran =>
    List.filter_congr fun name _ => by simp
  rw [hplan, he, List.flatMap_append, List.flatMap_cons, eraseDups_append_filter,
    eraseDups_append_filter, eraseDups_of_nodup hnodup, List.filter_append, hpart]
  simp only [List.append_assoc]
  exact ⟨_, rfl⟩

/-- A name that two dependencies share, an undefined one and a repeated entry. -/
theorem shared_dependency_is_planned_once :
    let g : Graph := ⟨.ofList [("all", ["left", "right", "left"]), ("left", ["base"]),
      ("right", ["base", "ghost"]), ("base", [])], .empty⟩
    g.checkCycles = .ok () ∧ "all" ∈ g.targets ∧ g.planAlone "left" = ["base", "left"] ∧
      g.planAlone "right" = ["base", "ghost", "right"] ∧
      (g.plan "all").result = .ok ["base", "left", "ghost", "right", "all"] := by
  intro g
  have hc : g.checkCycles = .ok () := by decide +kernel
  have ht : "all" ∈ g.targets := by decide
  have hleft : g.planAlone "left" = ["base", "left"] := by decide +kernel
  have hright : g.planAlone "right" = ["base", "ghost", "right"] := by decide +kernel
  refine ⟨hc, ht, hleft, hright, ?_⟩
  have hlist : g.dependencies "all" = ["left", "right", "left"] := by decide
  rw [(plans_compose hc ht).1, hlist]
  simp only [List.flatMap_cons, List.flatMap_nil, hleft, hright]
  decide

end BuildRunner.Graph
