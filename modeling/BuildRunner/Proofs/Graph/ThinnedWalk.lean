import BuildRunner.Proofs.Graph.RecursiveWalk
import BuildRunner.Proofs.Graph.Thinning

/-! Two walks in lock step, of which one enters hidden names that the other passes over. Where
dependencies of hidden names are hidden, the names entered there leave no trace but themselves: the
orders are the same up to hidden names. -/
namespace BuildRunner.Graph
variable {g thin : Graph} {inside : String → Prop} {hidden : String → Bool}

/-- Inside a set of names that dependencies do not leave, a graph has the lists of another thinned
out, except that a hidden name, which depends on hidden names only, may have any list. -/
structure ThinsOut (g thin : Graph) (inside : String → Prop) (hidden : String → Bool) : Prop where
  within : ∀ name, inside name → ∀ d ∈ g.dependencies name, inside d
  closed : ∀ name, inside name → hidden name = true → ∀ d ∈ g.dependencies name, hidden d = true
  thinned : ∀ name, inside name → hidden name = false →
    Thinned hidden [] (g.dependencies name) (thin.dependencies name)

namespace Trail

/-- A trail shows another one, after names of its own that stand in `base`. Hidden names are left
out; those that the thinner lists still hold are marked, so that no walk through them enters one. -/
structure Shows (thin : Graph) (inside : String → Prop) (hidden : String → Bool)
    (base : List String) (short full : Trail) : Prop where
  marked_iff : ∀ name, inside name → hidden name = false →
    (name ∈ short.marked ↔ name ∈ full.marked)
  order_eq : short.order = base ++ full.order.filter (!hidden ·)
  blocked : ∀ name, ∀ d ∈ thin.dependencies name, hidden d = true → d ∈ short.marked

namespace Shows
variable {base : List String} {short full : Trail} {name : String}

private theorem mark (h : Shows thin inside hidden base short full) (name : String) :
    Shows thin inside hidden base (short.mark name) (full.mark name) where
  marked_iff other hin hout := by
    rw [Trail.mark, Trail.mark, List.mem_cons, List.mem_cons, h.marked_iff other hin hout]
  order_eq := h.order_eq
  blocked other d hd hhid := List.mem_cons_of_mem name (h.blocked other d hd hhid)

private theorem mark_hidden (h : Shows thin inside hidden base short full)
    (hname : hidden name = true) :
    Shows thin inside hidden base short (full.mark name) where
  marked_iff other hin hout := by
    rw [h.marked_iff other hin hout, Trail.mark, List.mem_cons,
      or_iff_right (ne_of_hidden hname hout).symm]
  order_eq := h.order_eq
  blocked := h.blocked

private theorem append (h : Shows thin inside hidden base short full)
    (hname : hidden name = false) :
    Shows thin inside hidden base (short.append name) (full.append name) where
  marked_iff := h.marked_iff
  order_eq := by
    have hkept : [name].filter (!hidden ·) = [name] := by simp [hname]
    rw [Trail.append, Trail.append, h.order_eq, List.filter_append, hkept, List.append_assoc]
  blocked := h.blocked

private theorem append_hidden (h : Shows thin inside hidden base short full)
    (hname : hidden name = true) :
    Shows thin inside hidden base short (full.append name) where
  marked_iff := h.marked_iff
  order_eq := by
    have hgone : [name].filter (!hidden ·) = [] := by simp [hname]
    rw [Trail.append, h.order_eq, List.filter_append, hgone, List.append_nil]
  blocked := h.blocked

end Shows
end Trail

private theorem mem_marked_visit {name : String} {trail : Trail} (new : name ∉ trail.marked) :
    name ∈ (visit g name trail new).1.marked := by
  have hkept := (visitAll g (g.dependencies name) (trail.mark name)).2 name (by simp [Trail.mark])
  rw [visit_val]
  simpa [Trail.append] using hkept

private theorem mem_marked_of_kept {trail later : Trail}
    (h : Kept trail.marked.contains later.marked.contains)
    {name : String} (hname : name ∈ trail.marked) : name ∈ later.marked := by
  simpa using h name (by simpa using hname)

/-- A walk through the thinner lists shows the walk through the full ones, and so it does after each
name of the walk. -/
theorem ThinsOut.shows_visitAll (h : ThinsOut g thin inside hidden) {base : List String}
    {names met few : List String} {full short : Trail} (hthin : Thinned hidden met names few)
    (hin : ∀ name ∈ names, inside name) (hmet : ∀ name ∈ met, name ∈ full.marked)
    (hfew : ∀ name ∈ few, hidden name = true → name ∈ short.marked)
    (hs : Trail.Shows thin inside hidden base short full) :
    Trail.Shows thin inside hidden base (visitAll thin few short).1 (visitAll g names full).1 := by
  -- the induction follows the walk that enters more; of one of its visits it says that the other
  -- walk visits the name too, or stays where it is if the name is hidden
  induction names, full using visitAll.induct g
    (fun name full new => inside name → ∀ short, Trail.Shows thin inside hidden base short full →
      (hidden name = true → Trail.Shows thin inside hidden base short (visit g name full new).1) ∧
      (hidden name = false → ∀ new', Trail.Shows thin inside hidden base
        (visit thin name short new').1 (visit g name full new).1))
    generalizing met few short with
  | case1 name full new ih hname short hs =>
    constructor
    · intro hhid
      have hnone := Thinned.of_hidden (h.closed name hname hhid) []
      have hinner := ih hnone (h.within name hname) (List.forall_mem_nil _) (List.forall_mem_nil _)
        (hs.mark_hidden hhid)
      rw [visitAll_nil] at hinner
      rw [visit_val]
      exact hinner.append_hidden hhid
    · intro hout new'
      have hinner := ih (h.thinned name hname hout) (h.within name hname)
        (List.forall_mem_nil _) (fun d hd hhid => List.mem_cons_of_mem name (hs.blocked name d hd hhid)) (hs.mark name)
      rw [visit_val, visit_val]
      exact hinner.append hout
  | case2 full =>
    cases hthin
    rw [visitAll_nil, visitAll_nil]
    exact hs
  | case3 name rest full hd ih =>
    obtain ⟨hname, hrest⟩ := List.forall_mem_cons.mp hin
    rw [visitAll_of_marked hd]
    cases hthin with
    | keep _ hthin =>
      obtain ⟨hfirst, hfew⟩ := List.forall_mem_cons.mp hfew
      have hmarked : name ∈ short.marked := by
        cases hhid : hidden name with
        | true => exact hfirst hhid
        | false => exact (hs.marked_iff name hname hhid).mpr hd
      rw [visitAll_of_marked hmarked]
      exact ih hthin hrest (List.forall_mem_cons.mpr ⟨hd, hmet⟩) hfew hs
    | drop _ hthin => exact ih hthin hrest hmet hfew hs
  | case4 name rest full hd first ihd ih =>
    obtain ⟨hname, hrest⟩ := List.forall_mem_cons.mp hin
    obtain ⟨hpass, hvisit⟩ := ihd hname short hs
    have hmet' : ∀ other ∈ met, other ∈ first.1.marked := fun other ho =>
      mem_marked_of_kept first.2 (hmet other ho)
    rw [visitAll_of_new hd]
    cases hthin with
    | keep _ hthin =>
      obtain ⟨hfirst, hfew⟩ := List.forall_mem_cons.mp hfew
      have hmet'' := List.forall_mem_cons.mpr ⟨mem_marked_visit (g := g) hd, hmet'⟩
      cases hhid : hidden name with
      | true =>
        rw [visitAll_of_marked (hfirst hhid)]
        exact ih hthin hrest hmet'' hfew (hpass hhid)
      | false =>
        have hnew : name ∉ short.marked := mt (hs.marked_iff name hname hhid).mp hd
        rw [visitAll_of_new hnew]
        refine ih hthin hrest hmet'' (fun other ho hoh => ?_) (hvisit hhid hnew)
        exact mem_marked_of_kept (visit thin name short hnew).2 (hfew other ho hoh)
    | drop needless hthin =>
      have hhid : hidden name = true := needless.resolve_right fun hm => hd (hmet name hm)
      exact ih hthin hrest hmet' hfew (hpass hhid)

theorem visitAll_singleton {name : String} {trail : Trail} (new : name ∉ trail.marked) :
    (visitAll g [name] trail).1 = (visit g name trail new).1 := by
  rw [visitAll_of_new new, visitAll_nil]

theorem ThinsOut.shows_visit (h : ThinsOut g thin inside hidden) {base : List String}
    {name : String} {full short : Trail} (hname : inside name) (hout : hidden name = false)
    (hs : Trail.Shows thin inside hidden base short full) (new : name ∉ full.marked)
    (new' : name ∉ short.marked) :
    Trail.Shows thin inside hidden base (visit thin name short new').1 (visit g name full new).1 := by
  rw [← visitAll_singleton new, ← visitAll_singleton new']
  refine h.shows_visitAll (.refl hidden [] [name]) (List.forall_mem_singleton.mpr hname)
    (List.forall_mem_nil _) (List.forall_mem_singleton.mpr fun hhid => ?_) hs
  exact absurd hhid (Bool.eq_false_iff.mp hout)

namespace Pruned

private theorem thinsOut (h : Pruned g thin hidden) : ThinsOut g thin (fun _ => True) hidden where
  within _ _ _ _ := trivial
  closed name _ hname d hd := by
    rw [h.leaf hname] at hd
    cases hd
  thinned name _ _ := h.thinned name

private theorem shows_empty (h : Pruned g thin hidden) :
    Trail.Shows thin (fun _ => True) hidden [] .empty .empty where
  marked_iff _ _ _ := Iff.rfl
  order_eq := rfl
  blocked name d hd hhid := absurd hhid (Bool.eq_false_iff.mp (h.shown name d hd))

private theorem postorder (h : Pruned g thin hidden) {root : String} (hroot : hidden root = false) :
    thin.postorder root = (g.postorder root).filter (!hidden ·) := by
  have hs := h.thinsOut.shows_visit trivial hroot h.shows_empty (Trail.not_marked_empty root)
    (Trail.not_marked_empty root)
  rw [postorder_eq_recursivePostorder, postorder_eq_recursivePostorder, recursivePostorder,
    recursivePostorder, hs.order_eq, List.nil_append]

/-- Plans lose the hidden names and keep the order of the others. -/
theorem plan_result (h : Pruned g thin hidden) (t : String) :
    (thin.plan t).result = (g.plan t).result.map (·.filter (!hidden ·)) := by
  by_cases ht : t ∈ g.targets
  · rw [plan_of_mem ht, plan_of_mem (h.targets ▸ ht), h.postorder (h.target_shown t ht)]
    rfl
  · rw [plan_of_not_mem ht, plan_of_not_mem (h.targets ▸ ht)]
    rfl

end Pruned
end BuildRunner.Graph
