import BuildRunner.Proofs.Graph.RecursiveSearch
import BuildRunner.Proofs.Graph.ThinnedWalk

/-! Two searches for a cycle in lock step, of which one passes over hidden names and repeated
entries. A repeated entry is done when its turn comes again, and a hidden name has no dependencies,
so neither is where a cycle closes: both searches find the same edge, or none. -/
namespace BuildRunner

/-- Names that are not hidden carry the same mark, and hidden ones are not on the path. -/
structure Marks.Agree (hidden : String → Bool) (few marks : Marks) : Prop where
  lookup_eq : ∀ name, hidden name = false → few.lookup name = marks.lookup name
  not_onPath : ∀ name, hidden name = true → ¬ marks.OnPath name

namespace Marks
variable {marks : Marks} {name : String}

private theorem not_done_of_onPath (h : marks.OnPath name) : ¬ marks.Done name := by
  intro hd
  rw [Done, h] at hd
  cases hd

private theorem not_done_of_new (h : marks.lookup name = none) : ¬ marks.Done name := by
  intro hd
  rw [Done, h] at hd
  cases hd

end Marks

namespace Marks.Agree
variable {hidden : String → Bool} {few marks : Marks} {name : String}

private theorem mark (h : few.Agree hidden marks) (hname : hidden name = false) (mark : Mark) :
    Marks.Agree hidden ((name, mark) :: few) ((name, mark) :: marks) where
  lookup_eq other hout := by
    rw [lookup_mark, lookup_mark, h.lookup_eq other hout]
  not_onPath other hhid ho := by
    rw [OnPath, lookup_mark, if_neg (ne_of_hidden hhid hname)] at ho
    exact h.not_onPath other hhid ho

private theorem pass_hidden (h : few.Agree hidden marks) (hname : hidden name = true) :
    few.Agree hidden ((name, .done) :: (name, .onPath) :: marks) where
  lookup_eq other hout := by
    have hne : other ≠ name := (ne_of_hidden hname hout).symm
    rw [lookup_mark, lookup_mark, if_neg hne, if_neg hne, h.lookup_eq other hout]
  not_onPath other hhid ho := by
    obtain ⟨hne, ho⟩ := onPath_mark_done.mp ho
    exact h.not_onPath other hhid ((onPath_mark_onPath.mp ho).resolve_left hne)

end Marks.Agree

namespace Graph
variable {g thin : Graph} {hidden : String → Bool}

section
variable {marks : Marks} {name : String} {p q : Marks → Prop}

private theorem search_eq_ok (new : marks.lookup name = none)
    {later : {later : Marks // Kept marks.contains later.contains}}
    (h : search g name marks new = .ok later) :
    ∃ inner, searchAll g name (g.dependencies name) ((name, .onPath) :: marks) = .ok inner ∧
      later.1 = (name, .done) :: inner.1 := by
  rw [search] at h
  cases hinner : searchAll g name (g.dependencies name) ((name, .onPath) :: marks) with
  | error edge =>
    rw [hinner] at h
    cases h
  | ok inner =>
    rw [hinner] at h
    cases h
    exact ⟨inner, rfl, rfl⟩

private theorem search_of_leaf (new : marks.lookup name = none) (h : g.dependencies name = []) :
    ∃ later, search g name marks new = .ok later ∧
      later.1 = (name, .done) :: (name, .onPath) :: marks := by
  rw [search, h, searchAll_nil]
  exact ⟨_, rfl, rfl⟩

private theorem done_of_searchAll {dependent : String} {names : List String}
    {later : {later : Marks // Kept marks.contains later.contains}}
    (h : searchAll g dependent names marks = .ok later) {other : String} (ho : marks.Done other) :
    later.1.Done other := by
  induction dependent, names, marks using searchAll.induct g
    (fun name marks new => ∀ later, search g name marks new = .ok later →
      marks.Done other → later.1.Done other) with
  | case1 name marks new ih later h ho =>
    obtain ⟨inner, hinner, he⟩ := search_eq_ok new h
    rw [he, Marks.done_mark_done]
    exact .inr (ih hinner ((Marks.done_mark_onPath new).mpr ho))
  | case2 dependent marks =>
    rw [searchAll_nil] at h
    cases h
    exact ho
  | case3 dependent d rest marks hd =>
    rw [searchAll_of_onPath hd] at h
    cases h
  | case4 dependent d rest marks hd ih =>
    rw [searchAll_of_done hd] at h
    exact ih h ho
  | case5 dependent d rest marks hd ihd ih =>
    rw [searchAll_of_new hd] at h
    cases hfirst : search g d marks hd with
    | error edge =>
      rw [hfirst] at h
      cases h
    | ok first =>
      cases hlast : searchAll g dependent rest first.1 with
      | error edge =>
        simp only [hfirst, hlast, Except.bind, Except.map] at h
        cases h
      | ok last =>
        simp only [hfirst, hlast, Except.bind, Except.map] at h
        cases h
        exact ih first hlast (ihd first hfirst ho)

private theorem done_of_search (new : marks.lookup name = none)
    {later : {later : Marks // Kept marks.contains later.contains}}
    (h : search g name marks new = .ok later) {other : String}
    (ho : other = name ∨ marks.Done other) : later.1.Done other := by
  obtain ⟨inner, hinner, he⟩ := search_eq_ok new h
  rw [he, Marks.done_mark_done]
  exact ho.imp_right fun ho => done_of_searchAll hinner ((Marks.done_mark_onPath new).mpr ho)

/-- Two searches find the same edge, or both come to their ends with marks that agree. -/
inductive SameEnd (hidden : String → Bool) :
    Except Edge (Subtype p) → Except Edge (Subtype q) → Prop
  | found (edge : Edge) : SameEnd hidden (.error edge) (.error edge)
  | searched {few : Subtype p} {marks : Subtype q} (agree : few.1.Agree hidden marks.1) :
      SameEnd hidden (.ok few) (.ok marks)

private theorem SameEnd.map {p' q' : Marks → Prop} {a : Except Edge (Subtype p)}
    {b : Except Edge (Subtype q)} (h : SameEnd hidden a b) {f : Subtype p → Subtype p'}
    {f' : Subtype q → Subtype q'}
    (keep : ∀ few marks, few.1.Agree hidden marks.1 → (f few).1.Agree hidden (f' marks).1) :
    SameEnd hidden (a.map f) (b.map f') := by
  cases h with
  | found edge => exact .found edge
  | searched agree => exact .searched (keep _ _ agree)

private theorem SameEnd.search {short : Marks} (hout : hidden name = false)
    (h : SameEnd hidden (searchAll thin name (thin.dependencies name) ((name, .onPath) :: short))
      (searchAll g name (g.dependencies name) ((name, .onPath) :: marks)))
    (new : marks.lookup name = none) (new' : short.lookup name = none) :
    SameEnd hidden (search thin name short new') (search g name marks new) := by
  rw [Graph.search, Graph.search]
  exact h.map fun _ _ agree => agree.mark hout .done

end

/-- A search through the thinner lists ends as the search through the full ones. -/
theorem Pruned.sameEnd_searchAll (h : Pruned g thin hidden) (dependent : String)
    {names met few : List String} {marks short : Marks} (hthin : Thinned hidden met names few)
    (hmet : ∀ name ∈ met, marks.Done name) (hfew : ∀ name ∈ few, hidden name = false)
    (hs : short.Agree hidden marks) :
    SameEnd hidden (searchAll thin dependent few short) (searchAll g dependent names marks) := by
  -- the induction follows the search that enters more; hidden names, which the other search does
  -- not enter, are treated where they are met
  induction dependent, names, marks using searchAll.induct g
    (fun name marks new => hidden name = false → ∀ short (new' : short.lookup name = none),
      short.Agree hidden marks →
      SameEnd hidden (search thin name short new') (search g name marks new))
    generalizing met few short with
  | case1 name marks new ih hout short new' hs =>
    have hinner := ih (h.thinned name) (List.forall_mem_nil _) (h.shown name) (hs.mark hout .onPath)
    exact hinner.search hout new new'
  | case2 dependent marks =>
    cases hthin
    rw [searchAll_nil, searchAll_nil]
    exact .searched hs
  | case3 dependent d rest marks hd =>
    rw [searchAll_of_onPath hd]
    cases hthin with
    | keep _ hthin =>
      have hd' : short.OnPath d := (hs.lookup_eq d (hfew d List.mem_cons_self)).trans hd
      rw [searchAll_of_onPath hd']
      exact .found _
    | drop needless hthin =>
      rcases needless with hhid | hm
      · exact absurd hd (hs.not_onPath d hhid)
      · exact absurd (hmet d hm) (Marks.not_done_of_onPath hd)
  | case4 dependent d rest marks hd ih =>
    rw [searchAll_of_done hd]
    cases hthin with
    | keep _ hthin =>
      obtain ⟨hout, hfew⟩ := List.forall_mem_cons.mp hfew
      have hd' : short.Done d := (hs.lookup_eq d hout).trans hd
      rw [searchAll_of_done hd']
      exact ih hthin (List.forall_mem_cons.mpr ⟨hd, hmet⟩) hfew hs
    | drop _ hthin => exact ih hthin hmet hfew hs
  | case5 dependent d rest marks hd ihd ih =>
    rw [searchAll_of_new hd]
    cases hthin with
    | keep _ hthin =>
      obtain ⟨hout, hfew⟩ := List.forall_mem_cons.mp hfew
      have hd' : short.lookup d = none := (hs.lookup_eq d hout).trans hd
      have hfirst := ihd hout short hd' hs
      rw [searchAll_of_new hd']
      cases hb : search g d marks hd with
      | error edge =>
        rw [hb] at hfirst
        generalize search thin d short hd' = a at hfirst
        cases hfirst
        exact .found edge
      | ok first =>
        rw [hb] at hfirst
        have hmet' : ∀ name ∈ d :: met, first.1.Done name := fun name hn =>
          done_of_search hd hb ((List.mem_cons.mp hn).imp_right (hmet name))
        generalize search thin d short hd' = a at hfirst
        cases hfirst with
        | searched agree => exact (ih first hthin hmet' hfew agree).map fun _ _ agree => agree
    | drop needless hthin =>
      have hhid : hidden d = true := needless.resolve_right fun hm =>
        Marks.not_done_of_new hd (hmet d hm)
      obtain ⟨first, hb, he⟩ := search_of_leaf hd (h.leaf hhid)
      have hmet' : ∀ name ∈ met, first.1.Done name := fun name hn =>
        done_of_search hd hb (.inr (hmet name hn))
      have hagree : short.Agree hidden first.1 := he ▸ hs.pass_hidden hhid
      have hid : (searchAll thin dependent few short).map id =
          searchAll thin dependent few short := congrFun Except.map_id _
      rw [hb, ← hid]
      exact (ih first hthin hmet' hfew hagree).map fun _ _ agree => agree

private theorem checkCycles_eq_mapError (g : Graph) :
    g.checkCycles = ((searchRoots g g.targets []).map fun _ => ()).mapError fun edge =>
      .cycleDetected edge.dependent edge.dependency := by
  rw [checkCycles, CycleSearch.runAll_eq_searchRoots]
  cases searchRoots g g.targets [] <;> rfl

namespace Pruned

private theorem sameEnd_search (h : Pruned g thin hidden) {name : String} {marks short : Marks}
    (hout : hidden name = false) (hs : short.Agree hidden marks) (new : marks.lookup name = none)
    (new' : short.lookup name = none) :
    SameEnd hidden (search thin name short new') (search g name marks new) := by
  have hinner := h.sameEnd_searchAll name (h.thinned name) (List.forall_mem_nil _) (h.shown name)
    (hs.mark hout .onPath)
  exact hinner.search hout new new'

private theorem searchRoots_map_unit (h : Pruned g thin hidden) {roots : List String}
    {marks short : Marks} (hroots : ∀ root ∈ roots, hidden root = false)
    (hs : short.Agree hidden marks) :
    (searchRoots thin roots short).map (fun _ => ()) =
      (searchRoots g roots marks).map fun _ => () := by
  induction roots generalizing marks short with
  | nil => rfl
  | cons root rest ih =>
    obtain ⟨hout, hrest⟩ := List.forall_mem_cons.mp hroots
    have hlookup := hs.lookup_eq root hout
    rw [searchRoots, searchRoots]
    by_cases new : marks.lookup root = none
    · have new' : short.lookup root = none := hlookup.trans new
      have hfirst := h.sameEnd_search hout hs new new'
      rw [dif_pos new, dif_pos new']
      generalize search g root marks new = b at hfirst
      generalize search thin root short new' = a at hfirst
      cases hfirst with
      | found edge => rfl
      | searched agree => exact ih hrest agree
    · rw [dif_neg new, dif_neg (hlookup ▸ new), ih hrest hs]

private theorem checkCycles_eq (h : Pruned g thin hidden) : thin.checkCycles = g.checkCycles := by
  have hagree : Marks.Agree hidden [] [] := ⟨fun _ _ => rfl, fun _ _ => nofun⟩
  rw [checkCycles_eq_mapError, checkCycles_eq_mapError, h.targets,
    h.searchRoots_map_unit h.target_shown hagree]

end Pruned

/-- Neither repeated entries nor names that are no targets have an effect on the check for cycles,
the reported edge included. Repeated entries have none on the missing names and on plans either,
and a plan without undefined dependencies has lost those names and nothing else. -/
theorem needless_entries_leave_no_trace (g : Graph) :
    g.withoutRepeats.checkCycles = g.checkCycles ∧
      g.withoutUndefined.checkCycles = g.checkCycles ∧
      g.withoutRepeats.missingDependencies = g.missingDependencies ∧
      (∀ t, (g.withoutRepeats.plan t).result = (g.plan t).result) ∧
      ∀ t, (g.withoutUndefined.plan t).result = (g.plan t).result.map (·.filter g.contains) := by
  refine ⟨g.pruned_withoutRepeats.checkCycles_eq, g.pruned_withoutUndefined.checkCycles_eq,
    missingDependencies_withoutRepeats g, fun t => ?_, fun t => ?_⟩
  · rw [g.pruned_withoutRepeats.plan_result t]
    cases (g.plan t).result with
    | error e => rfl
    | ok order => simp [Except.map]
  · rw [g.pruned_withoutUndefined.plan_result t]
    simp

/-- Undefined names are planned as leaves. With them a plan loses nothing else. -/
example :
    let g : Graph := ⟨.ofList [("a", ["x", "b", "x"]), ("b", ["y"])], .empty⟩
    (g.plan "a").result = .ok ["x", "y", "b", "a"] ∧
      (g.withoutUndefined.plan "a").result = .ok ["b", "a"] := by
  decide +kernel

end Graph
end BuildRunner
