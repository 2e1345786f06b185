import BuildRunner.Proofs.Graph.MissingNames

/-! Graphs with shorter dependency lists: without repeated entries, or without names that are no
targets. Both are cases of one relation between lists, in which an entry may be left out when it is
hidden or has been met before. -/
namespace BuildRunner

namespace OrderedMap
variable {κ ν : Type}

/-- Every value is changed and every key stays where it is. -/
def mapValues (change : ν → ν) (m : OrderedMap κ ν) : OrderedMap κ ν :=
  ⟨m.entries.map fun entry => (entry.1, change entry.2),
    by simpa [Function.comp_def] using m.nodup_keys⟩

@[simp] theorem keys_mapValues (change : ν → ν) (m : OrderedMap κ ν) :
    (m.mapValues change).keys = m.keys := by
  simp [keys, mapValues]

private theorem get?_mapValues [DecidableEq κ] (change : ν → ν) (m : OrderedMap κ ν) (key : κ) :
    (m.mapValues change).get? key = (m.get? key).map change := by
  simp only [get?, mapValues]
  induction m.entries with
  | nil => rfl
  | cons entry rest ih =>
    obtain ⟨k, v⟩ := entry
    by_cases h : key = k
    · simp [h]
    · simp [List.lookup_cons, beq_eq_false_iff_ne.mpr h, ih]

end OrderedMap

theorem ne_of_hidden {hidden : String → Bool} {a b : String} (ha : hidden a = true)
    (hb : hidden b = false) : a ≠ b := by
  rintro rfl
  exact Bool.eq_false_iff.mp hb ha

/-- The second list is the first without some of its entries. What is left out is hidden, or was met
before: earlier in the list or, as the names in `met`, ahead of it. -/
inductive Thinned (hidden : String → Bool) : List String → List String → List String → Prop
  | nil (met : List String) : Thinned hidden met [] []
  | keep {met long short : List String} (name : String)
      (rest : Thinned hidden (name :: met) long short) :
      Thinned hidden met (name :: long) (name :: short)
  | drop {met long short : List String} {name : String}
      (needless : hidden name = true ∨ name ∈ met) (rest : Thinned hidden met long short) :
      Thinned hidden met (name :: long) short

namespace Thinned
variable {hidden : String → Bool}

theorem refl (hidden : String → Bool) (met l : List String) : Thinned hidden met l l := by
  induction l generalizing met with
  | nil => exact .nil met
  | cons name rest ih => exact .keep name (ih (name :: met))

theorem of_hidden {l : List String} (h : ∀ name ∈ l, hidden name = true) (met : List String) :
    Thinned hidden met l [] := by
  induction l with
  | nil => exact .nil met
  | cons name rest ih =>
    obtain ⟨hname, hrest⟩ := List.forall_mem_cons.mp h
    exact .drop (.inl hname) (ih hrest)

private theorem filter (hidden : String → Bool) (met l : List String) :
    Thinned hidden met l (l.filter (!hidden ·)) := by
  induction l generalizing met with
  | nil => exact .nil met
  | cons name rest ih =>
    cases h : hidden name with
    | true =>
      rw [List.filter_cons_of_neg (by simp [h])]
      exact .drop (.inl h) (ih met)
    | false =>
      rw [List.filter_cons_of_pos (by simp [h])]
      exact .keep name (ih (name :: met))

private theorem eraseDups_filter_met (hidden : String → Bool) (met l : List String) :
    Thinned hidden met l (l.filter (!met.contains ·)).eraseDups := by
  induction l generalizing met with
  | nil => exact .nil met
  | cons name rest ih =>
    by_cases h : name ∈ met
    · rw [List.filter_cons_of_neg (by simpa using h)]
      exact .drop (.inr h) (ih met)
    · rw [List.filter_cons_of_pos (by simpa using h), List.eraseDups_cons, List.filter_filter]
      refine .keep name ?_
      have hmet : (fun a => !(name :: met).contains a) = fun a => !a == name && !met.contains a := by
        funext a
        rw [List.contains_cons, Bool.not_or]
      rw [← hmet]
      exact ih (name :: met)

private theorem eraseDups (hidden : String → Bool) (l : List String) :
    Thinned hidden [] l l.eraseDups := by
  simpa using eraseDups_filter_met hidden [] l

end Thinned

namespace Graph

/-- The same targets and recipes with other dependency lists. -/
def mapDependencies (change : List String → List String) (g : Graph) : Graph :=
  { g with adjacency := g.adjacency.mapValues change }

/-- In every dependency list only the first occurrence of a name is left. -/
def withoutRepeats (g : Graph) : Graph := g.mapDependencies List.eraseDups

/-- In every dependency list only the names that are targets are left. -/
def withoutUndefined (g : Graph) : Graph := g.mapDependencies (·.filter g.contains)

@[simp] theorem targets_mapDependencies (change : List String → List String) (g : Graph) :
    (g.mapDependencies change).targets = g.targets :=
  g.adjacency.keys_mapValues change

private theorem dependencies_mapDependencies {change : List String → List String}
    (h : change [] = []) (g : Graph) (name : String) :
    (g.mapDependencies change).dependencies name = change (g.dependencies name) := by
  have hget : (g.mapDependencies change).dependencies? name = (g.dependencies? name).map change :=
    g.adjacency.get?_mapValues change name
  rw [dependencies, dependencies, hget]
  cases g.dependencies? name with
  | none => exact h.symm
  | some list => rfl

private theorem dependencies_withoutRepeats (g : Graph) (name : String) :
    g.withoutRepeats.dependencies name = (g.dependencies name).eraseDups :=
  dependencies_mapDependencies rfl g name

private theorem dependencies_withoutUndefined (g : Graph) (name : String) :
    g.withoutUndefined.dependencies name = (g.dependencies name).filter g.contains :=
  dependencies_mapDependencies rfl g name

/-- One graph has the targets of another and thinned-out dependency lists. Hidden names are none of
the targets, and no list names them any more. -/
structure Pruned (g pruned : Graph) (hidden : String → Bool) : Prop where
  targets : pruned.targets = g.targets
  target_shown : ∀ target ∈ g.targets, hidden target = false
  thinned : ∀ name, Thinned hidden [] (g.dependencies name) (pruned.dependencies name)
  shown : ∀ name, ∀ d ∈ pruned.dependencies name, hidden d = false

theorem Pruned.leaf {g pruned : Graph} {hidden : String → Bool} (h : Pruned g pruned hidden)
    {name : String} (hname : hidden name = true) : g.dependencies name = [] :=
  dependencies_of_not_mem fun ht => Bool.eq_false_iff.mp (h.target_shown name ht) hname

theorem pruned_withoutRepeats (g : Graph) : Pruned g g.withoutRepeats fun _ => false where
  targets := targets_mapDependencies _ g
  target_shown _ _ := rfl
  thinned name := by
    rw [dependencies_withoutRepeats]
    exact .eraseDups _ _
  shown _ _ _ := rfl

theorem pruned_withoutUndefined (g : Graph) : Pruned g g.withoutUndefined (!g.contains ·) where
  targets := targets_mapDependencies _ g
  target_shown target h := by rw [(g.contains_iff target).mpr h, Bool.not_true]
  thinned name := by
    rw [dependencies_withoutUndefined]
    simpa using Thinned.filter (!g.contains ·) [] (g.dependencies name)
  shown name d hd := by
    rw [dependencies_withoutUndefined] at hd
    rw [(List.mem_filter.mp hd).2, Bool.not_true]

/-- The first place of a name is that of a first occurrence in one of the lists. -/
theorem missingDependencies_withoutRepeats (g : Graph) :
    g.withoutRepeats.missingDependencies = g.missingDependencies := by
  have htargets : g.withoutRepeats.targets = g.targets := g.pruned_withoutRepeats.targets
  have hcontains : g.withoutRepeats.contains = g.contains := by
    funext name
    rw [Bool.eq_iff_iff, contains_iff, contains_iff, htargets]
  have hlists : g.withoutRepeats.dependencies = fun name => (g.dependencies name).eraseDups :=
    funext g.dependencies_withoutRepeats
  rw [missingDependencies, missingDependencies, eraseDups_filter, eraseDups_filter, htargets,
    hcontains, hlists, eraseDups_flatMap_eraseDups]

end Graph
end BuildRunner
