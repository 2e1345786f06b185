import BuildRunner.Graph.Basic

/-! Maps and graphs laid over others. The entries of the upper one are inserted in their order, so its
values count wherever both have a key, the keys of the lower one stay where they are, and the other
keys follow them. -/
namespace BuildRunner

namespace OrderedMap
variable {κ ν : Type} [DecidableEq κ]

/-- Inserts the entries of the second map into the first one. -/
def overlay (m n : OrderedMap κ ν) : OrderedMap κ ν :=
  n.entries.foldl (fun m entry => m.insert entry.1 entry.2) m

private theorem keys_insertAll {entries : List (κ × ν)} (h : (entries.map Prod.fst).Nodup)
    (m : OrderedMap κ ν) :
    (entries.foldl (fun m entry => m.insert entry.1 entry.2) m).keys =
      m.keys ++ (entries.map Prod.fst).filter (· ∉ m.keys) := by
  induction entries generalizing m with
  | nil => simp
  | cons entry rest ih =>
    rw [List.map_cons, List.nodup_cons] at h
    obtain ⟨hnew, hrest⟩ := h
    rw [List.foldl_cons, ih hrest, keys_insert, List.map_cons]
    by_cases hm : entry.1 ∈ m.keys
    · rw [if_pos hm, List.filter_cons_of_neg (by simpa using hm)]
    · rw [if_neg hm, List.filter_cons_of_pos (by simpa using hm), List.append_assoc,
        List.singleton_append]
      congr 2
      refine List.filter_congr fun key hkey => ?_
      have hne : key ≠ entry.1 := fun he => hnew (he ▸ hkey)
      simp [hne]

private theorem get?_insertAll {entries : List (κ × ν)} (h : (entries.map Prod.fst).Nodup)
    (m : OrderedMap κ ν) (key : κ) :
    (entries.foldl (fun m entry => m.insert entry.1 entry.2) m).get? key =
      (entries.lookup key).or (m.get? key) := by
  induction entries generalizing m with
  | nil => rfl
  | cons entry rest ih =>
    rw [List.map_cons, List.nodup_cons] at h
    obtain ⟨hnew, hrest⟩ := h
    rw [List.foldl_cons, ih hrest, get?_insert, List.lookup_cons]
    by_cases hkey : key = entry.1
    · -- the key does not come again
      have hnone : rest.lookup entry.1 = none :=
        List.lookup_eq_none_iff.mpr fun other ho =>
          bne_iff_ne.mpr fun he => hnew (he ▸ List.mem_map_of_mem ho)
      simp [hkey, hnone]
    · simp [hkey, beq_eq_false_iff_ne.mpr hkey]

private theorem keys_overlay (m n : OrderedMap κ ν) :
    (m.overlay n).keys = m.keys ++ n.keys.filter (· ∉ m.keys) :=
  keys_insertAll n.nodup_keys m

private theorem mem_keys_overlay {m n : OrderedMap κ ν} {key : κ} :
    key ∈ (m.overlay n).keys ↔ key ∈ m.keys ∨ key ∈ n.keys := by
  rw [keys_overlay, List.mem_append, List.mem_filter, decide_eq_true_eq]
  by_cases hm : key ∈ m.keys <;> simp [hm]

private theorem get?_overlay (m n : OrderedMap κ ν) (key : κ) :
    (m.overlay n).get? key = (n.get? key).or (m.get? key) :=
  get?_insertAll n.nodup_keys m key

private theorem overlay_insert (m n : OrderedMap κ ν) (key : κ) (value : ν) :
    m.overlay (n.insert key value) = (m.overlay n).insert key value := by
  refine eq_of_keys ?_ fun other _ => ?_
  · rw [keys_overlay, keys_insert, keys_insert, keys_overlay]
    by_cases hn : key ∈ n.keys
    · rw [if_pos hn, ← keys_overlay, if_pos (mem_keys_overlay.mpr (.inr hn))]
    · rw [if_neg hn, List.filter_append, ← List.append_assoc, ← keys_overlay]
      by_cases hm : key ∈ m.keys
      · rw [if_pos (mem_keys_overlay.mpr (.inl hm)), List.filter_cons_of_neg (by simpa using hm),
          List.filter_nil, List.append_nil]
      · have hnone : key ∉ (m.overlay n).keys := fun h =>
          (mem_keys_overlay.mp h).elim hm hn
        rw [if_neg hnone, List.filter_cons_of_pos (by simpa using hm), List.filter_nil]
  · rw [get?_overlay, get?_insert, get?_insert, get?_overlay]
    split <;> rfl

private theorem overlay_modify {n : OrderedMap κ ν} {key : κ} (h : key ∈ n.keys)
    (m : OrderedMap κ ν)
    (change : ν → ν) : m.overlay (n.modify key change) = (m.overlay n).modify key change := by
  refine eq_of_keys ?_ fun other _ => ?_
  · rw [keys_overlay, keys_modify, keys_modify, keys_overlay]
  · rw [get?_overlay, get?_modify, get?_modify, get?_overlay]
    obtain ⟨value, hvalue⟩ := (n.mem_keys_iff key).mp h
    split
    · rename_i he
      rw [he, hvalue]
      rfl
    · rfl

end OrderedMap

namespace Graph

/-- The rules of the second graph over those of the first one. A rule is replaced as a whole, its
dependencies and its recipe. -/
def overlay (g h : Graph) : Graph :=
  ⟨g.adjacency.overlay h.adjacency, g.recipes.overlay h.recipes⟩

theorem overlay_declare (g h : Graph) (name : String) (dependencies : List String) :
    g.overlay (h.declare name dependencies) = (g.overlay h).declare name dependencies := by
  rw [overlay, declare, OrderedMap.overlay_insert, OrderedMap.overlay_insert]
  rfl

theorem overlay_addCommand {h : Graph} {name : String} (hn : name ∈ h.recipes.keys) (g : Graph)
    (command : String) :
    g.overlay (h.addCommand name command) = (g.overlay h).addCommand name command := by
  rw [overlay, addCommand, OrderedMap.overlay_modify hn]
  rfl

/-- A graph that has the rules of two others, those of the second one where both have a rule. The
targets of the first one stand as they did, and new ones follow them. -/
structure Merges (g h both : Graph) : Prop where
  targets : both.targets = g.targets ++ h.targets.filter (· ∉ g.targets)
  recipes : both.recipes.keys = g.recipes.keys ++ h.recipes.keys.filter (· ∉ g.recipes.keys)
  dependencies : ∀ name, both.dependencies? name = (h.dependencies? name).or (g.dependencies? name)
  commands : ∀ name, both.recipe? name = (h.recipe? name).or (g.recipe? name)

theorem merges_overlay (g h : Graph) : g.Merges h (g.overlay h) where
  targets := OrderedMap.keys_overlay _ _
  recipes := OrderedMap.keys_overlay _ _
  dependencies := OrderedMap.get?_overlay _ _
  commands := OrderedMap.get?_overlay _ _

end Graph
end BuildRunner
