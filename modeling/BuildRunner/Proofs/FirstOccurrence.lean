import BuildRunner.Graph.Traversal
import Mathlib.Data.List.Induction

/-! Lists without their repeated entries. Every entry is left where it comes first, so the entries
that are left stand in the order of their first places. -/
namespace BuildRunner
variable {α β : Type} [BEq α] [LawfulBEq α]

theorem eraseDups_concat (l : List α) (a : α) :
    (l ++ [a]).eraseDups = if a ∈ l.eraseDups then l.eraseDups else l.eraseDups ++ [a] := by
  rw [List.eraseDups_append]
  by_cases h : a ∈ l
  · have hgone : [a].removeAll l = [] := by simp [List.removeAll, h]
    rw [hgone, if_pos (List.mem_eraseDups.mpr h)]
    simp
  · have hkept : [a].removeAll l = [a] := by simp [List.removeAll, h]
    rw [hkept, if_neg (mt List.mem_eraseDups.mp h)]
    simp [List.eraseDups_cons]

theorem eraseDups_filter (p : α → Bool) (l : List α) :
    (l.filter p).eraseDups = l.eraseDups.filter p := by
  induction l using List.reverseRecOn with
  | nil => rfl
  | append_singleton l a ih =>
    rw [List.filter_append, eraseDups_concat]
    by_cases hp : p a = true
    · have hkept : [a].filter p = [a] := by simp [hp]
      have hmem : a ∈ l.eraseDups.filter p ↔ a ∈ l.eraseDups := by simp [hp]
      simp only [hkept, eraseDups_concat, ih, hmem]
      split
      · rfl
      · rw [List.filter_append, hkept]
    · have hgone : [a].filter p = [] := by simp [hp]
      rw [hgone, List.append_nil, ih]
      split
      · rfl
      · rw [List.filter_append, hgone, List.append_nil]

theorem eraseDups_of_nodup {l : List α} (h : l.Nodup) : l.eraseDups = l := by
  induction l using List.reverseRecOn with
  | nil => rfl
  | append_singleton l a ih =>
    obtain ⟨hl, -, hnew⟩ := List.nodup_append.mp h
    have ha : a ∉ l := fun hm => hnew a hm a (List.mem_singleton_self a) rfl
    rw [eraseDups_concat, ih hl, if_neg ha]

theorem eraseDups_append_filter (l m : List α) :
    (l ++ m).eraseDups = l.eraseDups ++ (m.eraseDups.filter fun a => !l.contains a) := by
  rw [List.eraseDups_append, List.removeAll, ← eraseDups_filter]

/-- Lists may lose their repeated entries before they are joined. -/
theorem eraseDups_flatMap_eraseDups (f : β → List α) (l : List β) :
    (l.flatMap fun b => (f b).eraseDups).eraseDups = (l.flatMap f).eraseDups := by
  induction l with
  | nil => rfl
  | cons b rest ih =>
    rw [List.flatMap_cons, List.flatMap_cons, eraseDups_append_filter, eraseDups_append_filter, ih,
      eraseDups_of_nodup (nodup_eraseDups (f b))]
    congr 1
    exact List.filter_congr fun a _ => by simp

theorem pairwise_idxOf_eraseDups (l : List α) :
    l.eraseDups.Pairwise fun a b => l.idxOf a < l.idxOf b := by
  induction l using List.reverseRecOn with
  | nil => exact .nil
  | append_singleton l a ih =>
    have hold : l.eraseDups.Pairwise fun b c => (l ++ [a]).idxOf b < (l ++ [a]).idxOf c := by
      refine ih.imp_of_mem fun {b c} hb hc hlt => ?_
      rw [List.idxOf_append, List.idxOf_append, if_pos (List.mem_eraseDups.mp hb),
        if_pos (List.mem_eraseDups.mp hc)]
      exact hlt
    rw [eraseDups_concat]
    split
    · exact hold
    · rename_i hnew
      refine List.pairwise_append.mpr ⟨hold, List.pairwise_singleton _ a, fun b hb c hc => ?_⟩
      obtain rfl := List.mem_singleton.mp hc
      have hb' := List.mem_eraseDups.mp hb
      rw [List.idxOf_append, List.idxOf_append, if_pos hb', if_neg (mt List.mem_eraseDups.mpr hnew)]
      exact Nat.lt_of_lt_of_le (List.idxOf_lt_length_of_mem hb') (Nat.le_add_left _ _)

end BuildRunner
