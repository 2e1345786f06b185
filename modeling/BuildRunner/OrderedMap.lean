/-! Finite maps that remember the order in which their keys came. Inserting at a key that is
there replaces its value and leaves the key where it stands. -/
namespace BuildRunner

namespace Entries
variable {κ ν : Type} [DecidableEq κ]

def insert (key : κ) (value : ν) : List (κ × ν) → List (κ × ν)
  | [] => [(key, value)]
  | entry :: rest =>
    if entry.1 = key then (key, value) :: rest else entry :: insert key value rest

def modify (key : κ) (change : ν → ν) (entries : List (κ × ν)) : List (κ × ν) :=
  entries.map fun entry => if entry.1 = key then (entry.1, change entry.2) else entry

theorem keys_insert (key : κ) (value : ν) (entries : List (κ × ν)) :
    (insert key value entries).map Prod.fst =
      if key ∈ entries.map Prod.fst then entries.map Prod.fst else entries.map Prod.fst ++ [key] := by
  induction entries with
  | nil => rfl
  | cons entry rest ih =>
    by_cases h : entry.1 = key
    · simp [insert, h]
    · have h' : key ≠ entry.1 := fun e => h e.symm
      simp only [insert, h, if_false, List.map_cons, ih, List.mem_cons, h', false_or]
      split <;> rfl

theorem keys_modify (key : κ) (change : ν → ν) (entries : List (κ × ν)) :
    (modify key change entries).map Prod.fst = entries.map Prod.fst := by
  simp only [modify, List.map_map]
  refine List.map_congr_left fun entry _ => ?_
  simp only [Function.comp]
  split <;> rfl

theorem nodup_keys_insert {key : κ} {value : ν} {entries : List (κ × ν)}
    (h : (entries.map Prod.fst).Nodup) : ((insert key value entries).map Prod.fst).Nodup := by
  rw [keys_insert]
  split
  · exact h
  · rename_i hk
    rw [List.nodup_append]
    exact ⟨h, by simp, fun a ha b hb e => hk (by simp_all)⟩

end Entries

structure OrderedMap (κ ν : Type) where
  entries : List (κ × ν)
  nodup_keys : (entries.map Prod.fst).Nodup
deriving DecidableEq

namespace OrderedMap
variable {κ ν : Type}

def empty : OrderedMap κ ν := ⟨[], List.nodup_nil⟩

instance : Inhabited (OrderedMap κ ν) := ⟨empty⟩

def toList (m : OrderedMap κ ν) : List (κ × ν) := m.entries

def keys (m : OrderedMap κ ν) : List κ := m.entries.map Prod.fst

def size (m : OrderedMap κ ν) : Nat := m.entries.length

variable [DecidableEq κ]

def get? (m : OrderedMap κ ν) (key : κ) : Option ν := m.entries.lookup key

def contains (m : OrderedMap κ ν) (key : κ) : Bool := m.keys.contains key

def insert (m : OrderedMap κ ν) (key : κ) (value : ν) : OrderedMap κ ν :=
  ⟨Entries.insert key value m.entries, Entries.nodup_keys_insert m.nodup_keys⟩

def modify (m : OrderedMap κ ν) (key : κ) (change : ν → ν) : OrderedMap κ ν :=
  ⟨Entries.modify key change m.entries, by rw [Entries.keys_modify]; exact m.nodup_keys⟩

/-- Inserts the entries from the left, so the last value of a key stands at its first place. -/
def ofList (entries : List (κ × ν)) : OrderedMap κ ν :=
  entries.foldl (fun m entry => m.insert entry.1 entry.2) empty

/-- Equality of the maps when the order of the keys does not count. -/
def sameEntries [DecidableEq ν] (m n : OrderedMap κ ν) : Bool :=
  m.size == n.size && m.entries.all fun entry => n.get? entry.1 == some entry.2

theorem keys_insert (m : OrderedMap κ ν) (key : κ) (value : ν) :
    (m.insert key value).keys = if key ∈ m.keys then m.keys else m.keys ++ [key] :=
  Entries.keys_insert key value m.entries

theorem keys_modify (m : OrderedMap κ ν) (key : κ) (change : ν → ν) :
    (m.modify key change).keys = m.keys :=
  Entries.keys_modify key change m.entries

theorem contains_iff (m : OrderedMap κ ν) (key : κ) : m.contains key = true ↔ key ∈ m.keys := by
  simp [contains]

private theorem lookup_insert (key other : κ) (value : ν) (entries : List (κ × ν)) :
    (Entries.insert key value entries).lookup other =
      if other = key then some value else entries.lookup other := by
  induction entries with
  | nil => by_cases h : other = key <;> simp [Entries.insert, h]
  | cons entry rest ih =>
    obtain ⟨k, v⟩ := entry
    by_cases hk : k = key
    · by_cases h : other = key
      · simp [Entries.insert, hk, h]
      · simp [Entries.insert, hk, List.lookup_cons, beq_eq_false_iff_ne.mpr h, h]
    · by_cases h : other = k
      · subst h; simp [Entries.insert, hk]
      · simp [Entries.insert, hk, List.lookup_cons, beq_eq_false_iff_ne.mpr h, ih]

theorem get?_insert (m : OrderedMap κ ν) (key other : κ) (value : ν) :
    (m.insert key value).get? other = if other = key then some value else m.get? other :=
  lookup_insert key other value m.entries

private theorem lookup_modify (key other : κ) (change : ν → ν) (entries : List (κ × ν)) :
    (Entries.modify key change entries).lookup other =
      if other = key then (entries.lookup other).map change else entries.lookup other := by
  induction entries with
  | nil => by_cases h : other = key <;> simp [Entries.modify, h]
  | cons entry rest ih =>
    obtain ⟨k, v⟩ := entry
    simp only [Entries.modify, List.map_cons] at ih ⊢
    by_cases hk : k = key
    · by_cases h : other = key
      · simp [hk, h]
      · simp [hk, List.lookup_cons, beq_eq_false_iff_ne.mpr h, h, ih]
    · by_cases h : other = k
      · subst h; simp [hk]
      · simp [hk, List.lookup_cons, beq_eq_false_iff_ne.mpr h, ih]

theorem get?_modify (m : OrderedMap κ ν) (key other : κ) (change : ν → ν) :
    (m.modify key change).get? other =
      if other = key then (m.get? other).map change else m.get? other :=
  lookup_modify key other change m.entries

theorem get?_of_mem (m : OrderedMap κ ν) {key : κ} {value : ν} (h : (key, value) ∈ m.entries) :
    m.get? key = some value := by
  obtain ⟨before, after, he⟩ := List.append_of_mem h
  have hn := m.nodup_keys
  rw [he, List.map_append, List.map_cons, List.nodup_append] at hn
  refine List.lookup_eq_some_iff.mpr ⟨before, after, he, fun entry hb => ?_⟩
  exact bne_iff_ne.mpr (Ne.symm (hn.2.2 _ (List.mem_map_of_mem hb) _ List.mem_cons_self))

theorem mem_keys_iff (m : OrderedMap κ ν) (key : κ) : key ∈ m.keys ↔ ∃ value, m.get? key = some value := by
  constructor
  · intro h
    obtain ⟨⟨k, value⟩, he, rfl⟩ := List.mem_map.mp h
    exact ⟨value, m.get?_of_mem he⟩
  · rintro ⟨value, h⟩
    obtain ⟨before, after, he, -⟩ := List.lookup_eq_some_iff.mp h
    simp [keys, he]

/-- A map is told by its keys in their order and the value of each. -/
theorem eq_of_keys {m n : OrderedMap κ ν} (hk : m.keys = n.keys)
    (hv : ∀ key ∈ m.keys, m.get? key = n.get? key) : m = n := by
  have hentries : ∀ p : OrderedMap κ ν, p.entries.map (fun e => (e.1, some e.2)) =
      p.keys.map fun key => (key, p.get? key) := by
    intro p
    rw [keys, List.map_map]
    exact List.map_congr_left fun e he => by simp [p.get?_of_mem he]
  have hsome : m.entries.map (fun e => (e.1, some e.2)) = n.entries.map (fun e => (e.1, some e.2)) := by
    rw [hentries, hentries, ← hk]
    exact List.map_congr_left fun key h => by rw [hv key h]
  have hinj : Function.Injective fun e : κ × ν => (e.1, some e.2) := by
    rintro ⟨a, x⟩ ⟨b, y⟩ h
    simpa using h
  cases m
  cases n
  simpa using (List.map_inj_right fun _ _ h => hinj h).mp hsome

end OrderedMap
end BuildRunner
