/-!
Finite maps that keep their entries in the order in which the keys were first inserted. Every key
has at most one entry, so a look-up and the list of entries say the same.
-/

set_option autoImplicit false
set_option relaxedAutoImplicit false

namespace SceneRenderer

structure Registry (κ ν : Type) where
  toList : List (κ × ν)
  nodup_keys : (toList.map (·.1)).Nodup

namespace Registry

variable {κ ν : Type}

def empty : Registry κ ν := ⟨[], List.nodup_nil⟩

instance : Inhabited (Registry κ ν) := ⟨empty⟩

def keys (r : Registry κ ν) : List κ := r.toList.map (·.1)

def values (r : Registry κ ν) : List ν := r.toList.map (·.2)

def size (r : Registry κ ν) : Nat := r.toList.length

def isEmpty (r : Registry κ ν) : Bool := r.toList.isEmpty

/-- Changes every value. -/
def mapValues (r : Registry κ ν) (f : κ → ν → ν) : Registry κ ν where
  toList := r.toList.map fun e => (e.1, f e.1 e.2)
  nodup_keys := by
    rw [List.map_map]
    exact r.nodup_keys

@[simp] theorem keys_mapValues (r : Registry κ ν) (f : κ → ν → ν) :
    (r.mapValues f).keys = r.keys := by
  unfold keys mapValues
  rw [List.map_map]
  rfl

variable [DecidableEq κ]

def get? (r : Registry κ ν) (k : κ) : Option ν := (r.toList.find? (·.1 = k)).map (·.2)

def contains (r : Registry κ ν) (k : κ) : Bool := (r.get? k).isSome

/-- Changes the value of a key, if there is one. -/
def modify (r : Registry κ ν) (k : κ) (f : ν → ν) : Registry κ ν :=
  r.mapValues fun l v => if l = k then f v else v

/-- Takes the entry of a key out. -/
def erase (r : Registry κ ν) (k : κ) : Registry κ ν where
  toList := r.toList.filter (·.1 ≠ k)
  nodup_keys := r.nodup_keys.sublist (List.filter_sublist.map _)

theorem get?_eq_none_iff {r : Registry κ ν} {k : κ} : r.get? k = none ↔ k ∉ r.keys := by
  simp only [get?, keys, Option.map_eq_none_iff, List.find?_eq_none, decide_eq_true_eq,
    List.mem_map, not_exists, not_and]

/-- Gives a key a value; a new key goes to the end. -/
def insert (r : Registry κ ν) (k : κ) (v : ν) : Registry κ ν :=
  if h : r.get? k = none then
    ⟨r.toList ++ [(k, v)], by
      rw [List.map_append, List.nodup_append]
      refine ⟨r.nodup_keys, by simp, ?_⟩
      intro a ha b hb
      simp only [List.map_cons, List.map_nil, List.mem_singleton] at hb
      exact fun hab => get?_eq_none_iff.1 h (hb ▸ hab ▸ ha)⟩
  else r.modify k fun _ => v

def ofList (entries : List (κ × ν)) : Registry κ ν :=
  entries.foldl (fun r e => r.insert e.1 e.2) empty

@[simp] theorem get?_empty (k : κ) : (empty : Registry κ ν).get? k = none := rfl

theorem get?_eq_some_iff {r : Registry κ ν} {k : κ} {v : ν} :
    r.get? k = some v ↔ (k, v) ∈ r.toList := by
  obtain ⟨entries, h⟩ := r
  simp only [get?]
  induction entries with
  | nil => simp
  | cons e rest ih =>
    obtain ⟨l, w⟩ := e
    simp only [List.map_cons, List.nodup_cons] at h
    by_cases hl : l = k
    · subst hl
      have hv : (l, v) ∉ rest := fun hm => h.1 (List.mem_map.2 ⟨_, hm, rfl⟩)
      simp [hv, eq_comm]
    · have hne : (k, v) ≠ (l, w) := fun he => hl (congrArg Prod.fst he).symm
      rw [List.find?_cons_of_neg (by simpa using hl), ih h.2, List.mem_cons]
      simp [hne]

/-- A key that is there keeps its place. -/
theorem keys_insert {r : Registry κ ν} {k : κ} (hk : k ∈ r.keys) (v : ν) :
    (r.insert k v).keys = r.keys := by
  unfold insert
  split
  · rename_i hnone
    exact absurd hk (get?_eq_none_iff.1 hnone)
  · exact keys_mapValues r _

theorem mem_keys_of_get? {r : Registry κ ν} {k : κ} {v : ν} (hv : r.get? k = some v) :
    k ∈ r.keys :=
  List.mem_map.2 ⟨_, get?_eq_some_iff.1 hv, rfl⟩

theorem contains_iff {r : Registry κ ν} {k : κ} : r.contains k ↔ k ∈ r.keys := by
  rw [contains, Option.isSome_iff_ne_none, ne_eq, get?_eq_none_iff, Decidable.not_not]

theorem get?_mapValues (r : Registry κ ν) (f : κ → ν → ν) (k : κ) :
    (r.mapValues f).get? k = (r.get? k).map (f k) := by
  ext v
  rw [get?_eq_some_iff, Option.map_eq_some_iff]
  simp only [mapValues, List.mem_map, Prod.mk.injEq, Prod.exists]
  constructor
  · rintro ⟨l, w, hm, rfl, rfl⟩
    exact ⟨w, get?_eq_some_iff.2 hm, rfl⟩
  · rintro ⟨w, hw, rfl⟩
    exact ⟨k, w, get?_eq_some_iff.1 hw, rfl, rfl⟩

theorem get?_modify (r : Registry κ ν) (k l : κ) (f : ν → ν) :
    (r.modify k f).get? l = if l = k then (r.get? l).map f else r.get? l := by
  rw [modify, get?_mapValues]
  split
  · rfl
  · exact Option.map_id'

theorem get?_erase (r : Registry κ ν) (k l : κ) :
    (r.erase k).get? l = if l = k then none else r.get? l := by
  ext v
  rw [get?_eq_some_iff]
  simp only [erase, List.mem_filter, decide_eq_true_eq]
  split
  · simp_all
  · simp [get?_eq_some_iff, *]

theorem get?_insert (r : Registry κ ν) (k l : κ) (v : ν) :
    (r.insert k v).get? l = if l = k then some v else r.get? l := by
  unfold insert
  split
  · rename_i h
    ext w
    rw [get?_eq_some_iff]
    simp only [List.mem_append, List.mem_singleton, Prod.mk.injEq]
    split
    · rename_i hl
      subst hl
      have hw : (l, w) ∉ r.toList := fun hm => by simp [get?_eq_some_iff.2 hm] at h
      simp [hw, eq_comm]
    · simp [get?_eq_some_iff, *]
  · rename_i h
    rw [get?_modify]
    split
    · rename_i hl
      subst hl
      obtain ⟨w, hw⟩ := Option.ne_none_iff_exists'.1 h
      simp [hw]
    · rfl

/-- Of several entries for a key the last one counts. -/
theorem get?_ofList (entries : List (κ × ν)) (k : κ) :
    (ofList entries).get? k = (entries.reverse.find? (·.1 = k)).map (·.2) := by
  unfold ofList
  rw [List.foldl_eq_foldr_reverse]
  induction entries.reverse with
  | nil => rfl
  | cons e rest ih =>
    rw [List.foldr_cons, get?_insert, List.find?_cons, ih]
    by_cases hk : k = e.1
    · simp [hk]
    · simp [hk, Ne.symm hk]

end Registry

end SceneRenderer
