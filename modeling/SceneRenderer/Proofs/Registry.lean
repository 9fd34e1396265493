import Mathlib.Algebra.GroupWithZero.Nat
import Mathlib.Algebra.Order.BigOperators.Group.List
import Mathlib.Algebra.Order.Group.Nat
import Mathlib.Data.List.Basic
import Mathlib.Data.Multiset.AddSub
import Mathlib.Data.Multiset.Count
import SceneRenderer.Registry

/-!
Sums over the values of a registry, and what the values hold between them. A change of one entry
changes either by what the entry counted or held before and does now.
-/

set_option autoImplicit false
set_option relaxedAutoImplicit false

namespace SceneRenderer.Registry

/-! ### Sums -/

section Total

variable {κ ν : Type}

/-- The sum of a count over all values. -/
def total (r : Registry κ ν) (count : ν → Nat) : Nat := (r.values.map count).sum

@[simp] theorem total_empty (count : ν → Nat) : (empty : Registry κ ν).total count = 0 := rfl

theorem total_one (r : Registry κ ν) : r.total (fun _ ↦ 1) = r.size := by
  simp [total, values, size, Function.comp_def]

theorem total_mapValues (r : Registry κ ν) {f : κ → ν → ν} {count : ν → Nat}
    (hf : ∀ k v, count (f k v) = count v) : (r.mapValues f).total count = r.total count := by
  have hvalues : (r.mapValues f).values = r.toList.map fun e ↦ f e.1 e.2 := by
    unfold values mapValues
    rw [List.map_map]
    rfl
  unfold total
  rw [hvalues, values, List.map_map, List.map_map]
  exact congrArg List.sum (List.map_congr_left fun e _ ↦ hf e.1 e.2)

variable [DecidableEq κ]

/-- What the entry of a key counts. -/
def countAt (r : Registry κ ν) (k : κ) (count : ν → Nat) : Nat := ((r.get? k).map count).getD 0

theorem total_erase_of_none {r : Registry κ ν} {k : κ} (hnone : r.get? k = none)
    (count : ν → Nat) : (r.erase k).total count = r.total count := by
  have hkeep : (r.erase k).toList = r.toList := by
    refine List.filter_eq_self.mpr fun e he ↦ decide_eq_true ?_
    rintro rfl
    exact get?_eq_none_iff.mp hnone (List.mem_map_of_mem he)
  unfold total values
  rw [hkeep]

/-- The sum after a change of one entry. -/
theorem total_modify (r : Registry κ ν) (k : κ) (f : ν → ν) (count : ν → Nat) :
    (r.modify k f).total count = (r.erase k).total count + r.countAt k (count ∘ f) := by
  obtain ⟨entries, hnodup⟩ := r
  show (((entries.map fun e ↦ (e.1, if e.1 = k then f e.2 else e.2)).map (·.2)).map count).sum =
    (((entries.filter (·.1 ≠ k)).map (·.2)).map count).sum +
      (((entries.find? (·.1 = k)).map (·.2)).map (count ∘ f)).getD 0
  induction entries with
  | nil => rfl
  | cons e rest ih =>
    obtain ⟨l, v⟩ := e
    obtain ⟨hl, hrest⟩ := List.nodup_cons.mp hnodup
    have htail := ih hrest
    by_cases hk : l = k
    · subst hk
      have hother : ∀ e ∈ rest, e.1 ≠ l := by
        rintro e he rfl
        exact hl (List.mem_map.mpr ⟨e, he, rfl⟩)
      have hnone : rest.find? (·.1 = l) = none := by
        refine List.find?_eq_none.mpr fun e he ↦ ?_
        simpa using hother e he
      rw [hnone] at htail
      simp only [List.map_cons, List.sum_cons, if_true, htail]
      simp
      omega
    · simp [hk] at htail ⊢
      omega

theorem total_eq_erase (r : Registry κ ν) (k : κ) (count : ν → Nat) :
    r.total count = (r.erase k).total count + r.countAt k count := by
  have hid : (r.modify k id).total count = r.total count := by
    refine total_mapValues r fun l v ↦ ?_
    split <;> rfl
  rw [← hid, total_modify]
  rfl

theorem total_insert (r : Registry κ ν) (k : κ) (v : ν) (count : ν → Nat) :
    (r.insert k v).total count = (r.erase k).total count + count v := by
  unfold insert
  split
  · rename_i hnone
    rw [total_erase_of_none hnone]
    unfold total values
    simp
  · rename_i hsome
    obtain ⟨w, hw⟩ := Option.ne_none_iff_exists'.mp hsome
    rw [total_modify, countAt, hw]
    rfl

/-- A change that counts the same. -/
theorem total_modify_of_eq (r : Registry κ ν) (k : κ) {f : ν → ν} {count : ν → Nat}
    (hf : ∀ v, count (f v) = count v) : (r.modify k f).total count = r.total count := by
  refine total_mapValues r fun l v ↦ ?_
  split
  · exact hf v
  · rfl

/-- The sum, key by key. -/
theorem total_eq_sum_keys (r : Registry κ ν) (count : ν → Nat) :
    r.total count = (r.keys.map (r.countAt · count)).sum := by
  unfold total values keys
  rw [List.map_map, List.map_map]
  refine congrArg List.sum (List.map_congr_left fun e he ↦ ?_)
  show count e.2 = r.countAt e.1 count
  rw [countAt, get?_eq_some_iff.mpr he]
  rfl

/-- Registries with the same keys that count the same at each have the same sum. -/
theorem total_congr {ν' : Type} {r : Registry κ ν} {r' : Registry κ ν'} (hkeys : r.keys = r'.keys)
    {count : ν → Nat} {count' : ν' → Nat}
    (hcount : ∀ k, r.countAt k count = r'.countAt k count') : r.total count = r'.total count' := by
  rw [total_eq_sum_keys, total_eq_sum_keys, hkeys]
  exact congrArg List.sum (List.map_congr_left fun k _ ↦ hcount k)

/-- What one entry counts is part of the sum. -/
theorem le_total (r : Registry κ ν) {k : κ} {v : ν} (hv : r.get? k = some v) (count : ν → Nat) :
    count v ≤ r.total count := by
  rw [total_eq_erase r k, countAt, hv]
  exact Nat.le_add_left _ _

theorem total_pos_iff (r : Registry κ ν) (count : ν → Nat) :
    0 < r.total count ↔ ∃ k v, r.get? k = some v ∧ 0 < count v := by
  constructor
  · intro hpos
    unfold total at hpos
    obtain ⟨n, hn, hnpos⟩ := List.sum_pos_iff_exists_pos_nat.mp hpos
    obtain ⟨v, hv, rfl⟩ := List.mem_map.mp hn
    obtain ⟨e, he, rfl⟩ := List.mem_map.mp hv
    exact ⟨e.1, e.2, get?_eq_some_iff.mpr he, hnpos⟩
  · rintro ⟨k, v, hv, hpos⟩
    exact Nat.lt_of_lt_of_le hpos (le_total r hv count)

/-! ### Sizes -/

/-- A sum to which no value adds more than one. -/
theorem total_le_size (r : Registry κ ν) {count : ν → Nat}
    (hcount : ∀ k v, r.get? k = some v → count v ≤ 1) : r.total count ≤ r.size := by
  rw [← total_one]
  refine List.sum_le_sum fun v hv ↦ ?_
  obtain ⟨e, he, rfl⟩ := List.mem_map.mp hv
  exact hcount e.1 e.2 (get?_eq_some_iff.mpr he)

theorem size_erase {r : Registry κ ν} {k : κ} {v : ν} (hv : r.get? k = some v) :
    r.size = (r.erase k).size + 1 := by
  rw [← total_one, ← total_one, total_eq_erase r k, countAt, hv]
  rfl

theorem size_insert_of_get? {r : Registry κ ν} {k : κ} {v : ν} (hv : r.get? k = some v) (w : ν) :
    (r.insert k w).size = r.size := by
  rw [size_erase hv, ← total_one, total_insert, total_one]

end Total

/-! ### Holdings -/

section Holdings

variable {κ ν α : Type}

/-- What all values hold, where each of them holds some things. -/
def holdings (r : Registry κ ν) (f : ν → List α) : Multiset α := ↑(r.values.flatMap f)

@[simp] theorem holdings_empty (f : ν → List α) : (empty : Registry κ ν).holdings f = 0 := rfl

variable [DecidableEq α]

theorem count_holdings (r : Registry κ ν) (f : ν → List α) (a : α) :
    (r.holdings f).count a = r.total fun v ↦ (f v).count a := by
  rw [holdings, Multiset.coe_count, List.count_flatMap]
  rfl

variable [DecidableEq κ]

/-- With the entry of one key apart. -/
theorem holdings_of_get? {r : Registry κ ν} {k : κ} {v : ν} (hv : r.get? k = some v)
    (f : ν → List α) : r.holdings f = ↑(f v) + (r.erase k).holdings f := by
  refine Multiset.ext' fun a ↦ ?_
  rw [Multiset.count_add, Multiset.coe_count, count_holdings, count_holdings, total_eq_erase r k,
    countAt, hv]
  exact Nat.add_comm _ _

theorem holdings_insert (r : Registry κ ν) (k : κ) (v : ν) (f : ν → List α) :
    (r.insert k v).holdings f = ↑(f v) + (r.erase k).holdings f := by
  refine Multiset.ext' fun a ↦ ?_
  rw [Multiset.count_add, Multiset.coe_count, count_holdings, count_holdings, total_insert]
  exact Nat.add_comm _ _

theorem holdings_erase_of_none {r : Registry κ ν} {k : κ} (hnone : r.get? k = none)
    (f : ν → List α) : (r.erase k).holdings f = r.holdings f := by
  refine Multiset.ext' fun a ↦ ?_
  rw [count_holdings, count_holdings, total_erase_of_none hnone]

/-- With the entry of one key apart, if there is one. -/
theorem holdings_eq_erase (r : Registry κ ν) (k : κ) (f : ν → List α) :
    r.holdings f = ↑((r.get? k).toList.flatMap f) + (r.erase k).holdings f := by
  cases hv : r.get? k with
  | none => exact (holdings_erase_of_none hv f).symm.trans (Multiset.zero_add _).symm
  | some v => rw [holdings_of_get? hv, Option.toList_some, List.flatMap_singleton]

theorem holdings_insert_of_none {r : Registry κ ν} {k : κ} (hnone : r.get? k = none) (v : ν)
    (f : ν → List α) : (r.insert k v).holdings f = ↑(f v) + r.holdings f := by
  rw [holdings_insert, holdings_erase_of_none hnone]

/-- A value that is replaced by one that holds the same changes nothing. -/
theorem holdings_insert_of_eq {r : Registry κ ν} {k : κ} {v v' : ν} (hv : r.get? k = some v)
    {f : ν → List α} (hsame : f v' = f v) : (r.insert k v').holdings f = r.holdings f := by
  rw [holdings_insert, hsame, holdings_of_get? hv]

end Holdings

end SceneRenderer.Registry
