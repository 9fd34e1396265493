import Mathlib.Data.List.Nodup
import Mathlib.Data.Nat.ModEq
import SceneRenderer.Frame.TextureUnits

/-!
The order in which texture units are given out. From the first unit on they go up to the last one
below the limit and come round: which unit comes next is told by how many were given out since the
last reset (`Reached.units_eq`), whatever was given out before it. So the units of one round are
distinct, and the first unit that comes twice is the one behind a full round, at which the mark of a
repetition is set (`Reached.counts`).
-/

set_option autoImplicit false
set_option relaxedAutoImplicit false

namespace SceneRenderer.TextureUnits

/-! ### The unit at a place -/

theorem toNat_span (u : TextureUnits) : u.span.toNat = u.limit.toNat - u.base.toNat :=
  UInt32.toNat_sub_of_le _ _ (UInt32.le_of_lt u.base_lt_limit)

theorem span_pos (u : TextureUnits) : 0 < u.span.toNat := by
  rw [toNat_span]
  exact Nat.sub_pos_of_lt (UInt32.lt_iff_toNat_lt.mp u.base_lt_limit)

/-- The unit that is given out after so many others. -/
def unitAt (u : TextureUnits) (i : Nat) : UInt32 := u.base + UInt32.ofNat (i % u.span.toNat)

/-- The next unit is the one at the place that the count tells. -/
theorem next_fst (u : TextureUnits) : u.next.1 = u.unitAt u.handed.toNat := by
  have hturn : u.handed.toNat % u.span.toNat < UInt32.size :=
    (Nat.mod_lt _ u.span_pos).trans u.span.toNat_lt
  have hplace : u.handed % u.span = UInt32.ofNat (u.handed.toNat % u.span.toNat) := by
    rw [← UInt32.toNat_inj, UInt32.toNat_mod, UInt32.toNat_ofNat_of_lt' hturn]
  rw [next, unitAt, hplace]

theorem toNat_unitAt (u : TextureUnits) (i : Nat) :
    (u.unitAt i).toNat = u.base.toNat + i % u.span.toNat := by
  have hturn : i % u.span.toNat < u.span.toNat := Nat.mod_lt _ u.span_pos
  have hlimit := u.limit.toNat_lt
  have hspan := u.toNat_span
  rw [unitAt, UInt32.toNat_add,
    UInt32.toNat_ofNat_of_lt' (Nat.lt_trans hturn (by rw [UInt32.size]; omega)),
    Nat.mod_eq_of_lt (by omega)]

theorem base_le_unitAt (u : TextureUnits) (i : Nat) : u.base ≤ u.unitAt i := by
  rw [UInt32.le_iff_toNat_le, toNat_unitAt]
  exact Nat.le_add_right _ _

theorem unitAt_lt_limit (u : TextureUnits) (i : Nat) : u.unitAt i < u.limit := by
  have hturn : i % u.span.toNat < u.span.toNat := Nat.mod_lt _ u.span_pos
  have hspan := u.toNat_span
  rw [UInt32.lt_iff_toNat_lt, toNat_unitAt]
  omega

/-- Units are equal just at places that are whole rounds apart. -/
theorem unitAt_eq_iff (u : TextureUnits) {i j : Nat} :
    u.unitAt i = u.unitAt j ↔ i ≡ j [MOD u.span.toNat] := by
  rw [← UInt32.toNat_inj, toNat_unitAt, toNat_unitAt, Nat.add_left_cancel_iff]
  rfl

/-- The units of at most one round are distinct, wherever it starts. -/
theorem nodup_round (u : TextureUnits) (start : Nat) {n : Nat} (hn : n ≤ u.span.toNat) :
    ((List.range' start n).map u.unitAt).Nodup := by
  refine List.Nodup.map_on ?_ List.nodup_range'
  intro i hi j hj heq
  obtain ⟨k, hk, rfl⟩ := List.mem_range'.mp hi
  obtain ⟨l, hl, rfl⟩ := List.mem_range'.mp hj
  have hmod : k ≡ l [MOD u.span.toNat] := by
    simpa using Nat.ModEq.add_left_cancel' start (u.unitAt_eq_iff.mp heq)
  rw [hmod.eq_of_lt_of_lt (hk.trans_le hn) (hl.trans_le hn)]

/-! ### Runs -/

/-- The allocators that calls lead to from a new one, each with the units that it gave out since it
was made or reset last. -/
inductive Reached (base limit : UInt32) : List UInt32 → TextureUnits → Prop
  | new : Reached base limit [] (new base limit)
  | next {units : List UInt32} {u : TextureUnits} (hu : Reached base limit units u) :
    Reached base limit (units ++ [u.next.1]) u.next.2
  | reset {units : List UInt32} {u : TextureUnits} (hu : Reached base limit units u) :
    Reached base limit [] u.reset

namespace Reached

variable {base limit : UInt32} {units : List UInt32} {u : TextureUnits}

/-- Calls change nothing that a reset does not bring back. -/
theorem reset_eq (hu : Reached base limit units u) : u.reset = TextureUnits.new base limit := by
  induction hu with
  | new => rfl
  | next _ ih => exact ih
  | reset _ ih => exact ih

/-- What the count and the mark tell as long as the count is not full. -/
theorem counts (hu : Reached base limit units u) (hroom : units.length < UInt32.size) :
    u.handed.toNat = units.length ∧
      (u.wrapped = true ↔ (TextureUnits.new base limit).span.toNat < units.length) := by
  induction hu with
  | new => exact ⟨rfl, by simp [TextureUnits.new]⟩
  | @next units u hu ih =>
    rw [List.length_append, List.length_singleton] at hroom ⊢
    obtain ⟨hhanded, hwrapped⟩ := ih (Nat.lt_of_succ_lt hroom)
    have hspan : u.span = (TextureUnits.new base limit).span := by
      rw [← hu.reset_eq]
      rfl
    constructor
    · show (u.handed + 1).toNat = _
      rw [UInt32.toNat_add, hhanded]
      exact Nat.mod_eq_of_lt hroom
    · show (u.wrapped || u.handed == u.span) = true ↔ _
      rw [Bool.or_eq_true, hwrapped, beq_iff_eq, ← UInt32.toNat_inj, hhanded, hspan]
      omega
  | reset => exact ⟨rfl, by simp [TextureUnits.reset]⟩

/-- Units are given out in the order of their places. -/
theorem units_eq (hu : Reached base limit units u) (hroom : units.length < UInt32.size) :
    units = (List.range units.length).map (TextureUnits.new base limit).unitAt := by
  induction hu with
  | new => rfl
  | @next units u hu ih =>
    rw [List.length_append, List.length_singleton] at hroom ⊢
    have hroom' : units.length < UInt32.size := Nat.lt_of_succ_lt hroom
    have hnext : u.next.1 = (TextureUnits.new base limit).unitAt units.length := by
      rw [next_fst, (hu.counts hroom').1, ← hu.reset_eq]
      rfl
    rw [List.range_succ, List.map_append, ← ih hroom', hnext]
    rfl
  | reset => rfl

theorem getElem?_units (hu : Reached base limit units u) (hroom : units.length < UInt32.size)
    {i : Nat} (hi : i < units.length) :
    units[i]? = some ((TextureUnits.new base limit).unitAt i) := by
  rw [hu.units_eq hroom, List.getElem?_map, List.getElem?_range hi]
  rfl

theorem nodup_iff (hu : Reached base limit units u) (hroom : units.length < UInt32.size) :
    units.Nodup ↔ units.length ≤ (TextureUnits.new base limit).span.toNat := by
  rw [hu.units_eq hroom, List.length_map, List.length_range]
  constructor
  · intro hnodup
    by_contra hlong
    rw [Nat.not_le] at hlong
    -- The first unit comes again behind the first round.
    have hturn := List.inj_on_of_nodup_map hnodup (List.mem_range.mpr (Nat.zero_lt_of_lt hlong))
      (List.mem_range.mpr hlong)
      ((TextureUnits.new base limit).unitAt_eq_iff.mpr (Nat.mod_self _).symm)
    exact (TextureUnits.new base limit).span_pos.ne hturn
  · intro hshort
    rw [List.range_eq_range']
    exact nodup_round _ 0 hshort

theorem nodup_of_infix (hu : Reached base limit units u) (hroom : units.length < UInt32.size)
    {run : List UInt32} (hrun : run <:+: units)
    (hlength : run.length ≤ (TextureUnits.new base limit).span.toNat) : run.Nodup := by
  obtain ⟨front, back, happend⟩ := hrun
  have hplaces : run = (List.range' front.length run.length).map
      (TextureUnits.new base limit).unitAt := by
    refine List.ext_getElem (by simp) fun i hi _ ↦ ?_
    have hwithin : front.length + i < units.length := by
      rw [← happend, List.length_append, List.length_append]
      omega
    have hplace := hu.getElem?_units hroom hwithin
    rw [← happend, List.append_assoc, List.getElem?_append_right (Nat.le_add_right _ _),
      Nat.add_sub_cancel_left, List.getElem?_append_left hi, List.getElem?_eq_getElem hi] at hplace
    simpa using hplace
  rw [hplaces]
  exact nodup_round _ _ hlength

end Reached

/-- Whatever was asked of an allocator before: the units that it gave out since it was made or reset
last, fewer than its count can tell, lie in its range, those of one round are distinct, and it tells
when a unit has come twice. A reset leads back to the new allocator, and so to the same units from
the first one on. -/
theorem reached_cycles {base limit : UInt32} {units : List UInt32} {u : TextureUnits}
    (hu : Reached base limit units u) (hroom : units.length < 2 ^ 32) :
    (∀ unit ∈ units, min base (max limit 1 - 1) ≤ unit ∧ unit < max limit 1) ∧
    (∀ run, run <:+: units →
      run.length = (max limit 1).toNat - (min base (max limit 1 - 1)).toNat → run.Nodup) ∧
    (u.wrapped = true ↔ ∃ unit, 2 ≤ units.count unit) ∧
    u.reset = new base limit ∧
    ∀ i (hi : i < units.length), units[i].toNat = (min base (max limit 1 - 1)).toNat +
      i % ((max limit 1).toNat - (min base (max limit 1 - 1)).toNat) := by
  have hspan : (new base limit).span.toNat =
      (max limit 1).toNat - (min base (max limit 1 - 1)).toNat := (new base limit).toNat_span
  refine ⟨fun unit hunit ↦ ?_,
    fun run hrun hlength ↦ hu.nodup_of_infix hroom hrun (hlength.trans hspan.symm).le, ?_,
    hu.reset_eq, fun i hi ↦ ?_⟩
  · rw [hu.units_eq hroom] at hunit
    obtain ⟨i, -, rfl⟩ := List.mem_map.mp hunit
    exact ⟨(new base limit).base_le_unitAt i, (new base limit).unitAt_lt_limit i⟩
  · rw [(hu.counts hroom).2, ← Nat.not_le, ← hu.nodup_iff hroom, List.nodup_iff_count_le_one]
    simp only [not_forall, Nat.not_le]
    rfl
  · have hplace := hu.getElem?_units hroom hi
    rw [List.getElem?_eq_getElem hi, Option.some_inj] at hplace
    rw [hplace, toNat_unitAt, hspan]
    rfl

/-- Two units are left above the first two; a unit that was given out before the reset does not
count. -/
theorem reached_cycles_twoUnits :
    ∃ u, Reached 2 4 [2, 3, 2] u ∧ [(2 : UInt32), 3, 2].length < 2 ^ 32 ∧
      (∀ unit ∈ [2, 3, 2], (2 : UInt32) ≤ unit ∧ unit < 4) ∧
      [(3 : UInt32), 2].Nodup ∧ u.wrapped = true ∧ u.reset = new 2 4 := by
  have hu : Reached 2 4 [2, 3, 2] (new 2 4).next.2.reset.next.2.next.2.next.2 :=
    .next (.next (.next (.reset (.next .new))))
  have hroom : [(2 : UInt32), 3, 2].length < 2 ^ 32 := by decide
  obtain ⟨hrange, hround, hwrapped, hreset, -⟩ := reached_cycles hu hroom
  exact ⟨_, hu, hroom, hrange, hround [3, 2] ⟨[2], [], rfl⟩ rfl, hwrapped.mpr ⟨2, by decide⟩,
    hreset⟩

end SceneRenderer.TextureUnits
