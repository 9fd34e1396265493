import Mathlib.Algebra.GroupWithZero.Nat
import Mathlib.Data.List.Nodup
import SceneRenderer.Program.Cache

/-!
The arena of the program cache stays consistent: the map of keys names exactly the occupied slots,
the free list exactly the vacant ones. Each operation is described by what it does to the entries
and generations of all slots, and preserves `ProgramCache.Sound`.
-/

set_option autoImplicit false
set_option relaxedAutoImplicit false

namespace SceneRenderer

open Shader

namespace ProgramCache

/-- The map of keys, the slots and the free list tell the same story. -/
structure Sound (c : ProgramCache) : Prop where
  /-- Slots can be told apart by their index. -/
  bounded : c.slots.size ≤ 2 ^ 32
  byKey : ∀ k i, c.byKey.get? k = some i ↔ ∃ e, c.entryAt? i = some e ∧ e.key = k
  free_nodup : c.free.Nodup
  mem_free : ∀ i, i ∈ c.free ↔ i.toNat < c.slots.size ∧ c.entryAt? i = none
  useCount : ∀ i e, c.entryAt? i = some e → 0 < e.useCount.toNat

theorem sound_new (options : ShaderOptions) : (new options).Sound where
  bounded := Nat.zero_le _
  byKey k i := by simp [new, entryAt?]
  free_nodup := List.nodup_nil
  mem_free i := by simp [new]
  useCount i e he := by simp [new, entryAt?] at he

/-! ### What operations do to the slots -/

section Views

variable (c : ProgramCache) (i : UInt32)

theorem lt_size_of_entryAt? {c : ProgramCache} {i : UInt32} {e : CacheEntry}
    (he : c.entryAt? i = some e) : i.toNat < c.slots.size := by
  by_contra hout
  rw [entryAt?, Array.getElem?_eq_none (Nat.le_of_not_lt hout)] at he
  exact Option.some_ne_none _ he.symm

theorem entryAt?_modifyEntry (h : ProgramHandle) (f : CacheEntry → CacheEntry) :
    (c.modifyEntry h f).entryAt? i =
      if i = h.index then (c.entryAt? i).map f else c.entryAt? i := by
  simp only [entryAt?, modifyEntry, Array.getElem?_modify, UInt32.toNat_inj, eq_comm (a := i)]
  split <;> cases c.slots[i.toNat]? <;> simp

theorem generationAt_modifyEntry (h : ProgramHandle) (f : CacheEntry → CacheEntry) :
    (c.modifyEntry h f).generationAt i = c.generationAt i := by
  simp only [generationAt, modifyEntry, Array.getElem?_modify]
  split <;> cases c.slots[i.toNat]? <;> simp

theorem entryAt?_destroyAt (j : UInt32) (entry : CacheEntry) :
    (c.destroyAt j entry).2.entryAt? i = if i = j then none else c.entryAt? i := by
  simp only [entryAt?, destroyAt, Array.getElem?_modify, UInt32.toNat_inj, eq_comm (a := i)]
  split
  · cases hslot : c.slots[i.toNat]? with
    | none => rfl
    | some slot => cases hentry : slot.entry <;> simp [CacheSlot.vacate, hentry]
  · rfl

theorem generationAt_destroyAt (j : UInt32) (entry : CacheEntry) :
    (c.destroyAt j entry).2.generationAt i =
      if i = j ∧ (c.entryAt? i).isSome then c.generationAt i + 1 else c.generationAt i := by
  simp only [generationAt, entryAt?, destroyAt, Array.getElem?_modify, UInt32.toNat_inj,
    eq_comm (a := i)]
  by_cases hij : j = i
  · cases hslot : c.slots[i.toNat]? with
    | none => simp [hij]
    | some slot => cases hentry : slot.entry <;> simp [CacheSlot.vacate, hij, hentry]
  · simp [hij]

theorem entryAt?_clear : c.clear.2.entryAt? i = none := by
  simp only [entryAt?, clear, Array.getElem?_map]
  cases hslot : c.slots[i.toNat]? with
  | none => rfl
  | some slot => cases hentry : slot.entry <;> simp [CacheSlot.vacate, hentry]

theorem generationAt_clear :
    c.clear.2.generationAt i =
      if (c.entryAt? i).isSome then c.generationAt i + 1 else c.generationAt i := by
  have hslots : c.clear.2.slots[i.toNat]? = c.slots[i.toNat]?.map CacheSlot.vacate := by
    simp [clear]
  rcases Option.eq_none_or_eq_some c.slots[i.toNat]? with hslot | ⟨slot, hslot⟩
  · simp [generationAt, entryAt?, hslots, hslot]
  · cases hentry : slot.entry <;>
      simp [generationAt, entryAt?, hslots, hslot, CacheSlot.vacate, hentry]

/-- The slot that the next new program goes to. -/
def nextIndex : UInt32 := c.free.head?.getD (UInt32.ofNat c.slots.size)

/-- A new program finds a slot. -/
def HasRoom : Prop := c.free = [] → c.slots.size < 2 ^ 32

variable {c}

theorem nextIndex_toNat (hfree : c.free = []) (hroom : c.HasRoom) :
    c.nextIndex.toNat = c.slots.size := by
  rw [nextIndex, hfree]
  exact UInt32.toNat_ofNat_of_lt' (hroom hfree)

theorem entryAt?_nextIndex (hc : c.Sound) (hroom : c.HasRoom) :
    c.entryAt? c.nextIndex = none := by
  cases hfree : c.free with
  | nil =>
    rw [entryAt?, nextIndex_toNat hfree hroom, Array.getElem?_eq_none (Nat.le_refl _)]
    rfl
  | cons j rest =>
    have hj : j ∈ c.free := by rw [hfree]; exact List.mem_cons_self
    rw [nextIndex, hfree]
    exact ((hc.mem_free j).mp hj).2

theorem store_handle (e : CacheEntry) (hroom : c.HasRoom) :
    (c.store e).1 = ⟨c.nextIndex, c.generationAt c.nextIndex⟩ := by
  cases hfree : c.free with
  | nil =>
    have hgeneration : c.generationAt c.nextIndex = 0 := by
      rw [generationAt, nextIndex_toNat hfree hroom, Array.getElem?_eq_none (Nat.le_refl _)]
      rfl
    rw [hgeneration, store, nextIndex, hfree]
    rfl
  | cons j rest =>
    rw [store, nextIndex, hfree]
    rfl

theorem entryAt?_store (hc : c.Sound) (hroom : c.HasRoom) (e : CacheEntry) :
    (c.store e).2.entryAt? i = if i = c.nextIndex then some e else c.entryAt? i := by
  cases hfree : c.free with
  | nil =>
    have hindex : c.nextIndex.toNat = c.slots.size := nextIndex_toNat hfree hroom
    have hslots : (c.store e).2.slots = c.slots.push ⟨0, some e⟩ := by simp [store, hfree]
    rw [entryAt?, hslots, Array.getElem?_push, ← hindex]
    simp only [UInt32.toNat_inj]
    split <;> rfl
  | cons j rest =>
    have hj : j ∈ c.free := by rw [hfree]; exact List.mem_cons_self
    have hlt : j.toNat < c.slots.size := ((hc.mem_free j).mp hj).1
    have hindex : c.nextIndex = j := by rw [nextIndex, hfree]; rfl
    have hslots : (c.store e).2.slots =
        c.slots.modify j.toNat fun s ↦ { s with entry := some e } := by
      simp [store, hfree]
    rw [entryAt?, hslots, Array.getElem?_modify, hindex]
    simp only [UInt32.toNat_inj, eq_comm (a := i)]
    split
    · rename_i hij
      rw [← hij, Array.getElem?_eq_getElem hlt]
      rfl
    · rfl

theorem generationAt_store (hroom : c.HasRoom) (e : CacheEntry) :
    (c.store e).2.generationAt i = c.generationAt i := by
  cases hfree : c.free with
  | nil =>
    have hindex : c.nextIndex.toNat = c.slots.size := nextIndex_toNat hfree hroom
    have hslots : (c.store e).2.slots = c.slots.push ⟨0, some e⟩ := by simp [store, hfree]
    rw [generationAt, generationAt, hslots, Array.getElem?_push]
    split
    · rename_i hi
      rw [hi, Array.getElem?_eq_none (Nat.le_refl _)]
      rfl
    · rfl
  | cons j rest =>
    have hslots : (c.store e).2.slots =
        c.slots.modify j.toNat fun s ↦ { s with entry := some e } := by
      simp [store, hfree]
    rw [generationAt, generationAt, hslots, Array.getElem?_modify]
    split <;> cases c.slots[i.toNat]? <;> rfl

theorem size_le_store (e : CacheEntry) : c.slots.size ≤ (c.store e).2.slots.size := by
  cases hfree : c.free with
  | nil => simp [store, hfree]
  | cons j rest => simp [store, hfree]

end Views

/-! ### What operations do to handles -/

section Handles

variable {c : ProgramCache} {h : ProgramHandle} {e : CacheEntry} (h' : ProgramHandle)

theorem entry?_def (c : ProgramCache) (h : ProgramHandle) :
    c.entry? h = if c.generationAt h.index = h.generation then c.entryAt? h.index else none :=
  rfl

theorem entry?_eq_some_iff :
    c.entry? h = some e ↔ c.generationAt h.index = h.generation ∧ c.entryAt? h.index = some e := by
  rw [entry?_def]
  split <;> simp_all

theorem handle_eq {e' : CacheEntry} (he : c.entry? h = some e) (he' : c.entry? h' = some e')
    (hindex : h.index = h'.index) : h = h' := by
  obtain ⟨hgeneration, _⟩ := entry?_eq_some_iff.mp he
  obtain ⟨hgeneration', _⟩ := entry?_eq_some_iff.mp he'
  rw [hindex, hgeneration'] at hgeneration
  cases h
  cases h'
  simp_all

/-- Another handle of the same slot is stale. -/
theorem entry?_eq_none_of_ne (he : c.entry? h = some e) (hne : h' ≠ h)
    (hindex : h'.index = h.index) :
    c.entry? h' = none := by
  cases he' : c.entry? h' with
  | none => rfl
  | some e' => exact absurd (handle_eq h he' he hindex) hne

theorem entry?_modifyEntry (f : CacheEntry → CacheEntry) (he : c.entry? h = some e) :
    entry? (c.modifyEntry h f) h' = if h' = h then some (f e) else c.entry? h' := by
  rw [entry?_def, generationAt_modifyEntry, entryAt?_modifyEntry]
  by_cases hh : h' = h
  · obtain ⟨hgeneration, hentry⟩ := entry?_eq_some_iff.mp he
    simp [hh, hgeneration, hentry]
  · rw [if_neg hh]
    by_cases hindex : h'.index = h.index
    · have hnone := entry?_eq_none_of_ne h' he hh hindex
      rw [entry?_def] at hnone ⊢
      split <;> simp_all
    · rw [if_neg hindex, entry?_def]

theorem entry?_destroyAt (he : c.entry? h = some e) :
    entry? (c.destroyAt h.index e).2 h' = if h' = h then none else c.entry? h' := by
  rw [entry?_def, generationAt_destroyAt, entryAt?_destroyAt]
  by_cases hindex : h'.index = h.index
  · rw [if_pos hindex]
    by_cases hh : h' = h
    · simp [hh]
    · rw [if_neg hh, entry?_eq_none_of_ne h' he hh hindex, ite_self]
  · have hh : h' ≠ h := fun heq ↦ hindex (heq ▸ rfl)
    simp [hindex, hh, entry?_def]

theorem entry?_store (hc : c.Sound) (hroom : c.HasRoom) :
    entry? (c.store e).2 h' = if h' = (c.store e).1 then some e else c.entry? h' := by
  rw [entry?_def, generationAt_store _ hroom, entryAt?_store _ hc hroom, store_handle e hroom]
  by_cases hindex : h'.index = c.nextIndex
  · by_cases hgeneration : c.generationAt c.nextIndex = h'.generation
    · have hh : h' = ⟨c.nextIndex, c.generationAt c.nextIndex⟩ := by
        cases h'
        simp_all
      simp [hh]
    · have hh : h' ≠ ⟨c.nextIndex, c.generationAt c.nextIndex⟩ := by
        rintro rfl
        exact hgeneration rfl
      rw [if_neg hh, hindex, if_neg hgeneration, entry?_def, hindex, if_neg hgeneration]
  · have hh : h' ≠ ⟨c.nextIndex, c.generationAt c.nextIndex⟩ := by
      rintro rfl
      exact hindex rfl
    simp [hindex, hh, entry?_def]

theorem entry?_store_self (hc : c.Sound) (hroom : c.HasRoom) :
    c.entry? (c.store e).1 = none := by
  rw [store_handle e hroom, entry?_def, entryAt?_nextIndex hc hroom, ite_self]

theorem entry?_clear : entry? c.clear.2 h' = none := by
  rw [entry?_def, entryAt?_clear, ite_self]

/-- A handle that is found has a program. -/
theorem exists_entry?_of_find? {k : ProgramKey} (hfind : c.find? k = some h) :
    ∃ e, c.entry? h = some e := by
  obtain ⟨i, -, hhandle⟩ := Option.bind_eq_some_iff.mp hfind
  split at hhandle
  · rename_i hsome
    obtain ⟨e, he⟩ := Option.isSome_iff_exists.mp hsome
    obtain rfl := Option.some_inj.mp hhandle
    exact ⟨e, entry?_eq_some_iff.mpr ⟨rfl, he⟩⟩
  · exact absurd hhandle nofun

/-- A key is found under the handle of its program. -/
theorem find?_eq_some_iff (hc : c.Sound) {k : ProgramKey} :
    c.find? k = some h ↔ ∃ e, c.entry? h = some e ∧ e.key = k := by
  constructor
  · intro hfind
    obtain ⟨i, hi, hhandle⟩ := Option.bind_eq_some_iff.mp hfind
    obtain ⟨e, he, hkey⟩ := (hc.byKey k i).mp hi
    rw [he] at hhandle
    have hh : h = ⟨i, c.generationAt i⟩ := (Option.some_inj.mp hhandle).symm
    exact ⟨e, entry?_eq_some_iff.mpr (by rw [hh]; exact ⟨rfl, he⟩), hkey⟩
  · rintro ⟨e, he, hkey⟩
    obtain ⟨hgeneration, hentry⟩ := entry?_eq_some_iff.mp he
    have hi : c.byKey.get? k = some h.index := (hc.byKey k h.index).mpr ⟨e, hentry, hkey⟩
    rw [find?, hi, Option.bind_eq_bind, Option.bind_some, hentry, hgeneration]
    rfl

theorem find?_eq_none_iff (hc : c.Sound) {k : ProgramKey} :
    c.find? k = none ↔ ∀ h e, c.entry? h = some e → e.key ≠ k := by
  rw [Option.eq_none_iff_forall_ne_some]
  constructor
  · exact fun hnone h e he hkey ↦ hnone h ((find?_eq_some_iff hc).mpr ⟨e, he, hkey⟩)
  · intro hnone h hfind
    obtain ⟨e, he, hkey⟩ := (find?_eq_some_iff hc).mp hfind
    exact hnone h e he hkey

end Handles

/-! ### Soundness -/

section Sound

variable {c : ProgramCache}

theorem Sound.key_unique (hc : c.Sound) {i j : UInt32} {e f : CacheEntry}
    (he : c.entryAt? i = some e) (hf : c.entryAt? j = some f) (hkey : e.key = f.key) : i = j := by
  have hi : c.byKey.get? e.key = some i := (hc.byKey _ _).mpr ⟨e, he, rfl⟩
  have hj : c.byKey.get? e.key = some j := (hc.byKey _ _).mpr ⟨f, hf, hkey.symm⟩
  exact Option.some_inj.mp (hi.symm.trans hj)

/-- A change of an entry that keeps its key and leaves it with uses. -/
theorem Sound.modifyEntry (hc : c.Sound) (h : ProgramHandle) {f : CacheEntry → CacheEntry}
    (hkey : ∀ e, (f e).key = e.key)
    (huses : ∀ e, c.entryAt? h.index = some e → 0 < (f e).useCount.toNat) :
    (c.modifyEntry h f).Sound where
  bounded := by
    show (c.slots.modify _ _).size ≤ 2 ^ 32
    rw [Array.size_modify]
    exact hc.bounded
  byKey k i := by
    show c.byKey.get? k = some i ↔ _
    rw [hc.byKey, entryAt?_modifyEntry]
    split
    · constructor
      · rintro ⟨e, he, rfl⟩
        exact ⟨f e, by rw [he]; rfl, hkey e⟩
      · rintro ⟨e, he, rfl⟩
        obtain ⟨e, he', rfl⟩ := Option.map_eq_some_iff.mp he
        exact ⟨e, he', (hkey e).symm⟩
    · rfl
  free_nodup := hc.free_nodup
  mem_free i := by
    show i ∈ c.free ↔ i.toNat < (c.slots.modify _ _).size ∧ _
    rw [Array.size_modify, entryAt?_modifyEntry, hc.mem_free]
    split
    · rw [Option.map_eq_none_iff]
    · rfl
  useCount i e he := by
    rw [entryAt?_modifyEntry] at he
    split at he
    · rename_i hi
      obtain ⟨e, he', rfl⟩ := Option.map_eq_some_iff.mp he
      exact huses e (hi ▸ he')
    · exact hc.useCount i e he

theorem byKey_store (c : ProgramCache) (e : CacheEntry) :
    (c.store e).2.byKey = c.byKey.insert e.key c.nextIndex := by
  cases hfree : c.free <;> simp [ProgramCache.store, nextIndex, hfree]

theorem Sound.store (hc : c.Sound) (hroom : c.HasRoom) {e : CacheEntry}
    (hnew : c.byKey.get? e.key = none) (huses : 0 < e.useCount.toNat) : (c.store e).2.Sound where
  bounded := by
    cases hfree : c.free with
    | nil =>
      have hsize := hroom hfree
      simp [ProgramCache.store, hfree]
      omega
    | cons j rest => simpa [ProgramCache.store, hfree] using hc.bounded
  byKey k i := by
    have hfresh : ∀ i f, c.entryAt? i = some f → f.key ≠ e.key := by
      intro i f hf hkey
      rw [(hc.byKey e.key i).mpr ⟨f, hf, hkey⟩] at hnew
      exact Option.some_ne_none _ hnew
    rw [byKey_store, Registry.get?_insert, entryAt?_store i hc hroom]
    by_cases hk : k = e.key
    · subst hk
      rw [if_pos rfl, Option.some_inj]
      by_cases hi : i = c.nextIndex
      · simp [hi]
      · rw [if_neg hi]
        refine ⟨fun h ↦ absurd h.symm hi, ?_⟩
        rintro ⟨f, hf, hkey⟩
        exact absurd hkey (hfresh i f hf)
    · rw [if_neg hk, hc.byKey]
      by_cases hi : i = c.nextIndex
      · rw [if_pos hi, hi, entryAt?_nextIndex hc hroom]
        simp [Ne.symm hk]
      · rw [if_neg hi]
  free_nodup := by
    cases hfree : c.free with
    | nil => simp [ProgramCache.store, hfree]
    | cons j rest =>
      have hnodup := hc.free_nodup
      rw [hfree, List.nodup_cons] at hnodup
      simpa [ProgramCache.store, hfree] using hnodup.2
  mem_free i := by
    rw [entryAt?_store i hc hroom]
    have hmem := hc.mem_free i
    cases hfree : c.free with
    | nil =>
      have hindex : c.nextIndex.toNat = c.slots.size := nextIndex_toNat hfree hroom
      rw [hfree] at hmem
      by_cases hi : i = c.nextIndex
      · simp [ProgramCache.store, hfree, hi]
      · have hne : i.toNat ≠ c.slots.size := fun h ↦ hi (UInt32.toNat_inj.mp (h.trans hindex.symm))
        have hlt : i.toNat < c.slots.size + 1 ↔ i.toNat < c.slots.size := by omega
        simpa [ProgramCache.store, hfree, hi, hlt] using hmem
    | cons j rest =>
      have hindex : c.nextIndex = j := by rw [nextIndex, hfree]; rfl
      have hnodup := hc.free_nodup
      rw [hfree, List.nodup_cons] at hnodup
      rw [hfree, List.mem_cons] at hmem
      by_cases hi : i = j
      · simp [ProgramCache.store, hfree, hindex, hi, hnodup.1]
      · simpa [ProgramCache.store, hfree, hindex, hi] using hmem
  useCount i f hf := by
    rw [entryAt?_store i hc hroom] at hf
    split at hf
    · exact Option.some_inj.mp hf ▸ huses
    · exact hc.useCount i f hf

theorem Sound.destroyAt (hc : c.Sound) {j : UInt32} {e : CacheEntry}
    (he : c.entryAt? j = some e) : (c.destroyAt j e).2.Sound where
  bounded := by
    show (c.slots.modify _ _).size ≤ 2 ^ 32
    rw [Array.size_modify]
    exact hc.bounded
  byKey k i := by
    show (c.byKey.erase e.key).get? k = some i ↔ _
    rw [Registry.get?_erase, entryAt?_destroyAt]
    by_cases hk : k = e.key
    · subst hk
      rw [if_pos rfl]
      refine ⟨fun h ↦ absurd h.symm (Option.some_ne_none _), ?_⟩
      rintro ⟨f, hf, hkey⟩
      split at hf
      · exact absurd hf.symm (Option.some_ne_none _)
      · rename_i hi
        exact absurd (hc.key_unique hf he hkey) hi
    · rw [if_neg hk, hc.byKey]
      by_cases hi : i = j
      · rw [if_pos hi, hi, he]
        simp [Ne.symm hk]
      · rw [if_neg hi]
  free_nodup := by
    show (j :: c.free).Nodup
    refine List.nodup_cons.mpr ⟨fun hj ↦ ?_, hc.free_nodup⟩
    rw [((hc.mem_free j).mp hj).2] at he
    exact Option.some_ne_none _ he.symm
  mem_free i := by
    show i ∈ j :: c.free ↔ i.toNat < (c.slots.modify _ _).size ∧ _
    rw [Array.size_modify, entryAt?_destroyAt, List.mem_cons, hc.mem_free]
    by_cases hi : i = j
    · simp [hi, lt_size_of_entryAt? he]
    · simp [hi]
  useCount i f hf := by
    rw [entryAt?_destroyAt] at hf
    split at hf
    · exact absurd hf.symm (Option.some_ne_none _)
    · exact hc.useCount i f hf

/-- The programs with their positions, as they are taken out. -/
def taken (c : ProgramCache) : List (Nat × CacheEntry) :=
  c.slots.toList.zipIdx.filterMap fun s ↦ s.1.entry.map (s.2, ·)

theorem mem_taken {n : Nat} {e : CacheEntry} :
    (n, e) ∈ c.taken ↔ c.slots[n]?.bind (·.entry) = some e := by
  rw [taken, List.mem_filterMap]
  constructor
  · rintro ⟨⟨slot, m⟩, hmem, hmap⟩
    obtain ⟨f, hf, hpair⟩ := Option.map_eq_some_iff.mp hmap
    obtain ⟨rfl, rfl⟩ := Prod.mk.inj hpair
    rw [List.mem_zipIdx_iff_getElem?, Array.getElem?_toList] at hmem
    simpa [hmem] using hf
  · intro he
    obtain ⟨slot, hslot, hentry⟩ := Option.bind_eq_some_iff.mp he
    refine ⟨(slot, n), ?_, by simp [hentry]⟩
    rw [List.mem_zipIdx_iff_getElem?, Array.getElem?_toList]
    exact hslot

theorem lt_size_of_mem_taken {t : Nat × CacheEntry} (ht : t ∈ c.taken) : t.1 < c.slots.size := by
  by_contra hout
  have hget := mem_taken.mp ht
  rw [Array.getElem?_eq_none (Nat.le_of_not_lt hout)] at hget
  exact Option.some_ne_none _ hget.symm

theorem Sound.mem_map_taken (hc : c.Sound) (i : UInt32) :
    i ∈ c.taken.map (fun t ↦ UInt32.ofNat t.1) ↔ (c.entryAt? i).isSome := by
  rw [List.mem_map, Option.isSome_iff_exists]
  constructor
  · rintro ⟨⟨n, e⟩, hmem, rfl⟩
    have hlt : n < 2 ^ 32 := Nat.lt_of_lt_of_le (lt_size_of_mem_taken hmem) hc.bounded
    refine ⟨e, ?_⟩
    rw [entryAt?, UInt32.toNat_ofNat_of_lt' hlt]
    exact mem_taken.mp hmem
  · rintro ⟨e, he⟩
    exact ⟨(i.toNat, e), mem_taken.mpr he, UInt32.ofNat_toNat⟩

theorem Sound.nodup_map_taken (hc : c.Sound) :
    (c.taken.map fun t ↦ UInt32.ofNat t.1).Nodup := by
  have hpositions : (c.taken.map Prod.fst).Nodup := by
    have hsublist : (c.taken.map Prod.fst).Sublist (c.slots.toList.zipIdx.map Prod.snd) := by
      rw [taken]
      generalize c.slots.toList.zipIdx = l
      induction l with
      | nil => exact List.Sublist.slnil
      | cons s rest ih =>
        cases hentry : s.1.entry with
        | none => simpa [hentry] using ih.cons s.2
        | some e => simpa [hentry] using ih.cons_cons s.2
    refine List.Nodup.sublist hsublist ?_
    rw [List.zipIdx_map_snd]
    exact List.nodup_range'
  suffices hmap : ((c.taken.map Prod.fst).map fun n ↦ UInt32.ofNat n).Nodup by
    rwa [List.map_map] at hmap
  refine List.Nodup.map_on ?_ hpositions
  intro n hn m hm heq
  obtain ⟨t, ht, rfl⟩ := List.mem_map.mp hn
  obtain ⟨u, hu, rfl⟩ := List.mem_map.mp hm
  have hlt : t.1 < 2 ^ 32 := Nat.lt_of_lt_of_le (lt_size_of_mem_taken ht) hc.bounded
  have hlt' : u.1 < 2 ^ 32 := Nat.lt_of_lt_of_le (lt_size_of_mem_taken hu) hc.bounded
  rw [← UInt32.toNat_ofNat_of_lt' hlt, ← UInt32.toNat_ofNat_of_lt' hlt', heq]

theorem Sound.clear (hc : c.Sound) : c.clear.2.Sound where
  bounded := by
    show (c.slots.map _).size ≤ 2 ^ 32
    rw [Array.size_map]
    exact hc.bounded
  byKey k i := by
    show (Registry.empty : Registry ProgramKey UInt32).get? k = some i ↔ _
    simp [entryAt?_clear]
  free_nodup := by
    show ((c.taken.map fun t ↦ UInt32.ofNat t.1).reverse ++ c.free).Nodup
    refine List.nodup_append'.mpr ⟨List.nodup_reverse.mpr hc.nodup_map_taken, hc.free_nodup, ?_⟩
    intro i hi hfree
    rw [List.mem_reverse, hc.mem_map_taken] at hi
    rw [((hc.mem_free i).mp hfree).2] at hi
    exact Bool.false_ne_true hi
  mem_free i := by
    show i ∈ (c.taken.map fun t ↦ UInt32.ofNat t.1).reverse ++ c.free ↔
      i.toNat < (c.slots.map _).size ∧ _
    rw [List.mem_append, List.mem_reverse, hc.mem_map_taken, hc.mem_free, Array.size_map,
      entryAt?_clear]
    cases he : c.entryAt? i with
    | none => simp
    | some e => simp [lt_size_of_entryAt? he]
  useCount i e he := by
    rw [entryAt?_clear] at he
    exact absurd he.symm (Option.some_ne_none _)

end Sound

/-! ### Acquiring and releasing -/

section Operations

variable {c : ProgramCache} {k : ProgramKey} {h : ProgramHandle} {e : CacheEntry}

theorem Sound.hit (hc : c.Sound) (h : ProgramHandle) {uses : UInt32} (huses : 0 < uses.toNat) :
    (c.hit h uses).Sound := by
  have hmodified := hc.modifyEntry h (f := fun e ↦ { e with useCount := uses })
    (fun _ ↦ rfl) fun _ _ ↦ huses
  exact ⟨hmodified.bounded, hmodified.byKey, hmodified.free_nodup, hmodified.mem_free,
    hmodified.useCount⟩

theorem entry?_hit (h' : ProgramHandle) (he : c.entry? h = some e) (uses : UInt32) :
    entry? (c.hit h uses) h' =
      if h' = h then some { e with useCount := uses } else c.entry? h' :=
  entry?_modifyEntry h' _ he

theorem byKey_eq_none (hc : c.Sound) (hfind : c.find? k = none) : c.byKey.get? k = none := by
  cases hi : c.byKey.get? k with
  | none => rfl
  | some i =>
    obtain ⟨e, he, hkey⟩ := (hc.byKey k i).mp hi
    have hentry : c.entry? ⟨i, c.generationAt i⟩ = some e := entry?_eq_some_iff.mpr ⟨rfl, he⟩
    exact absurd hkey ((find?_eq_none_iff hc).mp hfind _ e hentry)

/-- A release succeeds exactly for a live handle, and its last use takes the program along. -/
theorem release_eq (c : ProgramCache) (h : ProgramHandle) :
    c.release h = match c.entry? h with
      | some e =>
        if e.useCount ≤ 1 then .ok (c.destroyAt h.index e)
        else .ok ([], c.modifyEntry h fun e ↦ { e with useCount := e.useCount - 1 })
      | none => .error (if h.index.toNat < c.slots.size then .stale h else .unknown h) :=
  rfl

/-- The uses that are left when one of several is given back. -/
theorem toNat_useCount_sub_one {e : CacheEntry} (huses : 0 < e.useCount.toNat) :
    (e.useCount - 1).toNat = e.useCount.toNat - 1 :=
  UInt32.toNat_sub_of_le _ _ (UInt32.le_iff_toNat_le.mpr huses)

theorem useCount_le_one_iff {e : CacheEntry} (huses : 0 < e.useCount.toNat) :
    e.useCount ≤ 1 ↔ e.useCount.toNat = 1 := by
  rw [UInt32.le_iff_toNat_le]
  exact ⟨fun hle ↦ Nat.le_antisymm hle huses, Nat.le_of_eq⟩

/-- What an accepted release does. -/
theorem release_ok (hc : c.Sound) {commands : List Command} {c' : ProgramCache}
    (hrelease : c.release h = .ok (commands, c')) :
    ∃ e, c.entry? h = some e ∧ c'.Sound ∧
      commands = (if e.useCount.toNat = 1 then [.deleteProgram e.program.id] else []) ∧
      ∀ h', entry? c' h' =
        if h' = h then
          if e.useCount.toNat = 1 then none else some { e with useCount := e.useCount - 1 }
        else c.entry? h' := by
  rw [release_eq] at hrelease
  cases he : c.entry? h with
  | none =>
    rw [he] at hrelease
    exact absurd hrelease nofun
  | some e =>
    have huses : 0 < e.useCount.toNat := hc.useCount _ e (entry?_eq_some_iff.mp he).2
    rw [he] at hrelease
    simp only [useCount_le_one_iff huses] at hrelease
    refine ⟨e, rfl, ?_⟩
    by_cases hlast : e.useCount.toNat = 1
    · simp only [hlast, if_true] at hrelease ⊢
      obtain ⟨rfl, rfl⟩ := Prod.mk.inj (Except.ok.inj hrelease)
      exact ⟨hc.destroyAt (entry?_eq_some_iff.mp he).2, rfl, fun h' ↦ entry?_destroyAt h' he⟩
    · simp only [hlast, if_false] at hrelease ⊢
      obtain ⟨rfl, rfl⟩ := Prod.mk.inj (Except.ok.inj hrelease)
      refine ⟨hc.modifyEntry h (fun _ ↦ rfl) ?_, rfl, fun h' ↦ entry?_modifyEntry h' _ he⟩
      intro e' he'
      rw [(entry?_eq_some_iff.mp he).2] at he'
      cases he'
      show 0 < (e.useCount - 1).toNat
      rw [toNat_useCount_sub_one huses]
      omega

theorem options_release {commands : List Command} {c' : ProgramCache}
    (hrelease : c.release h = .ok (commands, c')) : c'.options = c.options := by
  rw [release_eq] at hrelease
  split at hrelease
  · split at hrelease
    · exact congrArg (fun r ↦ r.2.options) (Except.ok.inj hrelease).symm
    · exact congrArg (fun r ↦ r.2.options) (Except.ok.inj hrelease).symm
  · exact absurd hrelease nofun

theorem options_store (c : ProgramCache) (e : CacheEntry) : (c.store e).2.options = c.options := by
  unfold store
  split <;> rfl

theorem release_isOk_iff : (∃ out, c.release h = .ok out) ↔ ∃ e, c.entry? h = some e := by
  rw [release_eq]
  cases c.entry? h with
  | none => simp
  | some e =>
    simp only [Option.some_inj, exists_eq', iff_true]
    split
    · exact ⟨_, rfl⟩
    · exact ⟨_, rfl⟩

variable {δ : Type} [Device δ] {device device' : δ}
  {build : ShaderOptions → ProgramKey → Except Fault ProgramSource}

theorem acquireWith_hit (hfind : c.find? k = some h) (he : c.entry? h = some e) {uses : UInt32}
    (huses : uses.toNat = e.useCount.toNat + 1) :
    c.acquireWith device k build = .ok (.ok h, c.hit h uses, device) := by
  have hadd : checkedAdd ((c.useCount? h).getD 0) 1 = .ok uses := by
    rw [useCount?, he]
    exact checkedAdd_eq_ok_iff.mpr huses
  rw [acquireWith, hfind]
  dsimp only
  rw [hadd]
  rfl

/-- One more use of the program with a key can be counted. -/
def Shareable (c : ProgramCache) (k : ProgramKey) : Prop :=
  ∀ h e, c.find? k = some h → c.entry? h = some e → e.useCount.toNat + 1 < 2 ^ 32

/-- The cache after a program could not be linked. -/
def fail (c : ProgramCache) : ProgramCache :=
  { c with stats := { c.stats with failures := c.stats.failures + 1 } }

/-- An acquisition without a hit asks the builder for the source and links it. -/
theorem acquireWith_miss (hfind : c.find? k = none) {source : ProgramSource}
    (hsource : build c.options k = .ok source) :
    c.acquireWith device k build =
      match LinkedProgram.link device source with
      | (.error e, device) => .ok (.error e, c.fail, device)
      | (.ok program, device) =>
        .ok (.ok (c.store ⟨k, source, program, 1⟩).1, (c.store ⟨k, source, program, 1⟩).2,
          device) := by
  rw [acquireWith, hfind, hsource]
  rfl

/-- What an acquisition does that gives an answer. -/
theorem acquireWith_ok {result : Except ProgramError ProgramHandle} {c' : ProgramCache}
    (hacquire : c.acquireWith device k build = .ok (result, c', device')) :
    (∃ h e uses, c.find? k = some h ∧ c.entry? h = some e ∧
      uses.toNat = e.useCount.toNat + 1 ∧ result = .ok h ∧ c' = c.hit h uses ∧
      device' = device) ∨
    (c.find? k = none ∧ ∃ source, build c.options k = .ok source ∧
      ((∃ e, LinkedProgram.link device source = (.error e, device') ∧ result = .error e ∧
        c' = c.fail) ∨
      ∃ program, LinkedProgram.link device source = (.ok program, device') ∧
        result = .ok (c.store ⟨k, source, program, 1⟩).1 ∧
        c' = (c.store ⟨k, source, program, 1⟩).2)) := by
  cases hfind : c.find? k with
  | some h =>
    obtain ⟨e, he⟩ := exists_entry?_of_find? hfind
    simp only [acquireWith, hfind, useCount?, he, Option.map_some, Option.getD_some] at hacquire
    rcases hadd : checkedAdd e.useCount 1 with fault | uses
    · rw [hadd] at hacquire
      exact absurd hacquire nofun
    · rw [hadd] at hacquire
      cases hacquire
      exact .inl ⟨h, e, uses, rfl, he, checkedAdd_eq_ok_iff.mp hadd, rfl, rfl, rfl⟩
  | none =>
    refine .inr ⟨rfl, ?_⟩
    cases hsource : build c.options k with
    | error fault =>
      rw [acquireWith, hfind, hsource] at hacquire
      exact absurd hacquire nofun
    | ok source =>
      rw [acquireWith_miss hfind hsource] at hacquire
      refine ⟨source, rfl, ?_⟩
      rcases hlink : LinkedProgram.link device source with ⟨e | program, device''⟩
      · rw [hlink] at hacquire
        cases hacquire
        exact .inl ⟨e, rfl, rfl, rfl⟩
      · rw [hlink] at hacquire
        cases hacquire
        exact .inr ⟨program, rfl, rfl, rfl⟩

end Operations

end ProgramCache

end SceneRenderer
