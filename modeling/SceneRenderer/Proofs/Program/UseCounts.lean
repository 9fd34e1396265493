import SceneRenderer.Proofs.Program.CacheSound
import SceneRenderer.Proofs.Program.CacheTrace

/-!
The program cache agrees with its trace: an entry has the uses of its handle, the generation of a
slot counts the programs it lost, and a handle is of the program in its slot or of one that the slot
lost. Each call to the cache keeps it so.
-/

set_option autoImplicit false
set_option relaxedAutoImplicit false

namespace SceneRenderer

open Shader

namespace ProgramCache

/-- The cache agrees with its trace. -/
structure Tracks (c : ProgramCache) (t : CacheTrace) : Prop where
  sound : c.Sound
  live : ∀ h e, c.entry? h = some e → t.uses h = e.useCount.toNat ∧ .acquired e.key h ∈ t
  gone : ∀ h, c.entry? h = none → t.uses h = 0
  generation : ∀ i, c.generationAt i = UInt32.ofNat (t.losses i)
  /-- A handle is of the program in its slot or of one that the slot lost. -/
  issued : ∀ k h, .acquired k h ∈ t → h.index.toNat < c.slots.size ∧
    h.generation.toNat < t.losses h.index + if (c.entryAt? h.index).isSome then 1 else 0
  keys : ∀ k k' h, .acquired k h ∈ t → .acquired k' h ∈ t → k = k'

theorem tracks_new (options : ShaderOptions) : Tracks (.new options) [] where
  sound := sound_new options
  live h e he := by simp [ProgramCache.entry?, entryAt?, new] at he
  gone h _ := rfl
  generation i := rfl
  issued k h hmem := absurd hmem List.not_mem_nil
  keys k k' h hmem := absurd hmem List.not_mem_nil

namespace Tracks

variable {c : ProgramCache} {t : CacheTrace}

/-- An entry has the uses of its handle, and a handle without an entry has none. -/
theorem useCount?_eq (htracks : Tracks c t) (h : ProgramHandle) :
    (c.useCount? h).map UInt32.toNat = if t.uses h = 0 then none else some (t.uses h) := by
  rw [ProgramCache.useCount?]
  cases he : c.entry? h with
  | none => rw [if_pos (htracks.gone h he)]; rfl
  | some e =>
    have huses := htracks.sound.useCount _ e (entry?_eq_some_iff.mp he).2
    rw [(htracks.live h e he).1, if_neg (Nat.ne_of_gt huses)]
    rfl

theorem entry?_of_uses (htracks : Tracks c t) {h : ProgramHandle} (huses : 0 < t.uses h) :
    ∃ e, c.entry? h = some e ∧ e.useCount.toNat = t.uses h := by
  cases he : c.entry? h with
  | none => exact absurd (htracks.gone h he) (Nat.ne_of_gt huses)
  | some e => exact ⟨e, rfl, ((htracks.live h e he).1).symm⟩

/-- When every slot is occupied, every slot has a handle in use. -/
theorem size_le_outstanding (htracks : Tracks c t) (hfree : c.free = []) :
    c.slots.size ≤ t.outstanding := by
  let handleAt (n : Nat) : ProgramHandle := ⟨UInt32.ofNat n, c.generationAt (UInt32.ofNat n)⟩
  have htoNat {n : Nat} (hn : n < c.slots.size) : (UInt32.ofNat n).toNat = n :=
    UInt32.toNat_ofNat_of_lt' (Nat.lt_of_lt_of_le hn htracks.sound.bounded)
  have hinj : Set.InjOn handleAt (Finset.range c.slots.size) := by
    intro n hn m hm heq
    have hindex := congrArg (fun h : ProgramHandle ↦ h.index.toNat) heq
    rwa [htoNat (List.mem_range.mp hn), htoNat (List.mem_range.mp hm)] at hindex
  have hlive : ∀ h ∈ (Finset.range c.slots.size).image handleAt, 0 < t.uses h := by
    intro h hh
    obtain ⟨n, hn, rfl⟩ := Finset.mem_image.mp hh
    have hlt : (UInt32.ofNat n).toNat < c.slots.size := by
      rw [htoNat (Finset.mem_range.mp hn)]
      exact Finset.mem_range.mp hn
    cases he : c.entryAt? (UInt32.ofNat n) with
    | none =>
      have hmem := (htracks.sound.mem_free _).mpr ⟨hlt, he⟩
      rw [hfree] at hmem
      exact absurd hmem List.not_mem_nil
    | some e =>
      rw [(htracks.live (handleAt n) e (entry?_eq_some_iff.mpr ⟨rfl, he⟩)).1]
      exact htracks.sound.useCount _ e he
  calc c.slots.size = ((Finset.range c.slots.size).image handleAt).card := by
        rw [Finset.card_image_of_injOn hinj, Finset.card_range]
    _ ≤ t.outstanding := CacheTrace.card_le_outstanding hlive

theorem hasRoom (htracks : Tracks c t) (hlimits : t.WithinLimits) : c.HasRoom := fun hfree ↦
  Nat.lt_of_le_of_lt (htracks.size_le_outstanding hfree) (hlimits.outstanding t List.suffix_rfl)

/-- The handle of a new program was never returned. -/
theorem fresh (htracks : Tracks c t) (hlimits : t.WithinLimits) (e : CacheEntry) (k : ProgramKey) :
    .acquired k (c.store e).1 ∉ t := by
  have hroom := htracks.hasRoom hlimits
  intro hmem
  have hissued := (htracks.issued k _ hmem).2
  rw [store_handle e hroom, htracks.generation,
    entryAt?_nextIndex htracks.sound hroom,
    UInt32.toNat_ofNat_of_lt' (hlimits.losses _)] at hissued
  exact Nat.lt_irrefl _ hissued

/-- A handle in use has the entry of the key it was acquired for. -/
theorem find?_of_uses (htracks : Tracks c t) {k : ProgramKey} {h : ProgramHandle}
    (hacquired : .acquired k h ∈ t) (huses : 0 < t.uses h) : c.find? k = some h := by
  obtain ⟨e, he, _⟩ := htracks.entry?_of_uses huses
  exact (find?_eq_some_iff htracks.sound).mpr
    ⟨e, he, htracks.keys _ _ h (htracks.live h e he).2 hacquired⟩

/-- A key without handles in use has no program. -/
theorem find?_of_unused (htracks : Tracks c t) {k : ProgramKey}
    (hunused : ∀ h, .acquired k h ∈ t → t.uses h = 0) : c.find? k = none := by
  rw [find?_eq_none_iff htracks.sound]
  rintro h e he rfl
  obtain ⟨huses, hacquired⟩ := htracks.live h e he
  have hpos := htracks.sound.useCount _ e (entry?_eq_some_iff.mp he).2
  rw [← huses, hunused h hacquired] at hpos
  exact Nat.lt_irrefl 0 hpos

/-! ### One call -/

theorem hit (htracks : Tracks c t) {k : ProgramKey} {h : ProgramHandle} {e : CacheEntry}
    (hfind : c.find? k = some h) (he : c.entry? h = some e) {uses : UInt32}
    (hadd : uses.toNat = e.useCount.toNat + 1) : Tracks (c.hit h uses) (.acquired k h :: t) := by
  obtain ⟨e', he', rfl⟩ := (find?_eq_some_iff htracks.sound).mp hfind
  obtain rfl : e = e' := Option.some_inj.mp (he.symm.trans he')
  obtain ⟨huses, hacquired⟩ := htracks.live h e he
  have hgeneration (i : UInt32) : (c.hit h uses).generationAt i = c.generationAt i :=
    generationAt_modifyEntry c i h _
  have hentryAt (i : UInt32) : ((c.hit h uses).entryAt? i).isSome = (c.entryAt? i).isSome := by
    have hmodified := entryAt?_modifyEntry c i h
      fun e ↦ { e with useCount := uses }
    show ((c.modifyEntry h _).entryAt? i).isSome = _
    rw [hmodified]
    split
    · exact Option.isSome_map
    · rfl
  have hsize : (c.hit h uses).slots.size = c.slots.size := Array.size_modify
  refine ⟨htracks.sound.hit h (hadd ▸ Nat.succ_pos _), ?_, ?_, ?_, ?_, ?_⟩
  · intro h' e' he'
    rw [entry?_hit h' he] at he'
    split at he'
    · rename_i heq
      cases he'
      subst heq
      exact ⟨by simp [CacheTrace.uses, huses, hadd], List.mem_cons_self⟩
    · rename_i hne
      obtain ⟨huses', hacquired'⟩ := htracks.live h' e' he'
      exact ⟨by simp [CacheTrace.uses, Ne.symm hne, huses'], List.mem_cons_of_mem _ hacquired'⟩
  · intro h' he'
    rw [entry?_hit h' he] at he'
    split at he'
    · cases he'
    · rename_i hne
      simp [CacheTrace.uses, Ne.symm hne, htracks.gone h' he']
  · intro i
    rw [hgeneration]
    exact htracks.generation i
  · intro k' h' hmem
    rw [hsize, hentryAt]
    rcases List.mem_cons.mp hmem with heq | hmem
    · cases heq
      exact htracks.issued _ h hacquired
    · exact htracks.issued k' h' hmem
  · intro k' k'' h' hmem hmem'
    rcases List.mem_cons.mp hmem with heq | hmem <;> rcases List.mem_cons.mp hmem' with heq' | hmem'
    · cases heq
      cases heq'
      rfl
    · cases heq
      exact htracks.keys _ _ h hacquired hmem'
    · cases heq'
      exact htracks.keys _ _ h hmem hacquired
    · exact htracks.keys _ _ h' hmem hmem'

theorem store (htracks : Tracks c t) (hlimits : t.WithinLimits) {e : CacheEntry}
    (hfind : c.find? e.key = none) (huse : e.useCount.toNat = 1) :
    Tracks (c.store e).2 (.acquired e.key (c.store e).1 :: t) := by
  have hroom := htracks.hasRoom hlimits
  have hsound := htracks.sound
  have hfresh := htracks.fresh hlimits e
  have hunused : t.uses (c.store e).1 = 0 :=
    htracks.gone _ (entry?_store_self hsound hroom)
  have hnew := byKey_eq_none hsound hfind
  have hstored : (c.store e).2.Sound := hsound.store hroom hnew (huse ▸ Nat.one_pos)
  refine ⟨hstored, ?_, ?_, ?_, ?_, ?_⟩
  · intro h e' he'
    rw [entry?_store h hsound hroom] at he'
    split at he'
    · rename_i heq
      cases he'
      subst heq
      exact ⟨by simp [CacheTrace.uses, hunused, huse], List.mem_cons_self⟩
    · rename_i hne
      obtain ⟨huses, hacquired⟩ := htracks.live h e' he'
      exact ⟨by simp [CacheTrace.uses, Ne.symm hne, huses], List.mem_cons_of_mem _ hacquired⟩
  · intro h he
    rw [entry?_store h hsound hroom] at he
    split at he
    · cases he
    · rename_i hne
      simp [CacheTrace.uses, Ne.symm hne, htracks.gone h he]
  · intro i
    rw [generationAt_store i hroom]
    exact htracks.generation i
  · intro k h hmem
    have hentry := entryAt?_store h.index hsound hroom e
    rcases List.mem_cons.mp hmem with heq | hmem
    · cases heq
      rw [store_handle e hroom] at hentry ⊢
      rw [if_pos rfl] at hentry
      refine ⟨lt_size_of_entryAt? hentry, ?_⟩
      rw [hentry, htracks.generation, UInt32.toNat_ofNat_of_lt' (hlimits.losses _)]
      exact Nat.lt_succ_self _
    · obtain ⟨hlt, hgeneration⟩ := htracks.issued k h hmem
      refine ⟨Nat.lt_of_lt_of_le hlt (size_le_store e), ?_⟩
      refine Nat.lt_of_lt_of_le hgeneration (Nat.add_le_add_left ?_ _)
      rw [hentry]
      split <;> split <;> simp_all
  · intro k k' h hmem hmem'
    rcases List.mem_cons.mp hmem with heq | hmem <;> rcases List.mem_cons.mp hmem' with heq' | hmem'
    · cases heq
      cases heq'
      rfl
    · cases heq
      exact absurd hmem' (hfresh k')
    · cases heq'
      exact absurd hmem (hfresh k)
    · exact htracks.keys _ _ h hmem hmem'

/-- An event that is neither an acquisition nor a release of a program changes nothing. -/
theorem of_quiet (htracks : Tracks c t) {c' : ProgramCache} {event : CacheEvent}
    (hcache : c' = c ∨ c' = c.fail)
    (hevent : (∃ k, event = .failed k) ∨ ∃ h, event = .rejected h) : Tracks c' (event :: t) := by
  have huses (h : ProgramHandle) : CacheTrace.uses h (event :: t) = t.uses h := by
    rcases hevent with ⟨k, rfl⟩ | ⟨h, rfl⟩ <;> rfl
  have hlosses (i : UInt32) : CacheTrace.losses i (event :: t) = t.losses i := by
    rcases hevent with ⟨k, rfl⟩ | ⟨h, rfl⟩ <;> rfl
  have hmem (k : ProgramKey) (h : ProgramHandle) : .acquired k h ∈ event :: t ↔
      .acquired k h ∈ t := by
    rcases hevent with ⟨k, rfl⟩ | ⟨h, rfl⟩ <;> simp
  have hsame : Tracks c (event :: t) :=
    ⟨htracks.sound, fun h e he ↦ by rw [huses, hmem]; exact htracks.live h e he,
      fun h he ↦ by rw [huses]; exact htracks.gone h he,
      fun i ↦ by rw [hlosses]; exact htracks.generation i,
      fun k h hk ↦ by rw [hlosses]; exact htracks.issued k h ((hmem k h).mp hk),
      fun k k' h hk hk' ↦ htracks.keys k k' h ((hmem k h).mp hk) ((hmem k' h).mp hk')⟩
  rcases hcache with rfl | rfl
  · exact hsame
  · obtain ⟨⟨hbounded, hbyKey, hnodup, hfree, huse⟩, hlive, hgone, hgeneration, hissued, hkeys⟩ :=
      hsame
    exact ⟨⟨hbounded, hbyKey, hnodup, hfree, huse⟩, hlive, hgone, hgeneration, hissued, hkeys⟩

/-- A release that leaves uses. -/
theorem release_some (htracks : Tracks c t) {h : ProgramHandle} {e : CacheEntry}
    (he : c.entry? h = some e) (hmore : 1 < e.useCount.toNat) :
    Tracks (c.modifyEntry h fun e ↦ { e with useCount := e.useCount - 1 }) (.released h :: t) := by
  obtain ⟨huses, hacquired⟩ := htracks.live h e he
  have hentry := (entry?_eq_some_iff.mp he).2
  have hleft := toNat_useCount_sub_one (Nat.zero_lt_of_lt hmore)
  have hlosses (i : UInt32) : CacheTrace.losses i (.released h :: t) = t.losses i := by
    have hne : ¬ t.uses h = 1 := by omega
    simp [CacheTrace.losses, hne]
  refine ⟨htracks.sound.modifyEntry h (fun _ ↦ rfl) ?_, ?_, ?_, ?_, ?_, ?_⟩
  · intro e' he'
    rw [hentry] at he'
    cases he'
    show 0 < (e.useCount - 1).toNat
    omega
  · intro h' e' he'
    rw [entry?_modifyEntry h' _ he] at he'
    split at he'
    · rename_i heq
      cases he'
      subst heq
      exact ⟨by simp [CacheTrace.uses, huses, hleft], List.mem_cons_of_mem _ hacquired⟩
    · rename_i hne
      obtain ⟨huses', hacquired'⟩ := htracks.live h' e' he'
      exact ⟨by simp [CacheTrace.uses, Ne.symm hne, huses'], List.mem_cons_of_mem _ hacquired'⟩
  · intro h' he'
    rw [entry?_modifyEntry h' _ he] at he'
    split at he'
    · cases he'
    · rename_i hne
      simp [CacheTrace.uses, Ne.symm hne, htracks.gone h' he']
  · intro i
    rw [generationAt_modifyEntry, hlosses]
    exact htracks.generation i
  · intro k' h' hmem
    obtain ⟨hlt, hgeneration⟩ := htracks.issued k' h' (by simpa using hmem)
    have hsize : (c.modifyEntry h fun e ↦ { e with useCount := e.useCount - 1 }).slots.size =
        c.slots.size := Array.size_modify
    rw [hsize, hlosses, entryAt?_modifyEntry]
    refine ⟨hlt, ?_⟩
    split
    · rwa [Option.isSome_map]
    · exact hgeneration
  · intro k k' h' hmem hmem'
    exact htracks.keys k k' h' (by simpa using hmem) (by simpa using hmem')

/-- A release of the last use. -/
theorem release_last (htracks : Tracks c t) {h : ProgramHandle} {e : CacheEntry}
    (he : c.entry? h = some e) (hlast : e.useCount.toNat = 1) :
    Tracks (c.destroyAt h.index e).2 (.released h :: t) := by
  obtain ⟨huses, hacquired⟩ := htracks.live h e he
  rw [hlast] at huses
  have hentry := (entry?_eq_some_iff.mp he).2
  have hlosses (i : UInt32) : CacheTrace.losses i (.released h :: t) =
      t.losses i + if i = h.index then 1 else 0 := by
    simp [CacheTrace.losses, huses, eq_comm]
  refine ⟨htracks.sound.destroyAt hentry, ?_, ?_, ?_, ?_, ?_⟩
  · intro h' e' he'
    rw [entry?_destroyAt h' he] at he'
    split at he'
    · cases he'
    · rename_i hne
      obtain ⟨huses', hacquired'⟩ := htracks.live h' e' he'
      exact ⟨by simp [CacheTrace.uses, Ne.symm hne, huses'], List.mem_cons_of_mem _ hacquired'⟩
  · intro h' he'
    rw [entry?_destroyAt h' he] at he'
    by_cases heq : h' = h
    · simp [CacheTrace.uses, heq, huses]
    · rw [if_neg heq] at he'
      simp [CacheTrace.uses, Ne.symm heq, htracks.gone h' he']
  · intro i
    rw [generationAt_destroyAt, hlosses, htracks.generation]
    by_cases hi : i = h.index
    · simp [hi, hentry, UInt32.ofNat_add]
    · simp [hi]
  · intro k' h' hmem
    obtain ⟨hlt, hgeneration⟩ := htracks.issued k' h' (by simpa using hmem)
    have hsize : (c.destroyAt h.index e).2.slots.size = c.slots.size := Array.size_modify
    rw [hsize, hlosses, entryAt?_destroyAt]
    refine ⟨hlt, ?_⟩
    by_cases hi : h'.index = h.index
    · rw [hi, hentry] at hgeneration
      simpa [hi] using hgeneration
    · simpa [hi] using hgeneration
  · intro k k' h' hmem hmem'
    exact htracks.keys k k' h' (by simpa using hmem) (by simpa using hmem')

theorem release (htracks : Tracks c t) {h : ProgramHandle} {commands : List Command}
    {c' : ProgramCache} (hrelease : c.release h = .ok (commands, c')) :
    Tracks c' (.released h :: t) := by
  obtain ⟨e, he⟩ := release_isOk_iff.mp ⟨_, hrelease⟩
  have hpos := htracks.sound.useCount _ e (entry?_eq_some_iff.mp he).2
  rw [release_eq, he] at hrelease
  simp only [useCount_le_one_iff hpos] at hrelease
  by_cases hlast : e.useCount.toNat = 1
  · simp only [hlast, if_true] at hrelease
    have hcache : (c.destroyAt h.index e).2 = c' := congrArg Prod.snd (Except.ok.inj hrelease)
    rw [← hcache]
    exact htracks.release_last he hlast
  · simp only [hlast, if_false] at hrelease
    have hcache : c.modifyEntry h (fun e ↦ { e with useCount := e.useCount - 1 }) = c' :=
      congrArg Prod.snd (Except.ok.inj hrelease)
    rw [← hcache]
    exact htracks.release_some he (by omega)

/-- A slot is occupied as long as a handle of it is in use. -/
theorem isSome_entryAt?_iff (htracks : Tracks c t) (i : UInt32) :
    (c.entryAt? i).isSome ↔ ∃ h ∈ t.handles, h.index = i ∧ 0 < t.uses h := by
  constructor
  · intro hsome
    obtain ⟨e, he⟩ := Option.isSome_iff_exists.mp hsome
    have hentry : c.entry? ⟨i, c.generationAt i⟩ = some e :=
      entry?_eq_some_iff.mpr ⟨rfl, he⟩
    obtain ⟨huses, hacquired⟩ := htracks.live _ e hentry
    exact ⟨_, CacheTrace.mem_handles.mpr ⟨_, hacquired⟩, rfl,
      huses ▸ htracks.sound.useCount i e he⟩
  · rintro ⟨h, _, rfl, huses⟩
    obtain ⟨e, he, _⟩ := htracks.entry?_of_uses huses
    rw [(entry?_eq_some_iff.mp he).2]
    rfl

theorem clear (htracks : Tracks c t) : Tracks c.clear.2 (.cleared :: t) := by
  have hlosses (i : UInt32) : CacheTrace.losses i (.cleared :: t) =
      t.losses i + if (c.entryAt? i).isSome then 1 else 0 := by
    simp only [CacheTrace.losses, htracks.isSome_entryAt?_iff]
  refine ⟨htracks.sound.clear, ?_, ?_, ?_, ?_, ?_⟩
  · intro h e he
    rw [entry?_clear] at he
    cases he
  · intro h _
    rfl
  · intro i
    rw [generationAt_clear, hlosses, htracks.generation]
    split
    · exact (UInt32.ofNat_add _ _).symm
    · rfl
  · intro k h hmem
    obtain ⟨hlt, hgeneration⟩ := htracks.issued k h (by simpa using hmem)
    have hsize : c.clear.2.slots.size = c.slots.size := Array.size_map
    rw [hsize, hlosses, entryAt?_clear]
    exact ⟨hlt, hgeneration⟩
  · intro k k' h hmem hmem'
    exact htracks.keys k k' h (by simpa using hmem) (by simpa using hmem')

end Tracks

end ProgramCache

end SceneRenderer
