import SceneRenderer.Proofs.Device.NumberedPrograms
import SceneRenderer.Proofs.Program.BuiltPrograms
import SceneRenderer.Proofs.Program.CacheRefinement
import SceneRenderer.Proofs.Registry
import SceneRenderer.Proofs.Renderer.OwnedObjects

/-!
The slots of the program cache after any calls. The map of keys, the free list, the slots, the
statistics and the device tell the same story: what is in the slots are the programs that were
created for the cache and not yet deleted, each with the source that a builder returned for its key.

Nothing is asked of the device but that a new program is not one that is still alive; any creation
may fail. `CacheRun.stocked_step` and `CacheRun.entryAt?_step` are the step lemmas,
`CacheRun.stocked_run` and `CacheRun.storedBy_run` the run lemmas; the main statement is
`CacheRun.run_arena`.
-/

set_option autoImplicit false
set_option relaxedAutoImplicit false

namespace SceneRenderer

open Shader

/-! ### Linking -/

/-- Linking creates the program that it returns, and nothing if it fails. -/
theorem LinkedProgram.ledger_link {δ : Type} [Device δ] (d : Audited δ) (source : ProgramSource) :
    (link d source).2.ledger = match (link d source).1 with
      | .ok p => .created (.program p.id) :: d.ledger
      | .error _ => d.ledger := by
  have hcreate : (Device.createProgram d (source.stageText .vertex) (source.stageText .fragment)
      attributeSlots).2.ledger = match (Device.createProgram d (source.stageText .vertex)
        (source.stageText .fragment) attributeSlots).1 with
      | .ok id => .created (.program id) :: d.ledger
      | .error _ => d.ledger := by
    change (d.record .program (Device.createProgram d.device _ _ _)).2.ledger =
      match (d.record .program (Device.createProgram d.device _ _ _)).1 with
      | .ok id => ObjectEvent.created (.program id) :: d.ledger
      | .error _ => d.ledger
    rcases Device.createProgram d.device (source.stageText .vertex) (source.stageText .fragment)
      attributeSlots with ⟨e | id, device⟩ <;> rfl
  unfold link
  rcases hcreated : Device.createProgram d (source.stageText .vertex) (source.stageText .fragment)
    attributeSlots with ⟨e | id, created⟩
  · rwa [hcreated] at hcreate
  · rw [hcreated] at hcreate
    have hasked {κ ν : Type} [DecidableEq κ] {ask : Audited δ → κ → Option ν × Audited δ}
        (hask : ∀ d k, (ask d k).2.ledger = d.ledger) (d : Audited δ) (keys : List κ) :
        (askAll ask d keys).2.ledger = d.ledger :=
      askAll_keeps ask (p := fun d' ↦ d'.ledger = d.ledger) (fun d' k hd' ↦ (hask d' k).trans hd')
        keys rfl
    exact ((hasked (fun _ _ ↦ rfl) _ _).trans (hasked (fun _ _ ↦ rfl) created _)).trans hcreate

/-! ### Sizes -/

namespace ProgramCache

variable {c c' : ProgramCache} {e : CacheEntry}

theorem size_store (hnew : c.byKey.get? e.key = none) : (c.store e).2.size = c.size + 1 := by
  have hbyKey : ∃ i, (c.store e).2.byKey = c.byKey.insert e.key i := by
    unfold store
    split <;> exact ⟨_, rfl⟩
  obtain ⟨i, hi⟩ := hbyKey
  rw [size, size, hi, ← Registry.total_one, Registry.total_insert,
    Registry.total_erase_of_none hnew, Registry.total_one]

theorem size_destroyAt {i : UInt32} (hi : c.byKey.get? e.key = some i) :
    c.size = (c.destroyAt i e).2.size + 1 := by
  exact Registry.size_erase hi

theorem compiles_store (c : ProgramCache) (e : CacheEntry) :
    (c.store e).2.stats.compiles = c.stats.compiles + 1 ∧
      (c.store e).2.stats.destroyed = c.stats.destroyed := by
  unfold store
  split <;> exact ⟨rfl, rfl⟩

theorem length_taken (c : ProgramCache) : c.taken.length = c.objects.length := by
  have hdeleted : c.clear.1.filterMap Command.deleted? =
      c.taken.map fun t ↦ .program t.2.program.id := by
    show (c.taken.map fun t ↦ Command.deleteProgram t.2.program.id).filterMap _ = _
    rw [List.filterMap_map]
    exact congrFun List.filterMap_eq_map c.taken
  rw [← deleted_clear, hdeleted, List.length_map]

/-! ### Programs in the slots -/

theorem mem_objects (hc : c.Sound) {o : DeviceObject} :
    o ∈ c.objects ↔ ∃ i e, c.entryAt? i = some e ∧ o = .program e.program.id := by
  constructor
  · intro ho
    obtain ⟨slot, hslot, ho⟩ := List.mem_flatMap.mp ho
    obtain ⟨e, hentry, rfl⟩ := List.mem_map.mp ho
    obtain ⟨n, hn, hget⟩ := List.getElem_of_mem hslot
    have hsize : n < c.slots.size := by rwa [Array.length_toList] at hn
    refine ⟨UInt32.ofNat n, e, ?_, rfl⟩
    rw [entryAt?, UInt32.toNat_ofNat_of_lt' (Nat.lt_of_lt_of_le hsize hc.bounded),
      ← Array.getElem?_toList, List.getElem?_eq_getElem hn, hget]
    exact Option.mem_toList.mp hentry
  · rintro ⟨i, e, he, rfl⟩
    exact (objects_destroyAt he).mem_iff.mpr List.mem_cons_self

/-- Where no program is twice in the slots, the slot is known by the program. -/
theorem eq_of_nodup_objects (hnodup : c.objects.Nodup) {i j : UInt32} {e e' : CacheEntry}
    (he : c.entryAt? i = some e) (he' : c.entryAt? j = some e')
    (hid : e.program.id = e'.program.id) : i = j := by
  by_contra hne
  have hother : (c.destroyAt i e).2.entryAt? j = some e' := by
    rw [entryAt?_destroyAt, if_neg (Ne.symm hne), he']
  have hmem := (objects_destroyAt hother).mem_iff.mpr List.mem_cons_self
  have hrest := (objects_destroyAt he).nodup_iff.mp hnodup
  exact (List.nodup_cons.mp hrest).1 (hid ▸ hmem)

end ProgramCache

/-! ### Caches with their devices -/

open ObjectLedger in
/-- The programs of a cache are those that are outstanding on its device, and the statistics count
them. -/
structure ProgramCache.Stocked {δ : Type} (alive : δ → ProgramId → Prop) (c : ProgramCache)
    (d : Audited δ) : Prop where
  sound : c.Sound
  orderly : Orderly d.ledger
  outstanding : outstanding d.ledger = ↑c.objects
  alive : ∀ id, .program id ∈ c.objects → alive d.device id
  size : c.size = c.objects.length
  compiles : c.stats.compiles = c.stats.destroyed + c.objects.length

namespace ProgramCache

variable {δ : Type} {alive : δ → ProgramId → Prop} {c c' : ProgramCache} {d d' : Audited δ}

theorem stocked_new (alive : δ → ProgramId → Prop) (options : ShaderOptions) (device : δ) :
    Stocked alive (new options) (.start device) where
  sound := sound_new options
  orderly := trivial
  outstanding := rfl
  alive _ hid := absurd hid List.not_mem_nil
  size := rfl
  compiles := rfl

namespace Stocked

/-- A change of the uses alone, while the device creates and deletes nothing. -/
theorem of_same (hc : Stocked alive c d) (hsound : c'.Sound) (hobjects : c'.objects = c.objects)
    (hbyKey : c'.byKey = c.byKey) (hcompiles : c'.stats.compiles = c.stats.compiles)
    (hdestroyed : c'.stats.destroyed = c.stats.destroyed) (hledger : d'.ledger = d.ledger)
    (houtlives : Outlives alive d.device d'.device) : Stocked alive c' d' where
  sound := hsound
  orderly := hledger ▸ hc.orderly
  outstanding := by rw [hledger, hobjects, hc.outstanding]
  alive id hid := houtlives id (hc.alive id (hobjects ▸ hid))
  size := by rw [ProgramCache.size, hbyKey, hobjects, ← hc.size, ProgramCache.size]
  compiles := by rw [hcompiles, hdestroyed, hobjects, hc.compiles]

theorem nodup (hc : Stocked alive c d) : c.objects.Nodup := by
  rw [← Multiset.coe_nodup, ← hc.outstanding]
  exact hc.orderly.nodup

/-- A new program finds a slot, and is one more on either side. -/
theorem store (hc : Stocked alive c d) {e : CacheEntry} (hfind : c.find? e.key = none)
    (huse : e.useCount.toNat = 1) (hnew : ¬ alive d.device e.program.id)
    (hlive : alive d'.device e.program.id) (houtlives : Outlives alive d.device d'.device)
    (hledger : d'.ledger = .created (.program e.program.id) :: d.ledger) :
    Stocked alive (c.store e).2 d' := by
  have hbyKey := byKey_eq_none hc.sound hfind
  have hobjects := objects_store hc.sound e
  obtain ⟨hcompiles, hdestroyed⟩ := compiles_store c e
  have hmissing : .program e.program.id ∉ c.objects := fun hmem ↦ hnew (hc.alive _ hmem)
  have hother : ∀ i e', c.entryAt? i = some e' → e'.program.id ≠ e.program.id :=
    fun i e' he' heq ↦ hmissing (heq ▸ (mem_objects hc.sound).mpr ⟨i, e', he', rfl⟩)
  have hroom := hc.sound.hasRoom (fun i j e e' ↦ eq_of_nodup_objects hc.nodup) hother
  refine ⟨hc.sound.store hroom hbyKey (huse ▸ Nat.one_pos), ?_, ?_, ?_, ?_, ?_⟩
  · rw [hledger]
    refine ⟨?_, hc.orderly⟩
    rwa [hc.outstanding, Multiset.mem_coe]
  · rw [hledger, Multiset.coe_eq_coe.mpr hobjects, ← Multiset.cons_coe, ← hc.outstanding]
    rfl
  · intro id hid
    rcases List.mem_cons.mp (hobjects.mem_iff.mp hid) with heq | hid
    · rwa [DeviceObject.program.inj heq]
    · exact houtlives id (hc.alive id hid)
  · rw [size_store hbyKey, hc.size, hobjects.length_eq, List.length_cons]
  · rw [hcompiles, hdestroyed, hobjects.length_eq, hc.compiles, List.length_cons, Nat.add_assoc]

variable [Device δ]

/-- The last use takes the program out of its slot and off the device. -/
theorem destroyAt (hdevice : KeepsPrograms alive) (hc : Stocked alive c d) {i : UInt32}
    {e : CacheEntry} (he : c.entryAt? i = some e) :
    Stocked alive (c.destroyAt i e).2 (Device.submitAll d (c.destroyAt i e).1) := by
  have hobjects := objects_destroyAt he
  have hnodup := hobjects.nodup_iff.mp hc.nodup
  have hledger : (Device.submitAll d (c.destroyAt i e).1).ledger =
      .deleted (.program e.program.id) :: d.ledger := Audited.ledger_submitAll d _
  have houtstanding : ObjectLedger.outstanding d.ledger =
      .program e.program.id ::ₘ ↑(c.destroyAt i e).2.objects := by
    rw [hc.outstanding, Multiset.coe_eq_coe.mpr hobjects, Multiset.cons_coe]
  refine ⟨hc.sound.destroyAt he, ?_, ?_, ?_, ?_, ?_⟩
  · rw [hledger]
    exact ⟨houtstanding ▸ Multiset.mem_cons_self _ _, hc.orderly⟩
  · rw [hledger]
    show (ObjectLedger.outstanding d.ledger).erase _ = _
    rw [houtstanding, Multiset.erase_cons_head]
  · intro id hid
    refine hdevice.submit d.device _ id (fun heq ↦ ?_) (hc.alive id (hobjects.mem_iff.mpr
      (List.mem_cons_of_mem _ hid)))
    rw [← Command.deleteProgram.inj heq] at hid
    exact (List.nodup_cons.mp hnodup).1 hid
  · have hsize := size_destroyAt ((hc.sound.byKey e.key i).mpr ⟨e, he, rfl⟩)
    rw [hc.size, hobjects.length_eq, List.length_cons] at hsize
    exact (Nat.succ.inj hsize).symm
  · show c.stats.compiles = c.stats.destroyed + 1 + _
    rw [hc.compiles, hobjects.length_eq, List.length_cons]
    omega

/-- Clearing takes all programs out, wherever they are. -/
theorem clear (hc : Stocked alive c d) :
    Stocked alive c.clear.2 (Device.submitAll d c.clear.1) := by
  have hempty : c.clear.2.objects = [] := by
    refine List.eq_nil_iff_forall_not_mem.mpr fun o ho ↦ ?_
    obtain ⟨i, e, he, _⟩ := (mem_objects hc.sound.clear).mp ho
    rw [entryAt?_clear] at he
    cases he
  have hledger := Audited.ledger_submitAll d c.clear.1
  rw [deleted_clear] at hledger
  have hall : ObjectLedger.outstanding d.ledger = ↑c.objects + 0 :=
    hc.outstanding.trans (Multiset.add_zero _).symm
  obtain ⟨horderly, houtstanding⟩ := hc.orderly.deleteAll hall
  refine ⟨hc.sound.clear, hledger ▸ horderly, ?_, ?_, ?_, ?_⟩
  · rw [hledger, houtstanding, hempty]
    rfl
  · intro id hid
    rw [hempty] at hid
    exact absurd hid List.not_mem_nil
  · rw [hempty]
    rfl
  · show c.stats.compiles = c.stats.destroyed + c.taken.length + c.clear.2.objects.length
    rw [hc.compiles, hempty, length_taken]
    rfl

end Stocked

end ProgramCache

namespace CacheRun

variable {δ : Type} [Device δ] {alive : δ → ProgramId → Prop}

open ProgramCache

theorem stocked_step (hdevice : KeepsPrograms alive) {s : CacheRun (Audited δ)}
    (hs : Stocked alive s.cache s.device) (call : CacheCall) :
    Stocked alive (s.step call).cache (s.step call).device := by
  cases call with
  | acquireWith key build =>
    rcases hacquire : s.cache.acquireWith s.device key build with fault | ⟨result, cache, device⟩
    · simp only [step, hacquire]
      exact hs
    · have hstep : (s.step (.acquireWith key build)).cache = cache ∧
          (s.step (.acquireWith key build)).device = device := by
        simp only [step, hacquire]
        cases result <;> exact ⟨rfl, rfl⟩
      rw [hstep.1, hstep.2]
      rcases acquireWith_ok hacquire with
        ⟨h, e, uses, _, _, huses, _, rfl, rfl⟩ | ⟨hfind, source, _, hlinked⟩
      · exact hs.of_same (hs.sound.hit h (huses ▸ Nat.succ_pos _))
          (objects_modifyEntry _ h fun _ ↦ rfl) rfl rfl rfl rfl (.refl _)
      · obtain ⟨houtlives, hcreated⟩ := (Audited.keepsPrograms hdevice).link s.device source
        have hledger := LinkedProgram.ledger_link s.device source
        rcases hlinked with ⟨e, hlink, _, rfl⟩ | ⟨program, hlink, _, rfl⟩
        · rw [hlink] at houtlives hledger
          refine hs.of_same ?_ rfl rfl rfl rfl hledger houtlives
          obtain ⟨hbounded, hbyKey, hnodup, hfree, huses⟩ := hs.sound
          exact ⟨hbounded, hbyKey, hnodup, hfree, huses⟩
        · rw [hlink] at houtlives hledger
          obtain ⟨hnew, hlive⟩ := hcreated program device hlink
          exact hs.store (e := ⟨key, source, program, 1⟩) hfind rfl hnew hlive houtlives hledger
  | release h =>
    rcases hrelease : s.cache.release h with e | ⟨commands, cache⟩
    · simp only [step, hrelease]
      exact hs
    · simp only [step, hrelease]
      obtain ⟨e, he, hsound, _, _⟩ := release_ok hs.sound hrelease
      rw [release_eq, he] at hrelease
      dsimp only at hrelease
      split at hrelease
      · obtain ⟨rfl, rfl⟩ := Prod.mk.inj (Except.ok.inj hrelease)
        exact hs.destroyAt hdevice (entry?_eq_some_iff.mp he).2
      · obtain ⟨rfl, rfl⟩ := Prod.mk.inj (Except.ok.inj hrelease)
        exact hs.of_same hsound (objects_modifyEntry _ h fun _ ↦ rfl) rfl rfl rfl rfl (.refl _)
  | clear => exact hs.clear

theorem stocked_run (hdevice : KeepsPrograms alive) {s : CacheRun (Audited δ)}
    (hs : Stocked alive s.cache s.device) (calls : List CacheCall) :
    Stocked alive (s.run calls).cache (s.run calls).device :=
  List.foldlRecOn (motive := fun s : CacheRun (Audited δ) ↦ Stocked alive s.cache s.device) calls
    step hs fun _ hs call _ ↦ stocked_step hdevice hs call

/-! ### Where sources come from -/

/-- What is in a slot after a call was there before, with other uses at most, or is the program that
the call acquired: its key was missing, and its source is what the builder returned for it. -/
theorem entryAt?_step {s : CacheRun δ} (hs : s.cache.Sound) (call : CacheCall) {i : UInt32}
    {e' : CacheEntry} (he' : (s.step call).cache.entryAt? i = some e') :
    (∃ e uses, s.cache.entryAt? i = some e ∧ e' = { e with useCount := uses }) ∨
      ∃ build, call = .acquireWith e'.key build ∧ s.cache.contains e'.key = false ∧
        build s.cache.options e'.key = .ok e'.source := by
  have hkept (he : s.cache.entryAt? i = some e') :
      ∃ e uses, s.cache.entryAt? i = some e ∧ e' = { e with useCount := uses } :=
    ⟨e', e'.useCount, he, rfl⟩
  have hmodified {h : ProgramHandle} (count : UInt32 → UInt32)
      (he : (s.cache.modifyEntry h fun e ↦ { e with useCount := count e.useCount }).entryAt? i =
        some e') :
      ∃ e uses, s.cache.entryAt? i = some e ∧ e' = { e with useCount := uses } := by
    rw [entryAt?_modifyEntry] at he
    split at he
    · obtain ⟨e, hbefore, rfl⟩ := Option.map_eq_some_iff.mp he
      exact ⟨e, _, hbefore, rfl⟩
    · exact hkept he
  cases call with
  | acquireWith key build =>
    rcases hacquire : s.cache.acquireWith s.device key build with fault | ⟨result, cache, device⟩
    · simp only [step, hacquire] at he'
      exact .inl (hkept he')
    · have hstep : (s.step (.acquireWith key build)).cache = cache := by
        simp only [step, hacquire]
        cases result <;> rfl
      rw [hstep] at he'
      rcases acquireWith_ok hacquire with
        ⟨h, _, uses, _, _, _, _, rfl, rfl⟩ |
          ⟨hfind, source, hsource, ⟨_, _, _, rfl⟩ | ⟨program, _, _, rfl⟩⟩
      · exact .inl (hmodified (fun _ ↦ uses) he')
      · exact .inl (hkept he')
      · rcases eq_or_of_entryAt?_store he' with rfl | hbefore
        · refine .inr ⟨build, rfl, ?_, hsource⟩
          rw [ProgramCache.contains, Registry.contains, byKey_eq_none hs hfind]
          rfl
        · exact .inl (hkept hbefore)
  | release h =>
    rcases hrelease : s.cache.release h with e | ⟨commands, cache⟩
    · simp only [step, hrelease] at he'
      exact .inl (hkept he')
    · simp only [step, hrelease] at he'
      rw [release_eq] at hrelease
      split at hrelease
      · split at hrelease
        · have hcache := congrArg Prod.snd (Except.ok.inj hrelease)
          change _ = cache at hcache
          rw [← hcache, entryAt?_destroyAt] at he'
          split at he'
          · cases he'
          · exact .inl (hkept he')
        · obtain ⟨rfl, rfl⟩ := Prod.mk.inj (Except.ok.inj hrelease)
          exact .inl (hmodified (· - 1) he')
      · cases hrelease
  | clear =>
    rw [show (s.step .clear).cache = s.cache.clear.2 from rfl, entryAt?_clear] at he'
    cases he'

/-- One of the calls, at which the key of the entry was missing, put the entry into its slot with
the source that the call's builder returned, and it has been there ever since. -/
def StoredBy (options : ShaderOptions) (device : δ) (calls : List CacheCall) (i : UInt32)
    (e : CacheEntry) : Prop :=
  ∃ earlier build later, calls = earlier ++ .acquireWith e.key build :: later ∧
    ((start options device).run earlier).cache.contains e.key = false ∧
    build options e.key = .ok e.source ∧
    ∀ between, between <+: later → ∃ uses,
      ((start options device).run (earlier ++ .acquireWith e.key build :: between)).cache.entryAt?
        i = some { e with useCount := uses }

theorem run_concat (s : CacheRun δ) (calls : List CacheCall) (call : CacheCall) :
    s.run (calls ++ [call]) = (s.run calls).step call := List.foldl_concat ..

theorem storedBy_run {options : ShaderOptions} {device : δ}
    (hsound : ∀ calls, ((start options device).run calls).cache.Sound) (calls : List CacheCall)
    {i : UInt32} {e : CacheEntry}
    (he : ((start options device).run calls).cache.entryAt? i = some e) :
    StoredBy options device calls i e := by
  -- by the last call: it stored the entry, or the entry was there before, with other uses perhaps
  induction calls using List.reverseRecOn generalizing e with
  | nil => simp [run, start, new, entryAt?] at he
  | append_singleton calls call ih =>
    have hnow := he
    rw [run_concat] at he
    rcases entryAt?_step (hsound calls) call he with
      ⟨before, uses, hbefore, rfl⟩ | ⟨build, rfl, hmissing, hsource⟩
    · obtain ⟨earlier, build, later, rfl, hmissing, hsource, hsince⟩ := ih hbefore
      refine ⟨earlier, build, later ++ [call], by simp, hmissing, hsource, ?_⟩
      intro between hbetween
      rcases List.prefix_concat_iff.mp hbetween with rfl | hbetween
      · refine ⟨uses, ?_⟩
        rw [List.append_assoc, List.cons_append] at hnow
        exact hnow
      · exact hsince between hbetween
    · rw [options_run] at hsource
      refine ⟨calls, build, [], rfl, hmissing, hsource, fun between hbetween ↦ ?_⟩
      obtain rfl := List.prefix_nil.mp hbetween
      exact ⟨e.useCount, hnow⟩

end CacheRun

/-! ### The arena -/

/-- The slots, the map of keys, the free list, the statistics and the device agree. -/
structure ProgramCache.Arena (c : ProgramCache) (ledger : ObjectLedger DeviceObject) : Prop where
  /-- Slots can be told apart by their index. -/
  bounded : c.slots.size ≤ 2 ^ 32
  byKey : ∀ k i, c.byKey.get? k = some i ↔ ∃ e, c.entryAt? i = some e ∧ e.key = k
  free_nodup : c.free.Nodup
  mem_free : ∀ i, i ∈ c.free ↔ i.toNat < c.slots.size ∧ c.entryAt? i = none
  useCount : ∀ i e, c.entryAt? i = some e → 1 ≤ e.useCount.toNat
  keys : ∀ i j e e', c.entryAt? i = some e → c.entryAt? j = some e' → e.key = e'.key → i = j
  identities : ∀ i j e e', c.entryAt? i = some e → c.entryAt? j = some e' →
    e.program.id = e'.program.id → i = j
  /-- No program is created while it is there, and none is deleted twice. -/
  orderly : ObjectLedger.Orderly ledger
  /-- The programs are those that were created and not yet deleted. -/
  programs : ∀ o, o ∈ ObjectLedger.outstanding ledger ↔
    ∃ i e, c.entryAt? i = some e ∧ o = .program e.program.id
  compiles : c.stats.compiles = c.stats.destroyed + c.size

namespace CacheRun

variable {δ : Type} [Device δ] {alive : δ → ProgramId → Prop}

open ProgramCache

/-- After any calls, on any device that keeps its programs apart and may fail at will, the parts of
the cache agree with each other and with the device, and every source is what its builder
returned. -/
theorem run_arena (hdevice : KeepsPrograms alive) (options : ShaderOptions) (device : δ)
    (calls : List CacheCall) :
    let s := (start options (Audited.start device)).run calls
    s.cache.Arena s.device.ledger ∧
      ∀ i e, s.cache.entryAt? i = some e → StoredBy options (Audited.start device) calls i e := by
  intro s
  have hstocked (calls : List CacheCall) :
      Stocked alive ((start options (Audited.start device)).run calls).cache
        ((start options (Audited.start device)).run calls).device :=
    stocked_run hdevice (stocked_new alive options device) calls
  have hs := hstocked calls
  refine ⟨?_, fun i e he ↦ storedBy_run (fun calls ↦ (hstocked calls).sound) calls he⟩
  exact {
    bounded := hs.sound.bounded
    byKey := hs.sound.byKey
    free_nodup := hs.sound.free_nodup
    mem_free := hs.sound.mem_free
    useCount := hs.sound.useCount
    keys := fun i j e e' ↦ hs.sound.key_unique
    identities := fun i j e e' ↦ eq_of_nodup_objects hs.nodup
    orderly := hs.orderly
    programs := fun o ↦ by rw [hs.outstanding, Multiset.mem_coe, mem_objects hs.sound]
    compiles := by rw [hs.compiles, hs.size] }

theorem run_arena_reuseCalls :
    KeepsPrograms Recorder.Alive ∧
      let s := (start .standard (Audited.start Recorder.standard)).run reuseCalls
      s.trace.head? = some (.acquired (.shadowDepth ⟨false, .none, false, false⟩) ⟨0, 1⟩) ∧
        s.cache.Arena s.device.ledger ∧ ∀ i e, s.cache.entryAt? i = some e →
          StoredBy .standard (Audited.start Recorder.standard) reuseCalls i e :=
  ⟨Recorder.keepsPrograms, rfl, run_arena Recorder.keepsPrograms .standard .standard reuseCalls⟩

end CacheRun

end SceneRenderer
