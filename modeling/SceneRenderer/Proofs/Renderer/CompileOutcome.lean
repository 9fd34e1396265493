import SceneRenderer.Proofs.Device.DecidesBySource
import SceneRenderer.Proofs.Renderer.HandedGeometries
import SceneRenderer.Proofs.Renderer.UpToDate

/-!
What compiling does to each drawable, and what it reports, on a device that decides by the source
whether a program can be made. Both depend on the drawable as it was before, and not on the programs
that were compiled in the meantime: a program that is found in the cache has a source that the
device takes, so finding it and making it come to the same.

`compileIn_outcome` says this of a whole run of drawables.
-/

set_option autoImplicit false
set_option relaxedAutoImplicit false

namespace SceneRenderer

open Shader ProgramCache

variable {δ : Type} [Device δ] {alive : δ → ProgramId → Prop} {takes : String → String → Prop}
  {spent : δ → Prop}

/-- The key of a program that was built is taken. -/
theorem CacheEntry.Built.takesKey (hdecides : DecidesBySource takes spent) {o : ShaderOptions}
    {e : CacheEntry} (he : e.Built δ o) : TakesKey takes o e.key := by
  obtain ⟨hsource, device, device', hlink⟩ := he
  have hlinked := (hdecides.link device e.source).2
  rw [hlink] at hlinked
  exact ⟨e.source, hsource, hlinked⟩

/-- What an acquisition comes to. -/
theorem acquire_outcome (hdecides : DecidesBySource takes spent) {c c' : ProgramCache}
    {device device' : δ} {uses : ProgramHandle → Nat} (hc : Accounts alive c device uses)
    {k : ProgramKey} {result : Except ProgramError ProgramHandle}
    (hacquire : c.acquire device k = .ok (result, c', device')) :
    (spent device → spent device') ∧
      (¬ spent device' → ((∃ h, result = .ok h) ↔ TakesKey takes c.options k)) := by
  rcases acquireWith_ok hacquire with
    ⟨h, _, _, hfind, _, _, rfl, _, rfl⟩ | ⟨_, source, hsource, hlinked⟩
  · refine ⟨id, fun _ ↦ ⟨fun _ ↦ ?_, fun _ ↦ ⟨h, rfl⟩⟩⟩
    obtain ⟨e, he, rfl⟩ := (find?_eq_some_iff hc.sound).mp hfind
    exact (hc.built h e he).takesKey hdecides
  · obtain ⟨hstays, hanswer⟩ := hdecides.link device source
    rcases hlinked with ⟨e, hlink, rfl, _⟩ | ⟨program, hlink, rfl, _⟩
    · rw [hlink] at hstays hanswer
      refine ⟨hstays,
        fun hleft ↦ ⟨fun ⟨_, hok⟩ ↦ (by cases hok), fun ⟨source', hsource', htakes⟩ ↦ ?_⟩⟩
      rw [hsource] at hsource'
      cases hsource'
      exact absurd (hstays (hanswer htakes)) hleft
    · rw [hlink] at hstays hanswer
      exact ⟨hstays, fun _ ↦ ⟨fun _ ↦ ⟨source, hsource, hanswer⟩, fun _ ↦ ⟨_, rfl⟩⟩⟩

namespace Renderer

theorem spent_releaseHandle (hdecides : DecidesBySource takes spent) (cache : ProgramCache)
    {device : δ} (holder : Option ProgramHandle) (hspent : spent device) :
    spent (releaseHandle cache device holder).2.2 := by
  unfold releaseHandle
  split
  · exact hspent
  · split
    · exact hdecides.submitAll _ hspent
    · exact hspent

/-- What pointing a slot at a key comes to: it is left without a program if it failed before or if
the device does not take the key, and only the second is reported. -/
structure Pointed (takes : String → String → Prop) (options : ShaderOptions) (slot : ProgramSlot)
    (k : ProgramKey) (t : Retargeted δ) : Prop where
  failed : t.slot.failed = some k ↔ slot.failed = some k ∨ ¬ TakesKey takes options k
  error : (∃ e, t.error = some e) ↔ slot.failed ≠ some k ∧ ¬ TakesKey takes options k

section Pointed

variable {options : ShaderOptions} {slot : ProgramSlot} {k : ProgramKey} {t : Retargeted δ}

omit [Device δ] in
theorem Pointed.of_takes (htakes : slot.failed ≠ some k → TakesKey takes options k)
    (hslot : t.slot.failed = some k ↔ slot.failed = some k) (herror : t.error = none) :
    Pointed takes options slot k t where
  failed := by
    refine hslot.trans ⟨.inl, fun hfails ↦ ?_⟩
    by_contra hfailed
    exact hfails.elim hfailed fun hrefused ↦ hrefused (htakes hfailed)
  error := by
    constructor
    · rintro ⟨e, he⟩
      exact absurd (herror.symm.trans he) (Option.some_ne_none e).symm
    · rintro ⟨hfailed, hrefused⟩
      exact absurd (htakes hfailed) hrefused

omit [Device δ] in
theorem Pointed.of_refuses (hrefused : ¬ TakesKey takes options k) (hfailed : slot.failed ≠ some k)
    (hslot : t.slot.failed = some k) {e : ProgramError} (herror : t.error = some e) :
    Pointed takes options slot k t :=
  ⟨⟨fun _ ↦ .inr hrefused, fun _ ↦ hslot⟩, ⟨fun _ ↦ ⟨hfailed, hrefused⟩, fun _ ↦ ⟨e, herror⟩⟩⟩

end Pointed

theorem retarget_outcome (hdecides : DecidesBySource takes spent)
    {cache : ProgramCache} {device : δ} {uses : ProgramHandle → Nat} {slot : ProgramSlot}
    {t : Retargeted δ} (haccounts : Accounts alive cache device uses) {k : ProgramKey}
    (hretarget : retarget cache device slot (some k) = .ok t) :
    (spent device → spent t.device) ∧
      (¬ spent t.device → Pointed takes cache.options slot k t) := by
  simp only [retarget] at hretarget
  split at hretarget
  · rename_i hsettled
    cases hretarget
    simp only [settled, Bool.or_eq_true, beq_iff_eq, Option.bind_eq_some_iff] at hsettled
    refine ⟨id, fun _ ↦ .of_takes (fun hfailed ↦ ?_) .rfl rfl⟩
    obtain ⟨h, _, hkey⟩ := hsettled.resolve_right hfailed
    obtain ⟨e, he, rfl⟩ := Option.map_eq_some_iff.mp hkey
    exact (haccounts.built h e he).takesKey hdecides
  · rename_i hsettled
    have hfailed : slot.failed ≠ some k := by
      rintro hfailed
      simp [settled, hfailed] at hsettled
    rcases hacquire : cache.acquire device k with fault | ⟨result, cache', device'⟩
    · rw [hacquire] at hretarget
      cases hretarget
    · obtain ⟨hstays, houtcome⟩ := acquire_outcome hdecides haccounts hacquire
      have hreleased : spent device' → spent (releaseHandle cache' device' slot.handle).2.2 :=
        spent_releaseHandle hdecides cache' slot.handle
      rw [hacquire] at hretarget
      cases result with
      | error e =>
        rw [← Except.ok.inj hretarget]
        refine ⟨fun hspent ↦ hreleased (hstays hspent), fun hleft ↦ ?_⟩
        refine .of_refuses (fun htakes ↦ ?_) hfailed rfl rfl
        obtain ⟨h, hok⟩ := (houtcome fun hspent ↦ hleft (hreleased hspent)).mpr htakes
        cases hok
      | ok h =>
        rw [← Except.ok.inj hretarget]
        refine ⟨fun hspent ↦ hreleased (hstays hspent), fun hleft ↦ ?_⟩
        have htakes : TakesKey takes cache.options k :=
          (houtcome fun hspent ↦ hleft (hreleased hspent)).mp ⟨h, rfl⟩
        exact .of_takes (fun _ ↦ htakes) (iff_of_false (Option.some_ne_none k).symm hfailed) rfl

theorem spent_retarget (hdecides : DecidesBySource takes spent) {cache : ProgramCache} {device : δ}
    {uses : ProgramHandle → Nat} {slot : ProgramSlot} {t : Retargeted δ}
    (haccounts : Accounts alive cache device uses) {key : Option ProgramKey}
    (hretarget : retarget cache device slot key = .ok t) (hspent : spent device) :
    spent t.device := by
  cases key with
  | none =>
    rw [← Except.ok.inj hretarget]
    exact spent_releaseHandle hdecides cache slot.handle hspent
  | some k => exact (retarget_outcome hdecides haccounts hretarget).1 hspent

/-! ### A run of drawables -/

/-- What becomes of a marked drawable. -/
structure Compiled (takes : String → String → Prop) (r : Renderer δ) (s s' : DrawableState) :
    Prop where
  drawable : s'.drawable = s.drawable
  draw : s'.draw.failed = some (r.drawKey s.drawable) ↔
    s.draw.failed = some (r.drawKey s.drawable) ∨
      ¬ TakesKey takes r.config.shaderOptions (r.drawKey s.drawable)
  depth : ∀ k, r.depthKey? s.drawable = some k →
    (s'.depth.failed = some k ↔ s.depth.failed = some k ∨ ¬ TakesKey takes r.config.shaderOptions k)

/-- A key is reported for a marked drawable if the device does not take it and it did not fail
before. -/
def Reports (takes : String → String → Prop) (r : Renderer δ) (s : DrawableState) (k : ProgramKey) :
    Prop :=
  (r.drawKey s.drawable = k ∧ s.draw.failed ≠ some k ∨
      r.depthKey? s.drawable = some k ∧ s.depth.failed ≠ some k) ∧
    ¬ TakesKey takes r.config.shaderOptions k

/-- What compiling some drawables in a row comes to. -/
structure CompiledAll (takes : String → String → Prop) (visits : List DrawableId)
    (failures : List CompileFailure) (r r' : Renderer δ) : Prop where
  states : ∀ id s, r.drawables.get? id = some s → ∃ s', r'.drawables.get? id = some s' ∧
    if id ∈ visits ∧ s.dirty = true then Compiled takes r s s' else s' = s
  reports : ∀ id k, (∃ e, ⟨id, k, e⟩ ∈ failures) ↔
    id ∈ visits ∧ ∃ s, r.drawables.get? id = some s ∧ s.dirty = true ∧ Reports takes r s k

variable {r r' : Renderer δ} {failures : List CompileFailure}

omit [Device δ] in
theorem CompiledAll.of_clean {id : DrawableId}
    (hclean : ∀ s, r.drawables.get? id = some s → s.dirty = false) :
    CompiledAll takes [id] [] r r where
  states id' s hs := by
    refine ⟨s, hs, ?_⟩
    split
    · rename_i hmarked
      obtain ⟨hid, hdirty⟩ := hmarked
      rw [List.mem_singleton.mp hid] at hs
      rw [hclean s hs] at hdirty
      cases hdirty
    · rfl
  reports id' k := by
    constructor
    · rintro ⟨e, he⟩
      cases he
    · rintro ⟨hid, s, hs, hdirty, _⟩
      rw [List.mem_singleton.mp hid] at hs
      rw [hclean s hs] at hdirty
      cases hdirty

omit [Device δ] in
theorem CompiledAll.of_pointed {id : DrawableId} {s : DrawableState}
    (hs : r.drawables.get? id = some s) (hmarked : s.dirty = true) {draw depth : Retargeted δ}
    (hdraw : Pointed takes r.config.shaderOptions s.draw (r.drawKey s.drawable) draw)
    (hdepth : ∀ k, r.depthKey? s.drawable = some k →
      Pointed takes r.config.shaderOptions s.depth k depth)
    (hdrawables :
      r'.drawables = r.drawables.insert id ⟨s.drawable, draw.slot, depth.slot, false⟩) :
    CompiledAll takes [id]
      (draw.error.toList.map (⟨id, r.drawKey s.drawable, ·⟩) ++
        (r.depthKey? s.drawable).toList.flatMap fun key ↦ depth.error.toList.map (⟨id, key, ·⟩))
      r r' where
  states id' s₀ hs₀ := by
    rw [hdrawables, Registry.get?_insert]
    simp only [List.mem_singleton]
    by_cases hid : id' = id
    · rw [hid] at hs₀
      obtain rfl : s₀ = s := Option.some.inj (hs₀.symm.trans hs)
      refine ⟨_, if_pos hid, ?_⟩
      rw [if_pos ⟨hid, hmarked⟩]
      exact ⟨rfl, hdraw.failed, fun k hk ↦ (hdepth k hk).failed⟩
    · refine ⟨s₀, (if_neg hid).trans hs₀, ?_⟩
      rw [if_neg fun hmarked ↦ hid hmarked.1]
  reports id' k := by
    rw [exists_failure_iff, hdraw.error, List.mem_singleton]
    refine and_congr_right fun hid ↦ ?_
    rw [hid]
    constructor
    · rintro (⟨rfl, hfailed, hrefused⟩ | ⟨hkey, herror⟩)
      · exact ⟨s, hs, hmarked, .inl ⟨rfl, hfailed⟩, hrefused⟩
      · obtain ⟨hfailed, hrefused⟩ := (hdepth k hkey).error.mp herror
        exact ⟨s, hs, hmarked, .inr ⟨hkey, hfailed⟩, hrefused⟩
    · rintro ⟨s₀, hs₀, _, hkeys, hrefused⟩
      obtain rfl : s₀ = s := Option.some.inj (hs₀.symm.trans hs)
      rcases hkeys with ⟨rfl, hfailed⟩ | ⟨hkey, hfailed⟩
      · exact .inl ⟨rfl, hfailed, hrefused⟩
      · exact .inr ⟨hkey, (hdepth k hkey).error.mpr ⟨hfailed, hrefused⟩⟩

theorem Consistent.compileDrawable_outcome (hdevice : KeepsPrograms alive)
    (hdecides : DecidesBySource takes spent) (hr : r.Consistent alive) {id : DrawableId}
    (hcompile : r.compileDrawable id = .ok (failures, r')) :
    (spent r.device → spent r'.device) ∧
      (¬ spent r'.device → CompiledAll takes [id] failures r r') := by
  rcases compileDrawable_cases hcompile with
    ⟨hclean, rfl, rfl⟩ | ⟨s, draw, depth, hs, hmarked, hdraw, hdepth, rfl, rfl⟩
  · exact ⟨fun hspent ↦ hspent, fun _ ↦ .of_clean hclean⟩
  · have hfirst := retargets hdevice (hr.exclusive id s hs).1 (hr.programs_of hs) hdraw
    obtain ⟨hstaysDraw, hpointed⟩ := retarget_outcome hdecides (hr.programs_of hs) hdraw
    have hstaysDepth : spent draw.device → spent depth.device :=
      spent_retarget hdecides hfirst.accounts hdepth
    refine ⟨fun hspent ↦ hstaysDepth (hstaysDraw hspent), fun hleft ↦ ?_⟩
    refine .of_pointed hs hmarked ?_ (fun k hk ↦ ?_) rfl
    · exact hr.options ▸ hpointed fun hspent ↦ hleft (hstaysDepth hspent)
    · rw [hk] at hdepth
      rw [← hr.options, ← hfirst.options]
      exact (retarget_outcome hdecides hfirst.accounts hdepth).2 hleft

omit [Device δ] in
theorem Compiled.of_sameScene {s s' : DrawableState} (hr : SameScene r r')
    (hs : Compiled takes r' s s') : Compiled takes r s s' := by
  obtain ⟨hdrawable, hdraw, hdepth⟩ := hs
  rw [hr.drawKey_eq, hr.config] at hdraw
  rw [hr.depthKey?_eq, hr.config] at hdepth
  exact ⟨hdrawable, hdraw, hdepth⟩

omit [Device δ] in
theorem SameScene.reports_iff (hr : SameScene r r') (s : DrawableState) (k : ProgramKey) :
    Reports takes r' s k ↔ Reports takes r s k := by
  unfold Reports
  rw [hr.drawKey_eq, hr.depthKey?_eq, hr.config]

omit [Device δ] in
/-- Drawables that are compiled one after the other do not reach into each other. -/
theorem CompiledAll.cons {middle : Renderer δ} {now later : List CompileFailure}
    {visited : DrawableId} {rest : List DrawableId} (hvisited : visited ∉ rest)
    (hsame : SameScene r middle) (hfirst : CompiledAll takes [visited] now r middle)
    (hothers : CompiledAll takes rest later middle r') :
    CompiledAll takes (visited :: rest) (now ++ later) r r' where
  states id s hs := by
    obtain ⟨m, hm, hnow⟩ := hfirst.states id s hs
    obtain ⟨s', hs', hlater⟩ := hothers.states id m hm
    simp only [List.mem_singleton] at hnow
    refine ⟨s', hs', ?_⟩
    by_cases hid : id = visited
    · rw [if_neg fun hmarked ↦ hvisited (hid ▸ hmarked.1)] at hlater
      simpa only [hlater, hid, List.mem_cons_self, true_and] using hnow
    · rw [if_neg fun hmarked ↦ hid hmarked.1] at hnow
      rw [hnow] at hlater
      simp only [List.mem_cons, hid, false_or]
      split
      · rename_i hmarked
        rw [if_pos hmarked] at hlater
        exact hlater.of_sameScene hsame
      · rename_i hunmarked
        rwa [if_neg hunmarked] at hlater
  reports id k := by
    -- The others are still what they were when their turn comes.
    have hkept (hid : id ≠ visited) : middle.drawables.get? id = r.drawables.get? id := by
      have hdrawable := hsame.drawables id
      cases hs : r.drawables.get? id with
      | none => simpa [hs] using hdrawable
      | some s =>
        obtain ⟨m, hm, hnow⟩ := hfirst.states id s hs
        rw [if_neg fun hmarked ↦ hid (List.mem_singleton.mp hmarked.1)] at hnow
        rw [hm, hnow]
    simp only [List.mem_append, exists_or, hfirst.reports, hothers.reports, List.mem_cons,
      List.not_mem_nil, or_false, or_and_right, hsame.reports_iff]
    refine or_congr ?_ ?_
    · refine and_congr_right fun hid ↦ ?_
      rw [hid]
    · refine and_congr_right fun hid ↦ ?_
      rw [hkept fun heq ↦ hvisited (heq ▸ hid)]

/-- Compiling a run of drawables does to each of them what compiling it alone would do, and reports
the same. -/
theorem Consistent.compileIn_outcome (hdevice : KeepsPrograms alive)
    (hdecides : DecidesBySource takes spent) (hr : r.Consistent alive)
    {visits : List DrawableId} (hnodup : visits.Nodup)
    (hcompile : r.compileIn visits = .ok (failures, r')) :
    (spent r.device → spent r'.device) ∧
      (¬ spent r'.device → CompiledAll takes visits failures r r') := by
  induction visits generalizing r failures with
  | nil =>
    cases hcompile
    exact ⟨fun hspent ↦ hspent, fun _ ↦ ⟨fun id s hs ↦ ⟨s, hs, by simp⟩, by simp⟩⟩
  | cons visited rest ih =>
    obtain ⟨now, middle, later, hnow, hlater⟩ := compileIn_cons hcompile
    obtain rfl : failures = now ++ later :=
      (Prod.mk.inj (Except.ok.inj (hcompile.symm.trans (compileIn_cons_eq hnow hlater)))).1
    obtain ⟨hvisited, hrest⟩ := List.nodup_cons.mp hnodup
    obtain ⟨hstays, hfirst⟩ := hr.compileDrawable_outcome hdevice hdecides hnow
    obtain ⟨hstays', hothers⟩ := ih (hr.compileDrawable hdevice hnow) hrest hlater
    refine ⟨fun hspent ↦ hstays' (hstays hspent), fun hleft ↦ ?_⟩
    exact .cons hvisited (sameScene_compileDrawable hnow)
      (hfirst fun hspent ↦ hleft (hstays' hspent)) (hothers hleft)

/-- A marked drawable whose program the device takes and whose geometry was uploaded is ready to be
drawn. -/
theorem Consistent.ready_compileIn (hdevice : KeepsPrograms alive)
    (hdecides : DecidesBySource takes spent) (hr : r.Consistent alive)
    {visits : List DrawableId} (hvisits : visits.Perm r.drawables.keys)
    (hcompile : r.compileIn visits = .ok (failures, r')) (hleft : ¬ spent r'.device)
    {id : DrawableId} {s : DrawableState} (hs : r.drawables.get? id = some s)
    (hmarked : s.dirty = true) (hfailed : s.draw.failed ≠ some (r.drawKey s.drawable))
    (htakes : TakesKey takes r.config.shaderOptions (r.drawKey s.drawable))
    {b : GeometryBuffers} (hb : r.buffers? s.drawable.geometry.id = some b) : r'.Ready id := by
  have hsame := sameScene_compileIn hcompile
  obtain ⟨hstates, _⟩ := (hr.compileIn_outcome hdevice hdecides
    (hvisits.nodup_iff.mpr r.drawables.nodup_keys) hcompile).2 hleft
  obtain ⟨s', hs', hcompiled⟩ := hstates id s hs
  rw [if_pos ⟨hvisits.mem_iff.mpr (Registry.mem_keys_of_get? hs), hmarked⟩] at hcompiled
  have hkey : r'.drawKey s'.drawable = r.drawKey s.drawable := by
    rw [hsame.drawKey_eq, hcompiled.drawable]
  rcases (hr.upToDate hdevice hvisits hcompile hs').1 with ⟨h, hhandle, hstands, _⟩ | ⟨_, hfails⟩
  · obtain ⟨e, he, hdraw⟩ := Option.map_eq_some_iff.mp hstands
    refine ⟨s', h, e, _, b, hs', hhandle, he, hdraw, ?_⟩
    rwa [hcompiled.drawable, buffers?, geometries_compileIn hcompile]
  · rw [hkey, hcompiled.draw] at hfails
    exact (hfails.elim hfailed fun hrefused ↦ hrefused htakes).elim

end Renderer

end SceneRenderer
