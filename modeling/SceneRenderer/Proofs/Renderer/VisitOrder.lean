import SceneRenderer.Proofs.Renderer.CompileOutcome
import SceneRenderer.Proofs.Renderer.HandedGeometries
import SceneRenderer.Proofs.Renderer.ShadowDraws
import SceneRenderer.Proofs.Renderer.Standing

/-!
The order in which drawables are visited and collected does not show. In another order programs are
shared that were built anew, lie in other slots of the cache and are drawn one after the other in
another way; but every drawable is left with the same keys, the same failures are reported, the
cache counts the same uses and a frame counts the same binds, draws and skips. The main statement is
`Renderer.reached_alike`.
-/

set_option autoImplicit false
set_option relaxedAutoImplicit false

namespace SceneRenderer

open Shader ProgramCache

/-- Slots that stand for the same key are the same to look at, if both failed or neither did. -/
theorem ProgramSlot.StandsFor.eq_of_failed {cache cache' : ProgramCache} {slot slot' : ProgramSlot}
    {key : Option ProgramKey} (hslot : slot.StandsFor cache key)
    (hslot' : slot'.StandsFor cache' key)
    (hfailed : ∀ k, key = some k → (slot.failed = some k ↔ slot'.failed = some k)) :
    slot.handle.bind cache.key? = slot'.handle.bind cache'.key? ∧ slot.failed = slot'.failed := by
  cases key with
  | none => rw [hslot.1, hslot'.1, hslot.2, hslot'.2]; exact ⟨rfl, rfl⟩
  | some k =>
    have hsame := hfailed k rfl
    rcases hslot with ⟨h, hhandle, hkey, hnone⟩ | ⟨hnone, hkey⟩ <;>
      rcases hslot' with ⟨h', hhandle', hkey', hnone'⟩ | ⟨hnone', hkey'⟩
    · rw [hhandle, hhandle', hnone, hnone']
      exact ⟨hkey.trans hkey'.symm, rfl⟩
    · rw [hnone] at hsame
      cases hsame.mpr hkey'
    · rw [hnone'] at hsame
      cases hsame.mp hkey
    · rw [hnone, hnone', hkey, hkey']
      exact ⟨rfl, rfl⟩

namespace Renderer

variable {δ : Type} [Device δ] {alive : δ → ProgramId → Prop}
  {takes : String → String → Prop} {spent : δ → Prop} {r : Renderer δ}

/-- Compiling does nothing where no drawable is marked. -/
theorem compileIn_of_clean (hclean : ∀ id s, r.drawables.get? id = some s → s.dirty = false)
    (visits : List DrawableId) : r.compileIn visits = .ok ([], r) := by
  have hnow (id : DrawableId) : r.compileDrawable id = .ok ([], r) := by
    unfold compileDrawable
    cases hs : r.drawables.get? id with
    | none => rfl
    | some s =>
      dsimp only
      rw [if_neg (Bool.eq_false_iff.mp (hclean id s hs))]
  induction visits with
  | nil => rfl
  | cons id rest ih => exact compileIn_cons_eq (hnow id) ih

theorem exists_renderIn_of_clean
    (hclean : ∀ id s, r.drawables.get? id = some s → s.dirty = false)
    (visits order : List DrawableId) :
    ∃ rendered, r.renderIn visits order = .ok ((r.frameIn order).2.1, rendered) := by
  unfold renderIn
  rw [compileIn_of_clean hclean]
  exact ⟨_, rfl⟩

/-- Whatever the orders, a frame has a result and counts this. -/
def Counts (r : Renderer δ) (main shadow : FrameStats) : Prop :=
  ∀ visits order, visits.Perm r.drawables.keys → order.Perm r.drawables.keys →
    ∃ report rendered, r.renderIn visits order = .ok (report, rendered) ∧ report.main = main ∧
      report.shadow = shadow

/-- Renderers that cannot be told apart by the keys of their programs, by the uses of these and by
what their frames count. -/
structure Alike (r r' : Renderer δ) : Prop where
  /-- The drawables have the programs of the same keys, and the same keys failed. -/
  standing : ∀ id, r.standing? id = r'.standing? id
  contains : ∀ k, r.cache.contains k = r'.cache.contains k
  useCountOf : ∀ k, r.cache.useCountOf k = r'.cache.useCountOf k
  counts : ∃ main shadow, r.Counts main shadow ∧ r'.Counts main shadow

theorem Alike.of_standing {r' : Renderer δ} (hr : r.Consistent alive)
    (hr' : r'.Consistent alive) (hkeys : r.drawables.keys = r'.drawables.keys)
    (hclean : ∀ id s, r.drawables.get? id = some s → s.dirty = false)
    (hclean' : ∀ id s, r'.drawables.get? id = some s → s.dirty = false)
    (hstanding : ∀ id, r.standing? id = r'.standing? id) (huploaded : r.uploaded = r'.uploaded)
    (hshadows : r.shadows = r'.shadows) (hlights : r.scene.lights = r'.scene.lights) :
    Alike r r' := by
  have huses (k : ProgramKey) : r.cache.useCountOf k = r'.cache.useCountOf k := by
    rw [← UInt32.toNat_inj, hr.useCountOf_eq, hr'.useCountOf_eq]
    refine Registry.total_congr hkeys fun id ↦ ?_
    have hcount := congrArg (fun s ↦ (s.map (Standing.uses · k)).getD 0) (hstanding id)
    simp only [standing?, Option.map_map] at hcount
    exact hcount
  refine ⟨hstanding, fun k ↦ ?_, huses, (r.frameIn r.drawables.keys).2.1.main,
    (r.frameIn r.drawables.keys).2.1.shadow, ?_, ?_⟩
  · rw [hr.programs.sound.contains_eq, hr'.programs.sound.contains_eq, huses]
  · intro visits order hvisits horder
    obtain ⟨hmain, hshadow⟩ :=
      stats_eq hr.programs.sound hr.programs.sound (fun _ ↦ rfl) rfl rfl rfl
      horder
    obtain ⟨rendered, hrender⟩ := exists_renderIn_of_clean hclean visits order
    exact ⟨_, rendered, hrender, hmain, hshadow⟩
  · intro visits order hvisits horder
    obtain ⟨hmain, hshadow⟩ := stats_eq hr'.programs.sound hr.programs.sound
      (fun id ↦ (hstanding id).symm) huploaded.symm hshadows.symm hlights.symm
      (horder.trans (.of_eq hkeys.symm))
    obtain ⟨rendered, hrender⟩ := exists_renderIn_of_clean hclean' visits order
    exact ⟨_, rendered, hrender, hmain, hshadow⟩

/-- Compiling in two orders leaves the drawables standing for the same. -/
theorem Consistent.standing_eq (hdevice : KeepsPrograms alive)
    (hdecides : DecidesBySource takes spent) (hr : r.Consistent alive)
    {visits visits' : List DrawableId} (hvisits : visits.Perm r.drawables.keys)
    (hvisits' : visits'.Perm r.drawables.keys) {failures failures' : List CompileFailure}
    {compiled compiled' : Renderer δ} (hcompile : r.compileIn visits = .ok (failures, compiled))
    (hcompile' : r.compileIn visits' = .ok (failures', compiled')) (hleft : ¬ spent compiled.device)
    (hleft' : ¬ spent compiled'.device) (id : DrawableId) :
    compiled.standing? id = compiled'.standing? id := by
  have hsame := sameScene_compileIn hcompile
  have hsame' := sameScene_compileIn hcompile'
  cases hs : r.drawables.get? id with
  | none =>
    have hnone := hsame.drawables id
    have hnone' := hsame'.drawables id
    rw [hs] at hnone hnone'
    unfold standing?
    rw [Option.map_eq_none_iff.mp hnone, Option.map_eq_none_iff.mp hnone']
    rfl
  | some s =>
    have hnodup := r.drawables.nodup_keys
    have hkey := Registry.mem_keys_of_get? hs
    obtain ⟨s₁, hs₁, hcompiled⟩ := ((hr.compileIn_outcome hdevice hdecides
      (hvisits.nodup_iff.mpr hnodup) hcompile).2 hleft).1 id s hs
    obtain ⟨s₂, hs₂, hcompiled'⟩ := ((hr.compileIn_outcome hdevice hdecides
      (hvisits'.nodup_iff.mpr hnodup) hcompile').2 hleft').1 id s hs
    obtain ⟨hdraw, hdepth⟩ := hr.upToDate hdevice hvisits hcompile hs₁
    obtain ⟨hdraw', hdepth'⟩ := hr.upToDate hdevice hvisits' hcompile' hs₂
    simp only [hvisits.mem_iff.mpr hkey, hvisits'.mem_iff.mpr hkey,
      true_and] at hcompiled hcompiled'
    have hagree : s₁.drawable = s.drawable ∧ s₂.drawable = s.drawable ∧
        (s₁.draw.failed = some (r.drawKey s.drawable) ↔
          s₂.draw.failed = some (r.drawKey s.drawable)) ∧
        ∀ k, r.depthKey? s.drawable = some k →
          (s₁.depth.failed = some k ↔ s₂.depth.failed = some k) := by
      split at hcompiled
      · rename_i hmarked
        rw [if_pos hmarked] at hcompiled'
        exact ⟨hcompiled.drawable, hcompiled'.drawable, hcompiled.draw.trans hcompiled'.draw.symm,
          fun k hk ↦ (hcompiled.depth k hk).trans (hcompiled'.depth k hk).symm⟩
      · rename_i hclean
        rw [if_neg hclean] at hcompiled'
        subst hcompiled hcompiled'
        exact ⟨rfl, rfl, .rfl, fun _ _ ↦ .rfl⟩
    obtain ⟨hdrawable, hdrawable', hfailed, hfailedDepth⟩ := hagree
    rw [hdrawable, hsame.drawKey_eq] at hdraw
    rw [hdrawable', hsame'.drawKey_eq] at hdraw'
    rw [hdrawable, hsame.depthKey?_eq] at hdepth
    rw [hdrawable', hsame'.depthKey?_eq] at hdepth'
    obtain ⟨hkeys, hkeysFailed⟩ := hdraw.eq_of_failed hdraw' fun k hk ↦ by
      cases hk
      exact hfailed
    obtain ⟨hdepthKeys, hdepthFailed⟩ := hdepth.eq_of_failed hdepth' hfailedDepth
    unfold standing? standingOf
    rw [hs₁, hs₂, Option.map_some, Option.map_some, hdrawable, hdrawable', hkeys, hkeysFailed,
      hdepthKeys, hdepthFailed]

/-- The order in which drawables are visited and collected does not show, on a device that decides
by the source whether a program can be made. Compiling has a result in any order, unless the filter
of shadow maps is too wide or every identity has a drawable. -/
theorem reached_alike (hdevice : KeepsPrograms alive) (hdecides : DecidesBySource takes spent)
    {device : δ} {config : RendererConfig} {ops : List Operation}
    (hreached : Reached device config ops r) {visits visits' : List DrawableId}
    (hvisits : visits.Perm r.drawables.keys) (hvisits' : visits'.Perm r.drawables.keys) :
    (r.config.shaderOptions.kernelRadius ≤ maxKernelRadius → r.drawables.size < UInt32.size →
      (∃ failures compiled, r.compileIn visits = .ok (failures, compiled)) ∧
        ∃ failures compiled, r.compileIn visits' = .ok (failures, compiled)) ∧
    ∀ failures compiled failures' compiled',
      r.compileIn visits = .ok (failures, compiled) →
      r.compileIn visits' = .ok (failures', compiled') →
      ¬ spent compiled.device → ¬ spent compiled'.device →
        (∀ id k, (∃ e, CompileFailure.mk id k e ∈ failures) ↔
          ∃ e, CompileFailure.mk id k e ∈ failures') ∧
        Alike compiled compiled' := by
  have hr := hreached.consistent hdevice
  refine ⟨fun hradius hsize ↦ ⟨hr.exists_compileIn hdevice hradius hsize visits,
    hr.exists_compileIn hdevice hradius hsize visits'⟩, ?_⟩
  intro failures compiled failures' compiled' hcompile hcompile' hleft hleft'
  have hnodup := r.drawables.nodup_keys
  obtain ⟨_, hreports⟩ := (hr.compileIn_outcome hdevice hdecides
    (hvisits.nodup_iff.mpr hnodup) hcompile).2 hleft
  obtain ⟨_, hreports'⟩ := (hr.compileIn_outcome hdevice hdecides
    (hvisits'.nodup_iff.mpr hnodup) hcompile').2 hleft'
  refine ⟨fun id k ↦ ?_, ?_⟩
  · rw [hreports, hreports', hvisits.mem_iff, hvisits'.mem_iff]
  · obtain ⟨hshadows, hscene⟩ := lights_compileIn hcompile
    obtain ⟨hshadows', hscene'⟩ := lights_compileIn hcompile'
    refine .of_standing (hr.compileIn hdevice hcompile) (hr.compileIn hdevice hcompile')
      ((keys_compileIn hcompile).trans (keys_compileIn hcompile').symm)
      (fun id s hs ↦ clean_compileIn hvisits hcompile hs)
      (fun id s hs ↦ clean_compileIn hvisits' hcompile' hs)
      (hr.standing_eq hdevice hdecides hvisits hvisits' hcompile hcompile' hleft hleft') ?_
      (hshadows.trans hshadows'.symm) (by rw [hscene, hscene'])
    funext i
    unfold uploaded buffers?
    rw [geometries_compileIn hcompile, geometries_compileIn hcompile']

/-! ### Enough identities -/

section Supplies

variable {u u' : Recorder} {n : Nat}

theorem supplies_of_le {m : Nat} (hu : u.Supplies n) (hle : m ≤ n) : u.Supplies m :=
  ⟨Nat.lt_of_le_of_lt (Nat.add_le_add_left hle _) hu.left, hu.stage, hu.linking, hu.fault⟩

theorem supplies_submitAll (hu : u.Supplies n) (commands : List Command) :
    Recorder.Supplies n (Device.submitAll u commands) := by
  induction commands generalizing u with
  | nil => exact hu
  | cons command rest ih => exact ih (Recorder.supplies_submit hu command)

theorem supplies_releaseHandle (hu : u.Supplies n) (cache : ProgramCache)
    (holder : Option ProgramHandle) : (releaseHandle cache u holder).2.2.Supplies n := by
  unfold releaseHandle
  split
  · exact hu
  · split
    · exact supplies_submitAll hu _
    · exact hu

/-- Pointing a slot at a program takes one identity at most. -/
theorem supplies_retarget (hu : u.Supplies (n + 1)) {cache : ProgramCache} {slot : ProgramSlot}
    {key : Option ProgramKey} {t : Retargeted Recorder}
    (hretarget : retarget cache u slot key = .ok t) : t.device.Supplies n := by
  have hless : u.Supplies n := supplies_of_le hu (Nat.le_succ n)
  cases key with
  | none =>
    rw [← Except.ok.inj hretarget]
    exact supplies_releaseHandle hless cache slot.handle
  | some k =>
    simp only [retarget] at hretarget
    split at hretarget
    · cases hretarget
      exact hless
    · rcases hacquire : cache.acquire u k with fault | ⟨result, cache', u'⟩
      · rw [hacquire] at hretarget
        cases hretarget
      · have hu' : u'.Supplies n := by
          rcases acquireWith_ok hacquire with
            ⟨_, _, _, _, _, _, _, _, rfl⟩ | ⟨_, source, _, hlinked⟩
          · exact hless
          · obtain ⟨p, u'', hlink, hsupplies⟩ := hu.exists_link source
            rcases hlinked with ⟨e, hfails, _⟩ | ⟨program, hlink', _⟩
            · rw [hlink] at hfails
              cases hfails
            · rw [hlink] at hlink'
              cases hlink'
              exact hsupplies
        have hreleased := supplies_releaseHandle hu' cache' slot.handle
        rw [hacquire] at hretarget
        cases result <;> rw [← Except.ok.inj hretarget] <;> exact hreleased

/-- Compiling takes two identities for each drawable at most. -/
theorem supplies_compileIn {r compiled : Renderer Recorder} {visits : List DrawableId}
    {failures : List CompileFailure} (hu : r.device.Supplies (n + 2 * visits.length))
    (hcompile : r.compileIn visits = .ok (failures, compiled)) : compiled.device.Supplies n := by
  induction visits generalizing r failures with
  | nil =>
    cases hcompile
    exact hu
  | cons id rest ih =>
    obtain ⟨now, middle, later, hnow, hlater⟩ := compileIn_cons hcompile
    refine ih ?_ hlater
    have hcount : n + 2 * rest.length + 2 = n + 2 * (id :: rest).length := by
      rw [List.length_cons]
      omega
    rcases compileDrawable_ok hnow with ⟨_, rfl⟩ | ⟨s, draw, depth, _, hdraw, hdepth, rfl⟩
    · exact supplies_of_le hu (hcount ▸ Nat.le_add_right _ 2)
    · exact supplies_retarget (supplies_retarget (supplies_of_le hu (hcount ▸ Nat.le_refl _)) hdraw)
        hdepth

end Supplies

/-- A drawable and its stray, under a sun that casts a shadow, compiled in both orders. -/
theorem reached_alike_litPair :
    KeepsPrograms Recorder.Alive ∧ DecidesBySource (fun _ _ ↦ True) Recorder.Spent ∧
      ∃ r compiled compiled' : Renderer Recorder, ∃ failures failures',
        Reached .standard .standard
          [.addDrawable (twin ⟨1⟩), .addDrawable stray, .setLights [shadowSun]] r ∧
        [⟨1⟩, ⟨2⟩].Perm r.drawables.keys ∧ [⟨2⟩, ⟨1⟩].Perm r.drawables.keys ∧
        r.compileIn [⟨1⟩, ⟨2⟩] = .ok (failures, compiled) ∧
        r.compileIn [⟨2⟩, ⟨1⟩] = .ok (failures', compiled') ∧ ¬ compiled.device.Spent ∧
        ¬ compiled'.device.Spent ∧ Alike compiled compiled' := by
  obtain ⟨r, hreached, hsupplies, hkeys, hradius, hsize⟩ : ∃ r : Renderer Recorder,
      Reached .standard .standard
          [.addDrawable (twin ⟨1⟩), .addDrawable stray, .setLights [shadowSun]] r ∧
        r.device.Supplies (1 + 2 * 2) ∧ r.drawables.keys = [⟨2⟩, ⟨1⟩] ∧
        r.config.shaderOptions.kernelRadius ≤ maxKernelRadius ∧
        r.drawables.size < UInt32.size :=
    ⟨_, .perform (.perform (.perform .new (.setLights [shadowSun]) rfl) _ rfl) _ rfl,
      ⟨by decide, rfl, rfl, rfl⟩, rfl, by decide, by decide⟩
  have hvisits : [⟨1⟩, ⟨2⟩].Perm r.drawables.keys := by
    rw [hkeys]
    exact .swap _ _ _
  have hvisits' : [⟨2⟩, ⟨1⟩].Perm r.drawables.keys := by
    rw [hkeys]
  obtain ⟨hresult, halike⟩ := reached_alike Recorder.keepsPrograms Recorder.decidesBySource hreached
    hvisits hvisits'
  obtain ⟨⟨failures, compiled, hcompile⟩, failures', compiled', hcompile'⟩ :=
    hresult hradius hsize
  have hleft := (supplies_compileIn hsupplies hcompile).not_spent
  have hleft' := (supplies_compileIn hsupplies hcompile').not_spent
  exact ⟨Recorder.keepsPrograms, Recorder.decidesBySource, r, compiled, compiled', failures,
    failures', hreached, hvisits, hvisits', hcompile, hcompile', hleft, hleft',
    (halike _ _ _ _ hcompile hcompile' hleft hleft').2⟩

end Renderer

end SceneRenderer
