import SceneRenderer.Listing.Report
import SceneRenderer.Proofs.Device.NumberedPrograms
import SceneRenderer.Proofs.Listing.Grouping
import SceneRenderer.Proofs.Renderer.HandedGeometries
import SceneRenderer.Proofs.Renderer.RefusedChanges
import SceneRenderer.Proofs.Renderer.ShadowDraws
import SceneRenderer.Proofs.Renderer.UpToDate

/-!
Listings of loaded scenes. Loading a file is a run of operations, so that everything that holds of
runs holds of the renderer that comes of it; its drawables are those of the file, each once, and all
of them are up to date.

The listing of keys is a partition of these drawables by their draw programs, and the users that it
prints are the drawables that it lists (`LoadedScene.keys_partition`).
-/

set_option autoImplicit false
set_option relaxedAutoImplicit false

namespace SceneRenderer

open Shader

/-! ### Lists -/

theorem sum_map_ite_eq_length_filter {α : Type} (p : α → Bool) (l : List α) :
    (l.map fun a ↦ if p a then 1 else 0).sum = (l.filter p).length := by
  induction l with
  | nil => rfl
  | cons a rest ih =>
    rw [List.map_cons, List.sum_cons, ih, List.filter_cons]
    split
    · rw [List.length_cons, Nat.add_comm]
    · exact Nat.zero_add _

/-! ### Uses of draw programs -/

namespace Renderer

variable {δ : Type} [Device δ] {alive : δ → ProgramId → Prop}
  {r : Renderer δ} {id : DrawableId} {h : ProgramHandle}

omit [Device δ] in
theorem programOf?_eq_some_iff :
    r.programOf? id = some h ↔ ∃ s, r.drawables.get? id = some s ∧ s.draw.handle = some h :=
  Option.bind_eq_some_iff

/-- Where all drawables are up to date, a draw program is no drawable's depth program. -/
theorem Consistent.depth_ne_draw (hr : r.Consistent alive)
    (hclean : ∀ id s, r.drawables.get? id = some s → s.dirty = false)
    (hprogram : r.programOf? id = some h) {id' : DrawableId} {s' : DrawableState}
    (hs' : r.drawables.get? id' = some s') : s'.depth.handle ≠ some h := by
  intro hdepth
  obtain ⟨s, hs, hdraw⟩ := programOf?_eq_some_iff.mp hprogram
  have hdrawKey := (hr.current id s hs (hclean id s hs)).1.key_eq hdraw
  have hdepthKey := (hr.current id' s' hs' (hclean id' s' hs')).2.key_eq hdepth
  rw [hdrawKey] at hdepthKey
  cases eq_of_depthKey? hdepthKey.symm

/-- The uses of a draw program are the drawables that it draws. -/
theorem Consistent.holders_eq_length (hr : r.Consistent alive)
    (hclean : ∀ id s, r.drawables.get? id = some s → s.dirty = false)
    (hprogram : r.programOf? id = some h) :
    r.holders h = (r.drawables.keys.filter fun id' ↦ r.programOf? id' = some h).length := by
  rw [holders, Registry.total_eq_sum_keys, ← sum_map_ite_eq_length_filter]
  refine congrArg List.sum (List.map_congr_left fun id' _ ↦ ?_)
  unfold Registry.countAt programOf?
  cases hs' : r.drawables.get? id' with
  | none => rfl
  | some s' =>
    have hother : held s'.depth.handle h = 0 := if_neg (hr.depth_ne_draw hclean hprogram hs')
    simp only [Option.map_some, Option.getD_some, Option.bind_some, DrawableState.holds, hother,
      decide_eq_true_eq, Nat.add_zero]
    rfl

/-- The program that draws a drawable is in the cache, with the uses that are held of it. -/
theorem Consistent.exists_entry (hr : r.Consistent alive)
    (hprogram : r.programOf? id = some h) :
    ∃ e, r.cache.entry? h = some e ∧ e.useCount.toNat = r.holders h := by
  obtain ⟨s, hs, hdraw⟩ := programOf?_eq_some_iff.mp hprogram
  exact hr.programs.entry?_of_uses (Nat.lt_of_lt_of_le (holds_pos_of_draw hdraw) (holds_le hs h))

/-- Drawables with programs in one slot share the program. -/
theorem Consistent.program_eq (hr : r.Consistent alive) {id' : DrawableId}
    {h' : ProgramHandle} (hprogram : r.programOf? id = some h)
    (hprogram' : r.programOf? id' = some h') (hindex : h.index = h'.index) : h = h' := by
  obtain ⟨e, he, _⟩ := hr.exists_entry hprogram
  obtain ⟨e', he', _⟩ := hr.exists_entry hprogram'
  exact ProgramCache.handle_eq _ he he' hindex

/-! ### Loading -/

/-- What a drawable is after one was added. -/
theorem get?_addDrawable {r' : Renderer δ} {d : Drawable} (hadd : r.addDrawable d = (.ok (), r'))
    (id : DrawableId) :
    r'.drawables.get? id = if id = d.id then some (.new d) else r.drawables.get? id := by
  have hretained := drawables_retainGeometry (r.removeDrawable d.id).2 d.geometry
  unfold addDrawable at hadd
  dsimp only at hadd
  split at hadd
  · cases (Prod.mk.inj hadd).1
  · rename_i retained hretain
    rw [hretain] at hretained
    obtain rfl := (Prod.mk.inj hadd).2
    show (retained.drawables.insert d.id (.new d)).get? id = _
    rw [show retained.drawables = _ from hretained, Registry.get?_insert, get?_removeDrawable]
    split <;> rfl

end Renderer

/-! ### New caches -/

/-- Two programs that are stored in a new cache are found in its first slots. -/
theorem ProgramCache.find?_store_store (options : ShaderOptions) (e e' : CacheEntry)
    (hne : e.key ≠ e'.key) (uses : UInt32) :
    ((ProgramCache.new options).store e).2.find? e'.key = none ∧
      (((ProgramCache.new options).store e).2.store e').2.find? e.key = some ⟨0, 0⟩ ∧
      ((((ProgramCache.new options).store e).2.store e').2.hit ⟨0, 0⟩ uses).find? e'.key =
        some ⟨1, 0⟩ ∧
      (((ProgramCache.new options).store e).2.store e').2.size = 2 := by
  have hfirst : ((ProgramCache.new options).store e).2.byKey = Registry.empty.insert e.key 0 := rfl
  have hboth : (((ProgramCache.new options).store e).2.store e').2.byKey =
      (Registry.empty.insert e.key 0).insert e'.key 1 := rfl
  refine ⟨?_, ?_, ?_, ?_⟩
  · rw [find?, hfirst, Registry.get?_insert, if_neg hne.symm]
    rfl
  · rw [find?, hboth, Registry.get?_insert, if_neg hne, Registry.get?_insert, if_pos rfl]
    rfl
  · rw [find?, hit, modifyEntry, hboth, Registry.get?_insert, if_pos rfl]
    rfl
  · have hnew : (Registry.empty.insert e.key (0 : UInt32)).get? e'.key = none := by
      rw [Registry.get?_insert, if_neg hne.symm]
      rfl
    rw [size, hboth, Registry.insert, dif_pos hnew]
    rfl

namespace LoadedScene

open Renderer

variable {device : Recorder} {file : SceneFile} {config : RendererConfig} {ops : List Operation}
  {r r' : Renderer Recorder} {s : LoadedScene}

/-- Adding drawables is a run, after which they are there beside those that were there before. -/
theorem reached_addAll {drawables : List Drawable} (hreached : Reached device config ops r)
    (hadd : addAll r drawables = (.ok (), r')) :
    (∃ ops', Reached device config ops' r') ∧
      ∀ id, id ∈ r'.drawables.keys ↔ id ∈ r.drawables.keys ∨ id ∈ drawables.map (·.id) := by
  induction drawables generalizing r ops with
  | nil =>
    obtain rfl := (Prod.mk.inj hadd).2
    exact ⟨⟨ops, hreached⟩, fun id ↦ by simp⟩
  | cons d rest ih =>
    unfold addAll at hadd
    split at hadd
    · rename_i added hfirst
      have hperform : r.perform (.addDrawable d) = .ok (.found true, added) := by
        simp [Renderer.perform, hfirst, outcomeOf]
      obtain ⟨hlater, hkeys⟩ := ih (hreached.perform (.addDrawable d) hperform) hadd
      refine ⟨hlater, fun id ↦ ?_⟩
      rw [hkeys, ← Registry.contains_iff, ← Registry.contains_iff, Registry.contains,
        Registry.contains, get?_addDrawable hfirst, List.map_cons, List.mem_cons]
      split
      · rename_i hid
        simp [hid]
      · rename_i hne
        simp [hne]
    · cases (Prod.mk.inj hadd).1

/-- Setting a scene up is a run, and its drawables are those of the file. -/
theorem reached_setUp (hsetUp : setUp file config = (.ok (), r)) :
    (∃ ops, Reached .standard config ops r) ∧
      ∀ id, id ∈ r.drawables.keys ↔ id ∈ file.drawables.map (·.id) := by
  unfold setUp at hsetUp
  have hcamera : Reached Recorder.standard config _ ((Renderer.new .standard config).setCamera
    file.scene.camera) := .perform .new (.setCamera file.scene.camera) rfl
  dsimp only at hsetUp
  split at hsetUp
  · cases (Prod.mk.inj hsetUp).1
  · rename_i lit hlights
    have hperform : ((Renderer.new Recorder.standard config).setCamera file.scene.camera).perform
        (.setLights file.scene.lights) = .ok (.done, lit) := by
      simp [Renderer.perform, hlights, outcomeOf]
    have hlit := hcamera.perform _ hperform
    obtain ⟨hreached, hkeys⟩ := reached_addAll
      ((hlit.perform (.setClips file.scene.clips) rfl).perform
        (.setEnvironment file.scene.environment) rfl) hsetUp
    refine ⟨hreached, fun id ↦ (hkeys id).trans (or_iff_right fun hold ↦ ?_)⟩
    have hkeys : lit.drawables.keys = [] := by
      have hmarked := congrArg (·.2.drawables.keys) hlights
      exact hmarked.symm.trans (Registry.keys_mapValues _ _)
    simp only [Renderer.setEnvironment, Renderer.setClips, Renderer.markAll,
      Registry.keys_mapValues, hkeys] at hold
    exact absurd hold List.not_mem_nil

/-- The drawables of a scene that was set up are those of the file, each once. -/
theorem perm_keys_setUp (hsetUp : setUp file config = (.ok (), r)) :
    r.drawables.keys.Perm (file.drawables.map (·.id)).eraseDups := by
  refine (List.perm_ext_iff_of_nodup r.drawables.nodup_keys (nodup_eraseDups _)).mpr fun id ↦ ?_
  exact ((reached_setUp hsetUp).2 id).trans List.mem_eraseDups.symm

/-- Loading visits the drawables of the file in some order. -/
theorem exists_ofFileIn (file : SceneFile) (config : RendererConfig) :
    ∃ visits : List DrawableId, visits.Perm (file.drawables.map (·.id)).eraseDups ∧
      ofFile file config = ofFileIn file config visits := by
  rcases hsetUp : setUp file config with ⟨e | ⟨⟩, r⟩
  · refine ⟨_, .refl _, ?_⟩
    unfold ofFile ofFileIn
    rw [hsetUp]
  · refine ⟨_, perm_keys_setUp hsetUp, ?_⟩
    rw [ofFile, hsetUp]

/-- A scene that was loaded comes of a run, has the drawables of the file, and they are up to
date. -/
theorem reached_ofFileIn {visits : List DrawableId}
    (hvisits : visits.Perm (file.drawables.map (·.id)).eraseDups)
    (hload : ofFileIn file config visits = .ok (.ok s)) :
    (∃ ops, Reached .standard config ops s.renderer) ∧
      s.renderer.drawables.keys.Perm (file.drawables.map (·.id)).eraseDups ∧
      (∀ id t, s.renderer.drawables.get? id = some t → t.dirty = false) ∧
      s.order = (file.drawables.map (·.id)).eraseDups := by
  rcases hsetUp : setUp file config with ⟨result, r⟩
  simp only [ofFileIn, hsetUp, bind, Except.bind] at hload
  split at hload
  · cases hload
  · cases result with
    | error e => cases hload
    | ok =>
      dsimp only at hload
      rcases hcompile : r.compileIn visits with fault | ⟨failures, compiled⟩
      · rw [hcompile] at hload
        cases hload
      · rw [hcompile] at hload
        dsimp only at hload
        split at hload
        · cases hload
        · obtain rfl : (⟨compiled, _, failures⟩ : LoadedScene) = s :=
            Except.ok.inj (Except.ok.inj hload)
          obtain ⟨⟨ops, hreached⟩, _⟩ := reached_setUp hsetUp
          have hkeys := perm_keys_setUp hsetUp
          have hvisited : visits.Perm r.drawables.keys := hvisits.trans hkeys.symm
          refine ⟨⟨_, hreached.compile hvisited hcompile⟩, ?_,
            fun id t ht ↦ clean_compileIn hvisited hcompile ht, rfl⟩
          rwa [show compiled.drawables.keys = r.drawables.keys from keys_compileIn hcompile]

/-! ### Twins under a sun -/

/-- Twins under a sun that casts a shadow, the first of them listed twice. -/
def shadedTwins : SceneFile where
  scene := { Scene.empty with lights := [shadowSun] }
  drawables := [twin ⟨1⟩, twin ⟨2⟩, twin ⟨1⟩]

/-- The twins get a draw program between them, and a depth program. -/
theorem exists_compileIn_shadedTwins {r : Renderer Recorder}
    (hcache : r.cache = .new RendererConfig.standard.shaderOptions)
    (hsupplies : r.device.Supplies 2)
    (hget : ∀ id, id = ⟨1⟩ ∨ id = ⟨2⟩ → r.drawables.get? id = some (.new (twin id)))
    {c : Features} (hdraw : ∀ id, r.drawKey (twin id) = .draw c) {d : DepthFeatures}
    (hdepth : ∀ id, r.depthKey? (twin id) = some (.shadowDepth d)) :
    ∃ failures compiled, r.compileIn [⟨2⟩, ⟨1⟩] = .ok (failures, compiled) ∧
      compiled.device.fault = none ∧ compiled.cache.size = 2 ∧
      ∀ id, id = ⟨1⟩ ∨ id = ⟨2⟩ → compiled.programOf? id = some ⟨0, 0⟩ := by
  have hradius : r.cache.options.kernelRadius ≤ maxKernelRadius := by
    rw [hcache]
    decide
  obtain ⟨source, hsource⟩ := synthesize_ok hradius (.draw c)
  obtain ⟨depthSource, hdepthSource⟩ := synthesize_ok hradius (.shadowDepth d)
  obtain ⟨p, linked, hlink, hlinked⟩ := Recorder.Supplies.exists_link (n := 1) hsupplies source
  obtain ⟨p', device, hdepthLink, hdevice⟩ := hlinked.exists_link (n := 0) depthSource
  let first : ProgramCache := (r.cache.store ⟨.draw c, source, p, 1⟩).2
  let both : ProgramCache := (first.store ⟨.shadowDepth d, depthSource, p', 1⟩).2
  have hfirst : r.cache.find? (.draw c) = none := by
    rw [hcache]
    rfl
  obtain ⟨hsecond, hthird, hfourth, hsize⟩ : first.find? (.shadowDepth d) = none ∧
      both.find? (.draw c) = some ⟨0, 0⟩ ∧
      (both.hit ⟨0, 0⟩ 2).find? (.shadowDepth d) = some ⟨1, 0⟩ ∧ both.size = 2 := by
    simp only [first, both, hcache]
    exact ProgramCache.find?_store_store _ ⟨.draw c, source, p, 1⟩
      ⟨.shadowDepth d, depthSource, p', 1⟩ nofun 2
  have hdrawEntry : both.entry? ⟨0, 0⟩ = some ⟨.draw c, source, p, 1⟩ := by
    simp only [first, both, hcache]
    rfl
  have hdepthEntry : ProgramCache.entry? (both.hit ⟨0, 0⟩ 2) ⟨1, 0⟩ =
      some ⟨.shadowDepth d, depthSource, p', 1⟩ := by
    simp only [first, both, hcache]
    rfl
  obtain ⟨failures, hcompile₂⟩ := compileDrawable_new_cast (hget ⟨2⟩ (.inr rfl)) (hdraw ⟨2⟩)
    (hdepth ⟨2⟩) hfirst hsource hdepthSource hlink hdepthLink hsecond
  have hdrawn : (r.cache.store ⟨.draw c, source, p, 1⟩).1 = ⟨0, 0⟩ := by
    rw [hcache]
    rfl
  let middle : Renderer Recorder := { r with
    cache := both
    device
    drawables := r.drawables.insert ⟨2⟩
      ⟨twin ⟨2⟩, ⟨some (r.cache.store ⟨.draw c, source, p, 1⟩).1, none⟩,
        ⟨some (first.store ⟨.shadowDepth d, depthSource, p', 1⟩).1, none⟩, false⟩ }
  have hmiddle : middle.drawables.get? ⟨1⟩ = some (.new (twin ⟨1⟩)) := by
    show (r.drawables.insert ⟨2⟩ _).get? ⟨1⟩ = _
    rw [Registry.get?_insert, if_neg (by decide)]
    exact hget ⟨1⟩ (.inl rfl)
  obtain ⟨failures', hcompile₁⟩ := compileDrawable_eq (r := middle) hmiddle rfl
    ((congrArg (fun key ↦ retarget _ _ .empty (some key)) (hdraw ⟨1⟩)).trans
      (retarget_found device hthird hdrawEntry
        (show (2 : UInt32).toNat = (1 : UInt32).toNat + 1 by rfl)))
    ((congrArg (retarget _ _ .empty) (hdepth ⟨1⟩)).trans
      (retarget_found device hfourth hdepthEntry
        (show (2 : UInt32).toNat = (1 : UInt32).toNat + 1 by rfl)))
  have hcompile : r.compileIn [⟨2⟩, ⟨1⟩] = _ :=
    compileIn_cons_eq hcompile₂ (compileIn_cons_eq hcompile₁ rfl)
  refine ⟨_, _, hcompile, hdevice.fault, hsize, ?_⟩
  rintro id (rfl | rfl)
  · show (((r.drawables.insert ⟨2⟩ _).insert ⟨1⟩ _).get? ⟨1⟩).bind _ = _
    rw [Registry.get?_insert, if_pos rfl]
    rfl
  · show (((r.drawables.insert ⟨2⟩ _).insert ⟨1⟩ _).get? ⟨2⟩).bind _ = _
    rw [Registry.get?_insert, if_neg (by decide), Registry.get?_insert, if_pos rfl]
    exact congrArg some hdrawn

/-- The twins share a draw program, beside which the cache has a depth program. -/
theorem exists_shadedTwins : ∃ s, ofFileIn shadedTwins .standard [⟨2⟩, ⟨1⟩] = .ok (.ok s) ∧
    s.renderer.cache.size = 2 ∧ s.groups = [⟨⟨0, 0⟩, [⟨1⟩, ⟨2⟩]⟩] := by
  obtain ⟨r, hsetUp, hcache, hsupplies, hdrawables, hcasts⟩ :
      ∃ r : Renderer Recorder, setUp shadedTwins .standard = (.ok (), r) ∧
        r.cache = .new RendererConfig.standard.shaderOptions ∧ r.device.Supplies 2 ∧
        r.drawables.toList = [(⟨2⟩, .new (twin ⟨2⟩)), (⟨1⟩, .new (twin ⟨1⟩))] ∧
        r.scene.hasShadowCasters = true :=
    ⟨_, rfl, rfl, ⟨by decide, rfl, rfl, rfl⟩, rfl, rfl⟩
  have hget : ∀ id, id = ⟨1⟩ ∨ id = ⟨2⟩ → r.drawables.get? id = some (.new (twin id)) := by
    rintro id (rfl | rfl) <;> rw [Registry.get?_eq_some_iff, hdrawables] <;> simp
  let c : Features := r.featuresOf (twin ⟨1⟩)
  have hdraw : ∀ id, r.drawKey (twin id) = .draw c := fun _ ↦ rfl
  have hdepth : ∀ id, r.depthKey? (twin id) = some (.shadowDepth (.ofFeatures c)) :=
    fun _ ↦ if_pos hcasts
  obtain ⟨failures, compiled, hcompile, hfault, hsize, hprograms⟩ :=
    exists_compileIn_shadedTwins hcache hsupplies hget hdraw hdepth
  have hload : ofFileIn shadedTwins .standard [⟨2⟩, ⟨1⟩] =
      .ok (.ok ⟨compiled, [⟨1⟩, ⟨2⟩], failures⟩) := by
    unfold ofFileIn
    rw [hsetUp]
    simp only [bind, Except.bind, Recorder.check, hsupplies.fault, hcompile, hfault]
    rfl
  refine ⟨_, hload, hsize, ?_⟩
  simp only [groups, List.foldl, hprograms ⟨1⟩ (.inl rfl), hprograms ⟨2⟩ (.inr rfl)]
  rfl

/-! ### The listing -/

/-- The listing of keys is a partition, in whatever order the drawables were visited. Every drawable
of the file is listed once, in a group or among those without a program. The groups come in the
order of their slots. Each is for a program that is in the cache, and has the drawables with this
program in the order in which they first appear in the file; as many users are printed as drawables
are listed, whatever else is in the cache. -/
theorem keys_partition {visits : List DrawableId}
    (hvisits : visits.Perm (file.drawables.map (·.id)).eraseDups)
    (hload : ofFileIn file config visits = .ok (.ok s)) (verbose : Bool) :
    (∀ id, (s.groups.flatMap (·.drawables) ++ s.orphans).count id =
        if id ∈ file.drawables.map (·.id) then 1 else 0) ∧
      s.groups.Pairwise (·.handle.index < ·.handle.index) ∧
      ∀ g ∈ s.groups, ∃ e, s.renderer.cache.entry? g.handle = some e ∧
        g.drawables = (file.drawables.map (·.id)).eraseDups.filter
          (fun id ↦ s.renderer.programOf? id = some g.handle) ∧
        (s.renderer.cache.useCount? g.handle).map UInt32.toNat = some g.drawables.length ∧
        s.keyLines verbose g =
          ["#" ++ toString g.handle.index.toNat ++ " " ++ e.key.digestText ++ " users=" ++
              toString g.drawables.length ++ " drawables: " ++ idList g.drawables,
            "    " ++ if verbose then e.key.fullText else e.key.summary] := by
  obtain ⟨⟨ops, hreached⟩, hkeys, hclean, horder⟩ := reached_ofFileIn hvisits hload
  have hr := hreached.consistent Recorder.keepsPrograms
  have hgroups : Grouped s.renderer.programOf? s.order s.groups :=
    grouped_groupsBy (fun _ _ _ _ ↦ hr.program_eq) s.order
  have hperm : (s.groups.flatMap (·.drawables) ++ s.orphans).Perm s.order :=
    perm_groupsBy s.renderer.programOf? s.order
  have hdistinct : s.order.Nodup := by
    rw [horder]
    exact nodup_eraseDups _
  have hsame : s.order.Perm s.renderer.drawables.keys := by
    rw [horder]
    exact hkeys.symm
  refine ⟨fun id ↦ ?_, hgroups.ascending, fun g hg ↦ ?_⟩
  · have hmem : id ∈ s.order ↔ id ∈ file.drawables.map (·.id) := by rw [horder, List.mem_eraseDups]
    rw [hperm.count_eq, hdistinct.count]
    exact if_congr hmem rfl rfl
  · obtain ⟨id, _, hprogram⟩ := hgroups.program g hg
    obtain ⟨e, he, huses⟩ := hr.exists_entry hprogram
    have hcount : e.useCount.toNat = g.drawables.length := by
      rw [huses, hr.holders_eq_length hclean hprogram, hgroups.drawables g hg]
      exact (hsame.filter _).length_eq.symm
    refine ⟨e, he, ?_, ?_, ?_⟩
    · rw [hgroups.drawables g hg, horder]
    · rw [ProgramCache.useCount?, he, ← hcount]
      rfl
    · rw [keyLines, he, ← hcount]

/-- Twins of which one is listed twice are two drawables of one program, which has two uses. -/
theorem keys_partition_shadedTwins :
    [⟨2⟩, ⟨1⟩].Perm (shadedTwins.drawables.map (·.id)).eraseDups ∧
      ∃ s, ofFileIn shadedTwins .standard [⟨2⟩, ⟨1⟩] = .ok (.ok s) ∧
        s.renderer.cache.size = 2 ∧ (s.renderer.cache.useCount? ⟨0, 0⟩).map UInt32.toNat = some 2 ∧
        (s.groups.flatMap (·.drawables) ++ s.orphans).count ⟨1⟩ = 1 := by
  have hvisits : [⟨2⟩, ⟨1⟩].Perm (shadedTwins.drawables.map (·.id)).eraseDups := by decide
  obtain ⟨s, hload, hsize, hgroups⟩ := exists_shadedTwins
  have hpartition := keys_partition hvisits hload false
  obtain ⟨hcount, _, hlisted⟩ := hpartition
  obtain ⟨_, _, _, huses, _⟩ := hlisted ⟨⟨0, 0⟩, [⟨1⟩, ⟨2⟩]⟩ (hgroups ▸ List.mem_cons_self)
  exact ⟨hvisits, s, hload, hsize, huses, (hcount ⟨1⟩).trans (if_pos List.mem_cons_self)⟩

end LoadedScene

end SceneRenderer
