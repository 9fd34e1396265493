import SceneRenderer.Proofs.Frame.PassCounts
import SceneRenderer.Proofs.Renderer.CacheSteps
import SceneRenderer.Proofs.Renderer.RefusedChanges

/-!
The shadow maps of a renderer that can be reached. Each is for a light that casts a shadow and has
the size that all maps have; no light has two of them. Where every light that casts a shadow has its
map, the maps are in the order of the lights: only a creation that failed leaves them otherwise, and
then some light is left without. Unless the device is spent, every light that casts a shadow has its
map: the maps follow the lights with every change of them, and no operation makes up later for what
is left undone there, or undoes it.

`ShadowRenderer.follows_sync` is what one change of the lights does, and `Renderer.Reached.follows`
the invariant; `Renderer.complete_perform` is the step lemma for completeness and
`Renderer.Reached.complete` its invariant.
-/

set_option autoImplicit false
set_option relaxedAutoImplicit false

namespace SceneRenderer

theorem RenderTarget.size_create {δ : Type} [Device δ] {device device' : δ} {width height : UInt32}
    {t : RenderTarget} (hcreate : RenderTarget.create device width height = (.ok t, device')) :
    t.width = width ∧ t.height = height := by
  unfold create at hcreate
  split at hcreate
  · exact absurd (Prod.mk.inj hcreate).1 nofun
  · split at hcreate
    · exact absurd (Prod.mk.inj hcreate).1 nofun
    · obtain ⟨ht, _⟩ := Prod.mk.inj hcreate
      rw [← Except.ok.inj ht]
      exact ⟨rfl, rfl⟩

namespace ShadowRenderer

/-- There are maps of one size only, at most one for each light. -/
structure Tidy (s : ShadowRenderer) : Prop where
  size : ∀ m ∈ s.maps, m.target.width = s.mapSize ∧ m.target.height = s.mapSize
  distinct : (s.maps.map (·.light)).Nodup

/-- The maps are those of the lights, as far as there are any. -/
structure Follows (s : ShadowRenderer) (lights : List Light) : Prop extends Tidy s where
  wanted : ∀ m ∈ s.maps, m.light ∈ castingLights lights
  sorted : (∀ light ∈ castingLights lights, ∃ m ∈ s.maps, m.light = light) →
    s.maps.Pairwise fun m m' ↦ m.light < m'.light

theorem follows_new (mapSize : UInt32) : (new mapSize).Follows [] where
  size := List.forall_mem_nil _
  distinct := .nil
  wanted := List.forall_mem_nil _
  sorted _ := .nil

theorem Tidy.add {s : ShadowRenderer} (hs : s.Tidy) {m : ShadowMap}
    (hsize : m.target.width = s.mapSize ∧ m.target.height = s.mapSize)
    (hnew : ∀ old ∈ s.maps, old.light ≠ m.light) : (s.add m).Tidy where
  size := List.forall_mem_append.mpr ⟨hs.size, List.forall_mem_singleton.mpr hsize⟩
  distinct := by
    show ((s.maps ++ [m]).map (·.light)).Nodup
    rw [List.map_append, List.nodup_append']
    refine ⟨hs.distinct, List.nodup_singleton _, List.disjoint_singleton.mpr fun hmem ↦ ?_⟩
    obtain ⟨old, hold, hlight⟩ := List.mem_map.mp hmem
    exact hnew old hold hlight

variable {δ : Type} [Device δ]

/-- Creating maps leaves one for each of the lights, or fails for one of them. -/
theorem tidy_createMaps {s : ShadowRenderer} (hs : s.Tidy) (device : δ) (wanted : List UInt32) :
    (s.createMaps device wanted).2.1.Tidy ∧
      match (s.createMaps device wanted).1 with
      | .ok () => ∀ light ∈ wanted, ∃ m ∈ (s.createMaps device wanted).2.1.maps, m.light = light
      | .error _ => ∃ light ∈ wanted, ∀ m ∈ (s.createMaps device wanted).2.1.maps,
          m.light ≠ light := by
  induction wanted generalizing s device with
  | nil => exact ⟨hs, List.forall_mem_nil _⟩
  | cons light rest ih =>
    -- What becomes of the other lights leaves a map that this one has.
    have hothers {s' : ShadowRenderer} {device' : δ} (hs' : s'.Tidy)
        (hthere : ∃ m ∈ s'.maps, m.light = light) :
        (s'.createMaps device' rest).2.1.Tidy ∧
          match (s'.createMaps device' rest).1 with
          | .ok () => ∀ l ∈ light :: rest, ∃ m ∈ (s'.createMaps device' rest).2.1.maps, m.light = l
          | .error _ => ∃ l ∈ light :: rest, ∀ m ∈ (s'.createMaps device' rest).2.1.maps,
              m.light ≠ l := by
      obtain ⟨htidy, hanswer⟩ := ih hs' device'
      obtain ⟨_, created, hmaps, _⟩ := Renderer.maps_createMaps s' device' rest
      refine ⟨htidy, ?_⟩
      split at hanswer
      · refine List.forall_mem_cons.mpr ⟨?_, hanswer⟩
        obtain ⟨m, hm, hlight⟩ := hthere
        exact ⟨m, hmaps ▸ List.mem_append_left _ hm, hlight⟩
      · obtain ⟨l, hl, hnone⟩ := hanswer
        exact ⟨l, List.mem_cons_of_mem _ hl, hnone⟩
    unfold createMaps
    split
    · rename_i hthere
      obtain ⟨m, hm, hlight⟩ := List.any_eq_true.mp hthere
      exact hothers hs ⟨m, hm, beq_iff_eq.mp hlight⟩
    · rename_i hmissing
      have hnew : ∀ old ∈ s.maps, old.light ≠ light := fun old hold heq ↦
        hmissing (List.any_eq_true.mpr ⟨old, hold, beq_iff_eq.mpr heq⟩)
      rcases hcreate : RenderTarget.create device s.mapSize s.mapSize with ⟨e | target, device'⟩
      · exact ⟨hs, light, List.mem_cons_self, hnew⟩
      · refine hothers (hs.add (RenderTarget.size_create hcreate) hnew) ?_
        exact ⟨⟨light, target⟩, List.mem_append_right _ List.mem_cons_self, rfl⟩

theorem Tidy.of_perm {s s' : ShadowRenderer} (hs : s.Tidy) (hsize : s'.mapSize = s.mapSize)
    (hmaps : s'.maps.Perm s.maps) : s'.Tidy where
  size m hm := hsize ▸ hs.size m (hmaps.mem_iff.mp hm)
  distinct := (hmaps.map _).nodup_iff.mpr hs.distinct

theorem Tidy.keptFor {s : ShadowRenderer} (hs : s.Tidy) (lights : List Light) :
    (s.keptFor lights).Tidy where
  size m hm := hs.size m (List.mem_of_mem_filter hm)
  distinct := (List.filter_sublist.map _).nodup hs.distinct

/-- Each light that casts a shadow has a map. -/
def Complete (s : ShadowRenderer) (lights : List Light) : Prop :=
  ∀ light ∈ castingLights lights, ∃ m ∈ s.maps, m.light = light

theorem tidy_createdFor {s : ShadowRenderer} (hs : s.Tidy) (device : δ) (lights : List Light) :
    (s.createdFor device lights).2.1.Tidy ∧
      ((s.createdFor device lights).2.1.Complete lights ↔
        (s.createdFor device lights).1 = .ok ()) := by
  obtain ⟨htidy, hanswer⟩ := tidy_createMaps (hs.keptFor lights)
    (Device.submitAll device ((s.droppedFor lights).flatMap (·.target.destroy)))
    (castingLights lights)
  refine ⟨htidy, ?_⟩
  rcases hcreated : s.createdFor device lights with ⟨e | _, s', device'⟩
  all_goals rw [show (s.keptFor lights).createMaps _ _ = _ from hcreated] at hanswer
  · obtain ⟨light, hlight, hnone⟩ := hanswer
    refine iff_of_false (fun hall ↦ ?_) nofun
    obtain ⟨m, hm, heq⟩ := hall light hlight
    exact hnone m hm heq
  · exact iff_of_true hanswer rfl

/-- A change of the lights leaves no light without a map, if it succeeds, and one at least if it
fails. -/
theorem complete_sync_iff {s : ShadowRenderer} (hs : s.Tidy) (device : δ) (lights : List Light) :
    (s.sync device lights).2.1.Complete lights ↔ (s.sync device lights).1 = .ok () := by
  obtain ⟨hsame, _, hperm, _⟩ := s.sync_cases device lights
  rw [hsame, ← (tidy_createdFor hs device lights).2]
  simp only [Complete, hperm.mem_iff]

/-- Whatever becomes of it, a change of the lights leaves maps of these lights only. -/
theorem follows_sync {s : ShadowRenderer} (hs : s.Tidy) (device : δ) (lights : List Light) :
    (s.sync device lights).2.1.Follows lights := by
  obtain ⟨hsame, hsize, hperm, _⟩ := s.sync_cases device lights
  have hsynced : (s.sync device lights).2.1.Tidy :=
    (tidy_createdFor hs device lights).1.of_perm hsize hperm
  refine ⟨hsynced, fun m hm ↦ ?_, fun hall ↦ ?_⟩
  · obtain ⟨_, created, hmaps, hcreated⟩ := Renderer.maps_createdFor s device lights
    rcases List.mem_append.mp (hmaps ▸ hperm.mem_iff.mp hm) with hkept | hnew
    · exact List.contains_iff_mem.mp (List.mem_filter.mp hkept).2
    · exact (hcreated m hnew).1
  -- only a change that succeeds has put the maps in order, and no other leaves each light with one
  · have hok := (complete_sync_iff hs device lights).mp hall
    have hcreated : s.createdFor device lights =
        (.ok (), (s.createdFor device lights).2.1, (s.createdFor device lights).2.2) :=
      Prod.ext (hsame.symm.trans hok) rfl
    have hdistinct := List.pairwise_map.mp hsynced.distinct
    rw [sync_of_ok hcreated] at hdistinct ⊢
    refine ((sortByKey_pairwise _ _).and hdistinct).imp ?_
    rintro m m' ⟨hle, hne⟩
    rcases List.cons_le_cons_iff.mp hle with hlt | ⟨heq, _⟩
    · exact hlt
    · exact absurd heq hne

end ShadowRenderer

namespace Renderer

variable {δ : Type} [Device δ] {r r' : Renderer δ}

/-! ### Other operations -/

theorem lights_removeDrawable (r : Renderer δ) (id : DrawableId) :
    (r.removeDrawable id).2.shadows = r.shadows ∧ (r.removeDrawable id).2.scene = r.scene := by
  unfold removeDrawable
  split
  · exact ⟨rfl, rfl⟩
  · dsimp only
    obtain ⟨device, geometries, hrelease, _⟩ := releaseGeometry_eq (δ := δ) _ _
    rw [hrelease]
    exact ⟨rfl, rfl⟩

theorem lights_retainGeometry (r : Renderer δ) (g : Geometry) :
    (r.retainGeometry g).2.shadows = r.shadows ∧ (r.retainGeometry g).2.scene = r.scene := by
  unfold retainGeometry
  split
  · exact ⟨rfl, rfl⟩
  · dsimp only
    split <;> exact ⟨rfl, rfl⟩

theorem lights_addDrawable (r : Renderer δ) (d : Drawable) :
    (r.addDrawable d).2.shadows = r.shadows ∧ (r.addDrawable d).2.scene = r.scene := by
  obtain ⟨hshadows, hscene⟩ := r.lights_removeDrawable d.id
  obtain ⟨hshadows', hscene'⟩ := (r.removeDrawable d.id).2.lights_retainGeometry d.geometry
  unfold addDrawable
  dsimp only
  split
  · rename_i hretain
    rw [hretain] at hshadows' hscene'
    exact ⟨hshadows'.trans hshadows, hscene'.trans hscene⟩
  · rename_i hretain
    rw [hretain] at hshadows' hscene'
    exact ⟨hshadows'.trans hshadows, hscene'.trans hscene⟩

omit [Device δ] in
theorem lights_update (r : Renderer δ) (id : DrawableId) (f : Drawable → Drawable) :
    (r.update id f).2.shadows = r.shadows ∧ (r.update id f).2.scene = r.scene := by
  unfold update
  split <;> exact ⟨rfl, rfl⟩

theorem lights_setGeometry (r : Renderer δ) (id : DrawableId) (g : Geometry) :
    (r.setGeometry id g).2.shadows = r.shadows ∧ (r.setGeometry id g).2.scene = r.scene := by
  obtain ⟨hshadows, hscene⟩ := r.lights_retainGeometry g
  unfold setGeometry
  split
  · exact ⟨rfl, rfl⟩
  · split
    · rename_i hretain
      rw [hretain] at hshadows hscene
      exact ⟨hshadows, hscene⟩
    · rename_i retained hretain
      rw [hretain] at hshadows hscene
      obtain ⟨device, geometries, hrelease, _⟩ := releaseGeometry_eq retained _
      rw [hrelease]
      obtain ⟨hshadows', hscene'⟩ := lights_update { retained with device, geometries } id
        fun d ↦ { d with geometry := g }
      exact ⟨hshadows'.trans hshadows, hscene'.trans hscene⟩

theorem lights_compileIn {visits : List DrawableId} {failures : List CompileFailure}
    (hcompile : r.compileIn visits = .ok (failures, r')) :
    r'.shadows = r.shadows ∧ r'.scene = r.scene := by
  refine Prod.mk.inj (compileIn_keeps (fun r ↦ (r.shadows, r.scene))
    (fun r r' id failures hnow ↦ ?_) hcompile)
  rcases compileDrawable_ok hnow with ⟨_, rfl⟩ | ⟨_, _, _, _, _, _, rfl⟩ <;> rfl

theorem lights_renderIn {visits order : List DrawableId} {report : FrameReport}
    (hrender : r.renderIn visits order = .ok (report, r')) :
    r'.shadows = r.shadows ∧ r'.scene = r.scene := by
  obtain ⟨failures, compiled, hcompile, rfl⟩ := renderIn_ok hrender
  obtain ⟨hshadows, hscene⟩ := lights_compileIn hcompile
  exact ⟨hshadows, hscene⟩

/-! ### Reachable renderers -/

/-- An operation changes the lights with their maps, or neither. -/
theorem follows_perform (hr : r.shadows.Follows r.scene.lights) {op : Operation} {outcome : Outcome}
    (hperform : r.perform op = .ok (outcome, r')) : r'.shadows.Follows r'.scene.lights := by
  have hpure {answer : Outcome × Renderer δ} (hanswer : answer = (outcome, r')) : r' = answer.2 :=
    (congrArg Prod.snd hanswer).symm
  have hkept (hlights : r'.shadows = r.shadows ∧ r'.scene = r.scene) :
      r'.shadows.Follows r'.scene.lights := by
    rw [hlights.1, hlights.2]
    exact hr
  cases op with
  | addDrawable d =>
    rw [hpure (Except.ok.inj hperform), outcomeOf_snd] at hkept ⊢
    exact hkept (r.lights_addDrawable d)
  | removeDrawable id =>
    rw [hpure (Except.ok.inj hperform)] at hkept ⊢
    exact hkept (r.lights_removeDrawable id)
  | setGeometry id g =>
    rw [hpure (Except.ok.inj hperform), outcomeOf_snd] at hkept ⊢
    exact hkept (r.lights_setGeometry id g)
  | setMaterial id material =>
    rw [hpure (Except.ok.inj hperform)] at hkept ⊢
    exact hkept (r.lights_update id fun d ↦ { d with material })
  | setModes id modes =>
    rw [hpure (Except.ok.inj hperform)] at hkept ⊢
    exact hkept (r.lights_update id fun d ↦ { d with modes })
  | setLights lights =>
    rw [hpure (Except.ok.inj hperform), outcomeOf_snd]
    exact ShadowRenderer.follows_sync hr.toTidy r.device lights
  | setClips _ | setEnvironment _ | setTransform _ _ | setCamera _ | setViewport _ _
  | setClearColor _ =>
    rw [hpure (Except.ok.inj hperform)]
    exact hr
  | compile =>
    obtain ⟨⟨failures, compiled⟩, hcompile, hanswer⟩ := exists_of_map_eq_ok hperform
    rw [hpure hanswer] at hkept ⊢
    exact hkept (lights_compileIn hcompile)
  | render =>
    obtain ⟨⟨report, rendered⟩, hrender, hanswer⟩ := exists_of_map_eq_ok hperform
    rw [hpure hanswer] at hkept ⊢
    exact hkept (lights_renderIn hrender)

/-- The maps of every renderer that can be reached are those of its lights. -/
theorem Reached.follows {device : δ} {config : RendererConfig} {ops : List Operation}
    (hreached : Reached device config ops r) : r.shadows.Follows r.scene.lights := by
  induction hreached with
  | new => exact ShadowRenderer.follows_new _
  | perform _ op hperform ih => exact follows_perform ih hperform
  | compile _ _ hcompile ih =>
    obtain ⟨hshadows, hscene⟩ := lights_compileIn hcompile
    rwa [hshadows, hscene]
  | render _ _ _ hrender ih =>
    obtain ⟨hshadows, hscene⟩ := lights_renderIn hrender
    rwa [hshadows, hscene]

end Renderer

open Shader

variable {δ : Type} [Device δ]

/-! ### Complete maps -/

namespace ShadowRenderer

/-- A change of the lights leaves no light without a map, unless the device is spent. -/
theorem complete_sync {spent : δ → Prop} (hdevice : CreatesTargets spent) {s : ShadowRenderer}
    (hs : s.Tidy) (device : δ) (lights : List Light) :
    spent (s.sync device lights).2.2 ∨ (s.sync device lights).2.1.Complete lights := by
  rw [complete_sync_iff hs device lights]
  rcases hcreated : s.createdFor device lights with ⟨e | _, s', device'⟩
  · rw [sync_of_error hcreated]
    exact .inl (hdevice.spent_of_createMaps hcreated)
  · rw [sync_of_ok hcreated]
    exact .inr rfl

end ShadowRenderer

namespace Renderer

variable {spent : δ → Prop} {r r' : Renderer δ}

/-- The device is spent, or no light lacks its map. -/
def MapsComplete (spent : δ → Prop) (r : Renderer δ) : Prop :=
  spent r.device ∨ r.shadows.Complete r.scene.lights

omit [Device δ] in
/-- Where the lights stay as they are with their maps, maps stay complete. -/
theorem MapsComplete.of_kept (hr : r.MapsComplete spent)
    (hlights : r'.shadows = r.shadows ∧ r'.scene.lights = r.scene.lights)
    (hstays : spent r.device → spent r'.device) : r'.MapsComplete spent := by
  unfold MapsComplete
  rw [hlights.1, hlights.2]
  exact hr.imp_left hstays

theorem MapsComplete.compileIn (hdevice : CreatesTargets spent) (hr : r.MapsComplete spent)
    {visits : List DrawableId} {failures : List CompileFailure}
    (hcompile : r.compileIn visits = .ok (failures, r')) : r'.MapsComplete spent := by
  obtain ⟨hshadows, hscene⟩ := lights_compileIn hcompile
  exact hr.of_kept ⟨hshadows, congrArg Scene.lights hscene⟩ (hdevice.steps.compileIn hcompile)

theorem MapsComplete.renderIn (hdevice : CreatesTargets spent) (hr : r.MapsComplete spent)
    {visits order : List DrawableId} {report : FrameReport}
    (hrender : r.renderIn visits order = .ok (report, r')) : r'.MapsComplete spent := by
  obtain ⟨hshadows, hscene⟩ := lights_renderIn hrender
  exact hr.of_kept ⟨hshadows, congrArg Scene.lights hscene⟩ (hdevice.steps.renderIn hrender)

theorem complete_perform (hdevice : CreatesTargets spent) (hr : r.MapsComplete spent)
    (htidy : r.shadows.Tidy) {op : Operation} {outcome : Outcome}
    (hperform : r.perform op = .ok (outcome, r')) : r'.MapsComplete spent := by
  have hpure {answer : Outcome × Renderer δ} (hanswer : answer = (outcome, r')) : r' = answer.2 :=
    (congrArg Prod.snd hanswer).symm
  have hkept (hlights : r'.shadows = r.shadows ∧ r'.scene = r.scene) :
      (spent r.device → spent r'.device) → r'.MapsComplete spent :=
    hr.of_kept ⟨hlights.1, congrArg Scene.lights hlights.2⟩
  cases op with
  | addDrawable d =>
    rw [hpure (Except.ok.inj hperform), outcomeOf_snd] at hkept ⊢
    exact hkept (r.lights_addDrawable d) (hdevice.steps.addDrawable d)
  | removeDrawable id =>
    rw [hpure (Except.ok.inj hperform)] at hkept ⊢
    exact hkept (r.lights_removeDrawable id) (hdevice.steps.removeDrawable id)
  | setGeometry id g =>
    rw [hpure (Except.ok.inj hperform), outcomeOf_snd] at hkept ⊢
    exact hkept (r.lights_setGeometry id g) (hdevice.steps.setGeometry id g)
  | setMaterial id material =>
    rw [hpure (Except.ok.inj hperform)] at hkept ⊢
    exact hkept (r.lights_update id fun d ↦ { d with material })
      (KeptBySteps.update (p := fun _ ↦ spent) id fun d ↦ { d with material })
  | setModes id modes =>
    rw [hpure (Except.ok.inj hperform)] at hkept ⊢
    exact hkept (r.lights_update id fun d ↦ { d with modes })
      (KeptBySteps.update (p := fun _ ↦ spent) id fun d ↦ { d with modes })
  | setLights lights =>
    rw [hpure (Except.ok.inj hperform), outcomeOf_snd]
    exact ShadowRenderer.complete_sync hdevice htidy r.device lights
  | setClips _ | setEnvironment _ | setTransform _ _ | setCamera _ | setViewport _ _
  | setClearColor _ =>
    rw [hpure (Except.ok.inj hperform)]
    exact hr
  | compile =>
    obtain ⟨⟨failures, compiled⟩, hcompile, hanswer⟩ := exists_of_map_eq_ok hperform
    rw [hpure hanswer]
    exact hr.compileIn hdevice hcompile
  | render =>
    obtain ⟨⟨report, rendered⟩, hrender, hanswer⟩ := exists_of_map_eq_ok hperform
    rw [hpure hanswer]
    exact hr.renderIn hdevice hrender

/-- In every renderer that can be reached, no light lacks its map unless the device is spent. -/
theorem Reached.complete (hdevice : CreatesTargets spent) {device : δ} {config : RendererConfig}
    {ops : List Operation} (hreached : Reached device config ops r) : r.MapsComplete spent := by
  induction hreached with
  | new => exact .inr (List.forall_mem_nil _)
  | perform hr op hperform ih => exact complete_perform hdevice ih hr.follows.toTidy hperform
  | compile _ _ hcompile ih => exact ih.compileIn hdevice hcompile
  | render _ _ _ hrender ih => exact ih.renderIn hdevice hrender

end Renderer

end SceneRenderer
