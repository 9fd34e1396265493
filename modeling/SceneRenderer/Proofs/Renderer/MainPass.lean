import SceneRenderer.Proofs.Device.NumberedObjects
import SceneRenderer.Proofs.Device.ReportedNames
import SceneRenderer.Proofs.Frame.StateDiffing
import SceneRenderer.Proofs.Renderer.Reachable
import SceneRenderer.Proofs.Shader.UniformCounts

/-!
The main pass of a frame. After compiling, every drawable that has a program has the one of its
features, so the draws of the pass are coherent, and skipping what is already bound is not seen.

The main statement is `Renderer.reached_observe_mainPass`.
-/

set_option autoImplicit false
set_option relaxedAutoImplicit false

namespace SceneRenderer

open Shader ProgramCache

/-- An entry is drawn with the program that its handle stands for. -/
theorem DrawEntry.resolve_ok {cache : ProgramCache} {entry : DrawEntry} {d : ReadyDraw}
    (hresolve : entry.resolve cache = .ok d) :
    ∃ e features buffers, entry.program = some d.handle ∧ cache.entry? d.handle = some e ∧
      e.key = .draw features ∧ entry.buffers = some buffers ∧
      d = ⟨d.handle, e.program, features, entry.material, entry.transform, entry.geometry,
        buffers⟩ := by
  unfold resolve at hresolve
  split at hresolve
  · exact absurd hresolve nofun
  · rename_i handle hhandle
    split at hresolve
    · exact absurd hresolve nofun
    · exact absurd hresolve nofun
    · rename_i e buffers he hbuffers
      split at hresolve
      · rename_i features hkey
        cases hresolve
        exact ⟨e, features, buffers, hhandle, he, hkey, hbuffers, rfl⟩
      · exact absurd hresolve nofun

/-- An entry that has all it needs is drawn. -/
theorem DrawEntry.resolve_eq_ok {cache : ProgramCache} {entry : DrawEntry} {h : ProgramHandle}
    {e : CacheEntry} {features : Features} {buffers : GeometryBuffers}
    (hhandle : entry.program = some h) (he : cache.entry? h = some e)
    (hkey : e.key = .draw features) (hbuffers : entry.buffers = some buffers) :
    entry.resolve cache = .ok ⟨h, e.program, features, entry.material, entry.transform,
      entry.geometry, buffers⟩ := by
  unfold resolve
  simp only [hhandle, he, hbuffers, hkey]

namespace Renderer

variable {δ : Type}

/-- The batch of a frame, sorted, with what each entry needs. -/
def batchIn (r : Renderer δ) (order : List DrawableId) : List (Except SkipReason ReadyDraw) :=
  let states := order.filterMap fun id ↦ (r.drawables.get? id).map (id, ·)
  (sortByKey DrawEntry.sortKey (states.map fun s ↦ r.entryOf s.1 s.2)).map
    (DrawEntry.resolve r.cache)

/-- What a frame tells the device about its drawables. -/
def mainPass (r : Renderer δ) (order : List DrawableId) : List Command :=
  ((DrawState.start r.draws.maxTextureUnits).drawAll r.draws.maxTextureUnits r.globals
    (r.batchIn order)).1

/-- The same frame with everything bound before every draw. -/
def referenceIn (r : Renderer δ) (order : List DrawableId) : List Command :=
  referencePass r.draws.maxTextureUnits r.globals (r.batchIn order)

/-- What a frame tells the device before its main pass: the shadow maps, and the surface. -/
def preludeIn (r : Renderer δ) (order : List DrawableId) : List Command :=
  let states := order.filterMap fun id ↦ (r.drawables.get? id).map (id, ·)
  (r.shadows.render r.cache r.scene.lights (states.map fun s ↦ r.casterOf s.1 s.2)).1 ++
    [.bindRenderTarget none, .setViewport r.viewport.1 r.viewport.2,
      .clear (some r.clearColor) true]

theorem frameIn_eq (r : Renderer δ) (order : List DrawableId) :
    (r.frameIn order).1 = r.preludeIn order ++ r.mainPass order := rfl

/-- Materials with one identity are one material. -/
def MaterialsById (r : Renderer δ) : Prop :=
  ∀ id s id' s', r.drawables.get? id = some s → r.drawables.get? id' = some s' →
    s.drawable.material.id = s'.drawable.material.id → s.drawable.material = s'.drawable.material

/-- Transforms with one identity are one transform. -/
def TransformsById (r : Renderer δ) : Prop :=
  ∀ id s id' s', r.drawables.get? id = some s → r.drawables.get? id' = some s' →
    s.drawable.transform.id = s'.drawable.transform.id →
      s.drawable.transform = s'.drawable.transform

/-- The drawables of a frame are those of the renderer that are collected. -/
theorem mem_states_iff {r : Renderer δ} {order : List DrawableId} {id : DrawableId}
    {s : DrawableState} :
    (id, s) ∈ (order.filterMap fun id ↦ (r.drawables.get? id).map (id, ·)) ↔
      id ∈ order ∧ r.drawables.get? id = some s := by
  rw [List.mem_filterMap]
  constructor
  · rintro ⟨id', hid, hget⟩
    obtain ⟨s', hs, heq⟩ := Option.map_eq_some_iff.mp hget
    cases heq
    exact ⟨hid, hs⟩
  · rintro ⟨hid, hs⟩
    exact ⟨id, hid, by rw [hs]; rfl⟩

/-- A draw of a frame is a drawable with the program, the key and the buffers that stand for it. -/
theorem mem_batchIn {r : Renderer δ} {order : List DrawableId} {d : ReadyDraw}
    (hd : .ok d ∈ r.batchIn order) :
    ∃ id s e, r.drawables.get? id = some s ∧ s.draw.handle = some d.handle ∧
      r.cache.entry? d.handle = some e ∧ d.program = e.program ∧ e.key = .draw d.features ∧
      d.material = s.drawable.material ∧ d.transform = s.drawable.transform ∧
      d.geometry = s.drawable.geometry.id ∧ r.buffers? d.geometry = some d.buffers := by
  obtain ⟨entry, hentry, hresolve⟩ := List.mem_map.mp hd
  rw [sortByKey, List.mem_mergeSort] at hentry
  obtain ⟨⟨id, s⟩, hs, rfl⟩ := List.mem_map.mp hentry
  obtain ⟨e, features, buffers, hhandle, he, hkey, hbuffers, hready⟩ :=
    DrawEntry.resolve_ok hresolve
  refine ⟨id, s, e, (mem_states_iff.mp hs).2, hhandle, he, ?_⟩
  rw [hready]
  exact ⟨rfl, hkey, rfl, rfl, rfl, hbuffers⟩

/-- A drawable that is drawn: it has a draw program and buffers. -/
def Ready (r : Renderer δ) (id : DrawableId) : Prop :=
  ∃ s h e features b, r.drawables.get? id = some s ∧ s.draw.handle = some h ∧
    r.cache.entry? h = some e ∧ e.key = .draw features ∧
    r.buffers? s.drawable.geometry.id = some b

/-- No drawable that is ready is left out of a pass. -/
theorem batchIn_of_ready {r : Renderer δ} {order : List DrawableId}
    (hready : ∀ id ∈ order, r.Ready id) :
    (r.batchIn order).length = order.length ∧ ∀ entry ∈ r.batchIn order, ∃ d, entry = .ok d := by
  have hsome : ∀ id ∈ order, ((r.drawables.get? id).map (id, ·)).isSome := by
    intro id hid
    obtain ⟨s, h, e, features, b, hs, _⟩ := hready id hid
    rw [hs]
    rfl
  unfold batchIn
  constructor
  · rw [List.length_map, sortByKey, List.length_mergeSort, List.length_map,
      List.length_filterMap_eq_countP, List.countP_eq_length]
    exact hsome
  · intro entry hentry
    obtain ⟨e, he, rfl⟩ := List.mem_map.mp hentry
    rw [sortByKey, List.mem_mergeSort] at he
    obtain ⟨⟨id, s⟩, hmem, rfl⟩ := List.mem_map.mp he
    obtain ⟨hid, hs⟩ := mem_states_iff.mp hmem
    obtain ⟨t, h, e, features, b, ht, hh, he, hkey, hb⟩ := hready id hid
    rw [hs] at ht
    cases ht
    exact ⟨_, DrawEntry.resolve_eq_ok hh he hkey hb⟩

variable [Device δ] {alive : δ → ProgramId → Prop} {nameOf : δ → UniformLocation → Option String}
  {r : Renderer δ}

/-- If no drawable is marked, the draws of a frame agree on programs and materials. -/
theorem Consistent.sharedCoherent (hnames : NamesUniforms nameOf) (hr : r.Consistent alive)
    (hfit : r.cache.UniformsFit)
    (hclean : ∀ id s, r.drawables.get? id = some s → s.dirty = false)
    (hmaterials : r.MaterialsById) (order : List DrawableId) :
    DrawState.SharedCoherent (r.batchIn order) where
  sound d hd := by
    obtain ⟨id, s, e, hs, hhandle, he, hprogram, hkey, hmaterial, _⟩ := mem_batchIn hd
    have hcurrent := (hr.current id s hs (hclean id s hs)).1.key_eq hhandle
    have hfeatures : r.featuresOf s.drawable = d.features := by
      rw [ProgramCache.key?, he] at hcurrent
      exact ProgramKey.draw.inj ((Option.some.inj hcurrent).symm.trans hkey)
    constructor
    · rw [hprogram]
      exact (hr.programs.built d.handle e he).distinct hnames (hfit d.handle e he)
    · rw [hmaterial, ← hfeatures]
      exact fits_classify _ _ _ _ _ _
  agrees d d' hd hd' := by
    obtain ⟨id, s, e, hs, _, he, hprogram, hkey, hmaterial, _⟩ := mem_batchIn hd
    obtain ⟨id', s', e', hs', _, he', hprogram', hkey', hmaterial', _⟩ := mem_batchIn hd'
    have hsame : d.handle = d'.handle → e = e' := by
      intro hhandle
      rw [hhandle, he'] at he
      exact (Option.some.inj he).symm
    refine ⟨?_, ?_, ?_⟩
    · intro hhandle
      rw [hprogram, hprogram', hsame hhandle]
    · intro hhandle
      rw [hsame hhandle, hkey'] at hkey
      exact (ProgramKey.draw.inj hkey).symm
    · rw [hmaterial, hmaterial']
      exact hmaterials id s id' s' hs hs'

/-- The draws of a frame are coherent if no drawable is marked. -/
theorem Consistent.coherent (hnames : NamesUniforms nameOf) (hr : r.Consistent alive)
    (hfit : r.cache.UniformsFit)
    (hclean : ∀ id s, r.drawables.get? id = some s → s.dirty = false)
    (hmaterials : r.MaterialsById) (htransforms : r.TransformsById) (order : List DrawableId) :
    DrawState.Coherent (r.batchIn order) where
  sound := (hr.sharedCoherent hnames hfit hclean hmaterials order).sound
  agrees d d' hd hd' := by
    obtain ⟨hprogram, hfeatures, hmaterial⟩ :=
      (hr.sharedCoherent hnames hfit hclean hmaterials order).agrees d d' hd hd'
    obtain ⟨id, s, _, hs, _, _, _, _, _, htransform, _, hbuffers⟩ := mem_batchIn hd
    obtain ⟨id', s', _, hs', _, _, _, _, _, htransform', _, hbuffers'⟩ := mem_batchIn hd'
    refine ⟨hprogram, hfeatures, hmaterial, ?_, ?_⟩
    · rw [htransform, htransform']
      exact htransforms id s id' s' hs hs'
    · intro hgeometry
      rw [hgeometry, hbuffers'] at hbuffers
      exact (Option.some.inj hbuffers).symm

theorem MaterialsById.compileIn (hmaterials : r.MaterialsById) {visits : List DrawableId}
    {failures : List CompileFailure} {compiled : Renderer δ}
    (hcompile : r.compileIn visits = .ok (failures, compiled)) : compiled.MaterialsById := by
  intro id s id' s' hs hs'
  obtain ⟨t, ht, hdrawable, _⟩ := drawables_compileIn hcompile hs
  obtain ⟨t', ht', hdrawable', _⟩ := drawables_compileIn hcompile hs'
  rw [hdrawable, hdrawable']
  exact hmaterials id t id' t' ht ht'

theorem TransformsById.compileIn (htransforms : r.TransformsById) {visits : List DrawableId}
    {failures : List CompileFailure} {compiled : Renderer δ}
    (hcompile : r.compileIn visits = .ok (failures, compiled)) : compiled.TransformsById := by
  intro id s id' s' hs hs'
  obtain ⟨t, ht, hdrawable, _⟩ := drawables_compileIn hcompile hs
  obtain ⟨t', ht', hdrawable', _⟩ := drawables_compileIn hcompile hs'
  rw [hdrawable, hdrawable']
  exact htransforms id t id' t' ht ht'

/-- As many uniforms as its lights and clip planes give every program fit. -/
theorem Consistent.uniformsFit (hr : r.Consistent alive)
    (hclean : ∀ id s, r.drawables.get? id = some s → s.dirty = false)
    (hscene : 104 + 15 * r.scene.lights.length + 3 * r.scene.clips.length ≤ UInt32.size) :
    r.cache.UniformsFit := by
  intro h e he
  refine (length_uniforms_le _ (hr.programs.built h e he).1).trans ?_
  have hpos := hr.programs.sound.useCount _ e (entry?_eq_some_iff.mp he).2
  rw [hr.programs.useCount_eq he] at hpos
  obtain ⟨id, s, hs, hheld⟩ := (holders_pos_iff h).mp hpos
  obtain ⟨hdraw, hdepth⟩ := hr.current id s hs (hclean id s hs)
  have hbound := uniformBound_classify_le s.drawable.geometry s.drawable.material r.scene.lights
    r.scene.clips s.drawable.modes r.sceneFlags
  have hkey : some e.key = some (r.drawKey s.drawable) ∨ some e.key = r.depthKey? s.drawable := by
    have hentry : r.cache.key? h = some e.key := by rw [key?, he, Option.map_some]
    rw [← hentry]
    exact hheld.imp hdraw.key_eq hdepth.key_eq
  rcases hkey with hkey | hkey
  · rw [Option.some_inj.mp hkey]
    exact hbound.trans hscene
  · obtain ⟨d, hd⟩ : ∃ d, e.key = .shadowDepth d := by
      unfold depthKey? at hkey
      split at hkey
      · exact ⟨_, Option.some_inj.mp hkey⟩
      · cases hkey
    rw [hd]
    exact Nat.le_of_ble_eq_true rfl

/-- What stood for the scene before compiling stands for it afterwards. -/
theorem scene_compileIn {visits : List DrawableId} {failures : List CompileFailure}
    {compiled : Renderer δ} (hcompile : r.compileIn visits = .ok (failures, compiled)) :
    compiled.scene = r.scene :=
  compileIn_keeps (·.scene) (fun r r' id failures hnow ↦ by
    rcases compileDrawable_ok hnow with ⟨_, rfl⟩ | ⟨_, _, _, _, _, _, rfl⟩ <;> rfl) hcompile

/-- Visiting every drawable leaves none marked. -/
theorem clean_compileIn {visits : List DrawableId} {failures : List CompileFailure}
    {compiled : Renderer δ} (hvisits : visits.Perm r.drawables.keys)
    (hcompile : r.compileIn visits = .ok (failures, compiled)) {id : DrawableId}
    {s : DrawableState} (hs : compiled.drawables.get? id = some s) : s.dirty = false := by
  obtain ⟨before, hbefore, _, hclean⟩ := drawables_compileIn hcompile hs
  exact hclean (.inl (hvisits.mem_iff.mpr (Registry.mem_keys_of_get? hbefore)))

/-- State diffing is invisible: in the frame that follows compiling, whatever the order in which
drawables are collected, each draw of the main pass happens in the state that binding everything
before every draw would have made. This rests on places that tell the uniforms of every program
apart. -/
theorem reached_observe_mainPass (hdevice : KeepsPrograms alive) (hnames : NamesUniforms nameOf)
    {device : δ} {config : RendererConfig} {ops : List Operation}
    (hreached : Reached device config ops r) (hmaterials : r.MaterialsById)
    (htransforms : r.TransformsById) {visits : List DrawableId}
    (hvisits : visits.Perm r.drawables.keys) {failures : List CompileFailure}
    {compiled : Renderer δ} (hcompile : r.compileIn visits = .ok (failures, compiled))
    (hfit : compiled.cache.UniformsFit) (order : List DrawableId) (s : GpuState) :
    (compiled.frameIn order).1 = compiled.preludeIn order ++ compiled.mainPass order ∧
      s.observe (compiled.mainPass order) = s.observe (compiled.referenceIn order) := by
  have hcompiled := (hreached.consistent hdevice).compileIn hdevice hcompile
  have hcoherent := hcompiled.coherent hnames hfit
    (fun _ _ hs ↦ clean_compileIn hvisits hcompile hs) (hmaterials.compileIn hcompile)
    (htransforms.compileIn hcompile) order
  exact ⟨compiled.frameIn_eq order, DrawState.observe_drawAll hcoherent fun _ _ ↦ .inl rfl⟩

/-! ### Two drawables -/

/-- Two drawables with one geometry and one program between them are all there is, in a scene
without shadows. The geometry was uploaded, and nothing was compiled yet. -/
structure Paired (r : Renderer δ) (d d' : Drawable) (b : GeometryBuffers) : Prop where
  cache : r.cache = .new RendererConfig.standard.shaderOptions
  config : r.config = .standard
  scene : 104 + 15 * r.scene.lights.length + 3 * r.scene.clips.length ≤ UInt32.size
  maps : r.shadows.maps = []
  links : Links 1 r.device
  drawables : r.drawables.toList = [(d.id, .new d), (d'.id, .new d')]
  key : r.drawKey d' = r.drawKey d
  depth : ∀ d, r.depthKey? d = none
  geometry : d'.geometry.id = d.geometry.id
  buffers : r.buffers? d.geometry.id = some b

namespace Paired

variable {d d' : Drawable} {b : GeometryBuffers}

theorem visits (hr : r.Paired d d' b) : [d.id, d'.id].Perm r.drawables.keys := by
  rw [Registry.keys, hr.drawables]
  exact .refl _

theorem id_ne (hr : r.Paired d d' b) : d'.id ≠ d.id := by
  have hnodup : [d.id, d'.id].Nodup := hr.visits.nodup_iff.mpr r.drawables.nodup_keys
  exact fun heq ↦ (List.nodup_cons.mp hnodup).1 (heq ▸ List.mem_singleton_self _)

theorem get? (hr : r.Paired d d' b) : r.drawables.get? d.id = some (.new d) := by
  rw [Registry.get?_eq_some_iff, hr.drawables]
  exact List.mem_cons_self

theorem get?' (hr : r.Paired d d' b) : r.drawables.get? d'.id = some (.new d') := by
  rw [Registry.get?_eq_some_iff, hr.drawables]
  exact List.mem_cons_of_mem _ List.mem_cons_self

/-- What both drawables have is what all drawables have. -/
theorem eq_of_get? (hr : r.Paired d d' b) {β : Type} {f : Drawable → β} (hsame : f d' = f d)
    {id : DrawableId} {s : DrawableState} (hs : r.drawables.get? id = some s) :
    f s.drawable = f d := by
  rw [Registry.get?_eq_some_iff, hr.drawables] at hs
  rcases List.mem_cons.mp hs with heq | hs
  · cases heq
    rfl
  · cases List.mem_singleton.mp hs
    exact hsame

theorem materialsById (hr : r.Paired d d' b) (hmaterial : d'.material = d.material) :
    r.MaterialsById :=
  fun _ _ _ _ hs hs' _ ↦ (hr.eq_of_get? hmaterial hs).trans (hr.eq_of_get? hmaterial hs').symm

theorem transformsById (hr : r.Paired d d' b) (htransform : d'.transform = d.transform) :
    r.TransformsById :=
  fun _ _ _ _ hs hs' _ ↦ (hr.eq_of_get? htransform hs).trans (hr.eq_of_get? htransform hs').symm

/-- The first drawable has the program linked, and the second shares it. -/
theorem exists_compiled (hr : r.Paired d d' b) :
    ∃ failures cache device drawables h e,
      r.compileIn [d.id, d'.id] = .ok (failures, { r with cache, device, drawables }) ∧
        drawables.get? d.id = some ⟨d, ⟨some h, none⟩, .empty, false⟩ ∧
        drawables.get? d'.id = some ⟨d', ⟨some h, none⟩, .empty, false⟩ ∧
        ProgramCache.entry? cache h = some e ∧ e.key = r.drawKey d := by
  obtain ⟨source, hsource⟩ := synthesize_ok (show r.cache.options.kernelRadius ≤ _ by
    rw [hr.cache]; decide) (r.drawKey d)
  obtain ⟨p, device, hlink, _⟩ := hr.links source
  have hfind : r.cache.find? (r.drawKey d) = none := by
    rw [hr.cache]
    rfl
  obtain ⟨failures₁, hfirst⟩ := compileDrawable_new hr.get? hfind (hr.depth d) hsource hlink
  let e : CacheEntry := ⟨r.drawKey d, source, p, 1⟩
  let s : DrawableState := ⟨d, ⟨some (r.cache.store e).1, none⟩, .empty, false⟩
  have hhandle : (r.cache.store e).1 = ⟨0, 0⟩ := by
    rw [hr.cache]
    rfl
  have hfind' : (r.cache.store e).2.find? (r.drawKey d') = some ⟨0, 0⟩ := by
    rw [hr.cache, hr.key]
    show ((Registry.empty.insert (r.drawKey d) 0).get? _).bind _ = _
    rw [Registry.get?_insert, if_pos rfl]
    rfl
  have hentry : ProgramCache.entry? (r.cache.store e).2 ⟨0, 0⟩ = some e := by
    rw [hr.cache]
    rfl
  have hget' : (r.drawables.insert d.id s).get? d'.id = some (.new d') := by
    rw [Registry.get?_insert, if_neg hr.id_ne]
    exact hr.get?'
  obtain ⟨failures₂, hsecond⟩ := compileDrawable_found (r := { r with
      cache := (r.cache.store e).2
      device
      drawables := r.drawables.insert d.id s })
    hget' hfind' hentry (show (2 : UInt32).toNat = (1 : UInt32).toNat + 1 by rfl) (hr.depth d')
  have hshared : ∃ e', ProgramCache.entry? ((r.cache.store e).2.hit ⟨0, 0⟩ 2) ⟨0, 0⟩ = some e' ∧
      e'.key = r.drawKey d := by
    simp only [hr.cache]
    exact ⟨_, rfl, rfl⟩
  obtain ⟨e', he', hkey'⟩ := hshared
  refine ⟨_, _, _, _, ⟨0, 0⟩, e',
    compileIn_cons_eq hfirst (compileIn_cons_eq hsecond rfl), ?_, ?_, he', hkey'⟩
  · rw [Registry.get?_insert, if_neg hr.id_ne.symm, Registry.get?_insert, if_pos rfl]
    simp only [s, hhandle]
  · rw [Registry.get?_insert, if_pos rfl]

theorem uniformsFit (hr : r.Paired d d' b) {compiled : Renderer δ}
    (hcompiled : compiled.Consistent alive) {failures : List CompileFailure}
    (hcompile : r.compileIn [d.id, d'.id] = .ok (failures, compiled)) :
    compiled.cache.UniformsFit := by
  refine hcompiled.uniformsFit (fun _ _ hs ↦ clean_compileIn hr.visits hcompile hs) ?_
  rw [scene_compileIn hcompile]
  exact hr.scene

end Paired

/-- A triangle that differs from others in nothing but its identity. -/
def twin (id : DrawableId) : Drawable :=
  { (default : Drawable) with id, geometry := .ofTriangles ⟨7⟩ [0, 0, 0, 1, 0, 0, 0, 1, 0] }

/-- Both twins are ready to be drawn after they were compiled. -/
theorem exists_twins :
    ∃ r compiled : Renderer Recorder, ∃ failures b,
      Reached .standard .standard [.addDrawable (twin ⟨2⟩), .addDrawable (twin ⟨1⟩)] r ∧
        r.scene = .empty ∧ r.Paired (twin ⟨1⟩) (twin ⟨2⟩) b ∧
        r.compileIn [⟨1⟩, ⟨2⟩] = .ok (failures, compiled) ∧ compiled.cache.UniformsFit ∧
        compiled.Ready ⟨1⟩ ∧ compiled.Ready ⟨2⟩ := by
  obtain ⟨r, b, hreached, hscene, hpaired⟩ : ∃ (r : Renderer Recorder) (b : GeometryBuffers),
      Reached .standard .standard [.addDrawable (twin ⟨2⟩), .addDrawable (twin ⟨1⟩)] r ∧
        r.scene = .empty ∧ r.Paired (twin ⟨1⟩) (twin ⟨2⟩) b :=
    ⟨_, _, .perform (.perform .new _ rfl) _ rfl, rfl, ⟨rfl, rfl, by decide, rfl,
      Recorder.Supplies.links ⟨by decide, rfl, rfl, rfl⟩, rfl, rfl, fun _ ↦ rfl, rfl, rfl⟩⟩
  obtain ⟨failures, cache, device, drawables, h, e, hcompile, hs, hs', hentry, hkey⟩ :=
    hpaired.exists_compiled
  have hfit := hpaired.uniformsFit ((hreached.consistent Recorder.keepsPrograms).compileIn
    Recorder.keepsPrograms hcompile) hcompile
  exact ⟨r, _, failures, b, hreached, hscene, hpaired, hcompile, hfit,
    ⟨_, h, e, _, b, hs, rfl, hentry, hkey, hpaired.buffers⟩,
    ⟨_, h, e, _, b, hs', rfl, hentry, hkey, hpaired.buffers⟩⟩

theorem reached_observe_mainPass_twins :
    KeepsPrograms Recorder.Alive ∧
      NamesUniforms (fun (r : Recorder) location ↦ some (r.uniformName location)) ∧
      ∃ r compiled : Renderer Recorder, ∃ failures,
        Reached .standard .standard [.addDrawable (twin ⟨2⟩), .addDrawable (twin ⟨1⟩)] r ∧
          r.MaterialsById ∧ r.TransformsById ∧ [⟨1⟩, ⟨2⟩].Perm r.drawables.keys ∧
          r.compileIn [⟨1⟩, ⟨2⟩] = .ok (failures, compiled) ∧ compiled.cache.UniformsFit ∧
          compiled.Ready ⟨1⟩ ∧ compiled.Ready ⟨2⟩ ∧
          (compiled.frameIn [⟨2⟩, ⟨1⟩]).1 =
            compiled.preludeIn [⟨2⟩, ⟨1⟩] ++ compiled.mainPass [⟨2⟩, ⟨1⟩] ∧
          GpuState.observe (fun _ ↦ none) (compiled.mainPass [⟨2⟩, ⟨1⟩]) =
            GpuState.observe (fun _ ↦ none) (compiled.referenceIn [⟨2⟩, ⟨1⟩]) := by
  obtain ⟨r, compiled, failures, b, hreached, _, hpaired, hcompile, hfit, hfirst, hsecond⟩ :=
    exists_twins
  have hmaterials := hpaired.materialsById rfl
  have htransforms := hpaired.transformsById rfl
  have hvisits := hpaired.visits
  obtain ⟨hframe, hobserve⟩ := reached_observe_mainPass Recorder.keepsPrograms
    Recorder.namesUniforms hreached hmaterials htransforms hvisits hcompile hfit [⟨2⟩, ⟨1⟩]
    fun _ ↦ none
  exact ⟨Recorder.keepsPrograms, Recorder.namesUniforms, r, compiled, failures, hreached,
    hmaterials, htransforms, hvisits, hcompile, hfit, hfirst, hsecond, hframe, hobserve⟩

end Renderer

end SceneRenderer
