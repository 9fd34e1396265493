import SceneRenderer.Proofs.Frame.AttributeBuffers
import SceneRenderer.Proofs.Frame.Canvas
import SceneRenderer.Proofs.Program.BuiltPrograms
import SceneRenderer.Proofs.Renderer.FreshUniforms
import SceneRenderer.Proofs.Renderer.ShadowMaps
import SceneRenderer.Proofs.Shader.DeclaredTypes

/-!
The shadow pass draws every drawable once into the map of every light, with the matrices of this
light and with what belongs to the drawable; the main pass draws to the surface.

A draw skips what the draw before it had under the same identity. So this is true where equal
identities of transforms mean equal matrices and drawables have their own buffers. The main
statement is `Renderer.reached_targeted`; what a frame may look like otherwise is shown by
`Renderer.exists_miscast`.
-/

set_option autoImplicit false
set_option relaxedAutoImplicit false

namespace SceneRenderer

open Shader

/-! ### Bound buffers -/

namespace GeometryBuffers

/-- What stands in the slot of an attribute. -/
def attributeBinding (b : GeometryBuffers) (bindings : ProgramBindings) (a : VertexAttribute) :
    Binding :=
  match bindings.attribute? a, b.attribute? a with
  | some _, some array => .attribute array.buffer array.layout
  | _, _ => .disabled

/-- The attributes that a program reads come from the buffers, and so do the indices. -/
structure BoundFor (b : GeometryBuffers) (bindings : ProgramBindings) (s : GpuState) : Prop where
  attributes : ∀ a : VertexAttribute,
    s (.attributeSlot a.slot) = some (b.attributeBinding bindings a)
  indices : ∀ i, b.index = some i → s .indexBuffer = some (.indices i.buffer)

variable {b : GeometryBuffers} {bindings : ProgramBindings}

theorem binding_bindAttribute {a : VertexAttribute}
    (hlayout : ∀ array, b.attribute? a = some array → array.layout.slot = a.slot) (slot : UInt32) :
    (b.bindAttribute bindings a).binding (.attributeSlot slot) =
      if slot = a.slot then some (b.attributeBinding bindings a) else none := by
  unfold bindAttribute attributeBinding
  rcases hread : bindings.attribute? a with _ | _
  · rfl
  · rcases harray : b.attribute? a with _ | array
    · rfl
    · simp only [Command.binding, hlayout array harray]

/-- Buffers of an upload are read from the slots of their attributes. -/
theorem slot_attribute? {δ : Type} [Device δ] {device device' : δ} {g : Geometry}
    (hupload : upload device g = (.ok b, device')) {a : VertexAttribute} {array : AttributeBuffer}
    (harray : b.attribute? a = some array) : array.layout.slot = a.slot := by
  have hlayout := layout_attribute? hupload a
  rw [harray] at hlayout
  obtain ⟨stored, _, heq⟩ := Option.map_eq_some_iff.mp hlayout.symm
  rw [show array.layout = _ from heq.symm]
  rfl

theorem positionsDecode_upload {δ : Type} [Device δ] {device device' : δ} {g : Geometry}
    (hupload : upload device g = (.ok b, device')) :
    b.positionsDecode = g.quantization.map (·.positionsDecode) := by
  unfold upload at hupload
  split at hupload
  · exact absurd (Prod.mk.inj hupload).1 nofun
  · split at hupload
    · exact absurd (Prod.mk.inj hupload).1 nofun
    · split at hupload
      · exact absurd (Prod.mk.inj hupload).1 nofun
      · rw [← Except.ok.inj (Prod.mk.inj hupload).1]

/-- Uploads of uniforms bind no buffers. -/
theorem effect_decodeUploads (b : GeometryBuffers) (bindings : ProgramBindings) {r : Register}
    (hr : r.level? = some .geometry) : effect (bindings.uploadAll b.decodeUploads) r = none := by
  rw [← Option.not_isSome_iff_eq_none, ProgramBindings.isSome_effect_uploadAll, List.any_map]
  simp only [Bool.not_eq_true, List.any_eq_false]
  intro upload hupload
  obtain ⟨n, value, rfl⟩ : ∃ n value, upload = .uniform n value := by
    rcases List.mem_append.mp hupload with hmem | hmem <;>
      obtain ⟨m, _, rfl⟩ := List.mem_map.mp hmem <;> exact ⟨_, _, rfl⟩
  cases r with
  | uniform location => exact absurd hr nofun
  | _ => rfl

/-- Where binding a geometry changes nothing, its buffers are bound. -/
theorem boundFor_of_after {δ : Type} [Device δ] {device device' : δ} {g : Geometry}
    (hupload : upload device g = (.ok b, device')) {s : GpuState}
    (hplace : s.after (SceneRenderer.bindGeometry bindings b) = s) : b.BoundFor bindings s := by
  have heffect {r : Register} (hr : r.level? = some .geometry) :
      effect (SceneRenderer.bindGeometry bindings b) r = effect (b.bind bindings) r := by
    show effect (b.bind bindings ++ bindings.uploadAll b.decodeUploads) r = _
    rw [effect_append, effect_decodeUploads b bindings hr, Option.none_or]
  constructor
  · intro a
    refine GpuState.eq_of_after_eq_self hplace ?_
    have hindex : effect (b.index.toList.map fun i ↦ Command.bindIndexBuffer i.buffer)
        (.attributeSlot a.slot) = none := by
      cases b.index <;> rfl
    have hbinding (a' : VertexAttribute) : (b.bindAttribute bindings a').binding
        (.attributeSlot a.slot) =
          if a.slot = a'.slot then some (b.attributeBinding bindings a') else none :=
      binding_bindAttribute (fun array harray ↦ slot_attribute? hupload harray) a.slot
    rw [heffect rfl, bind, effect_append, hindex, Option.none_or]
    simp only [VertexAttribute.all, List.map_cons, List.map_nil, effect, hbinding]
    cases a <;> rfl
  · intro i hi
    refine GpuState.eq_of_after_eq_self hplace ?_
    rw [heffect rfl, bind, effect_append, hi]
    rfl

end GeometryBuffers

/-! ### Draws into a map -/

namespace Renderer

variable {δ : Type}

/-- A drawable that casts: it has a depth program and buffers. -/
def Casts (r : Renderer δ) (id : DrawableId) : Prop :=
  ∃ s h e b, r.drawables.get? id = some s ∧ s.depth.handle = some h ∧ r.cache.entry? h = some e ∧
    r.buffers? s.drawable.geometry.id = some b

/-- The drawables that are drawn into each map, in this order. -/
def castIds (r : Renderer δ) (order : List DrawableId) : List DrawableId :=
  (r.castIn order).map (·.1.drawable)

/-- The casters of a frame, with the map that they are drawn into and its light. -/
def mapCasts (r : Renderer δ) (order : List DrawableId) :
    List (ShadowMap × Light × ShadowCaster × ReadyCaster) :=
  r.shadows.maps.flatMap fun m ↦ (r.scene.lights[m.light.toNat]?).toList.flatMap fun light ↦
    (r.castIn order).map fun p ↦ (m, light, p)

/-- What a draw of a drawable into a shadow map shows: the cleared map of the light, and the program
and the values that belong to the drawable and the light. A uniform is said to have a value where
the program has a place for it. -/
structure CastOnto (r : Renderer δ) (m : ShadowMap) (id : DrawableId) (light : Light)
    (s : DrawableState) (e : CacheEntry) (b : GeometryBuffers) (shown : Shown) : Prop where
  lit : r.scene.lights[m.light.toNat]? = some light
  drawable : r.drawables.get? id = some s
  buffers : r.buffers? s.drawable.geometry.id = some b
  target : shown.canvas.target = some m.target.id
  viewport : shown.canvas.viewport = (r.shadows.mapSize, r.shadows.mapSize)
  cleared : shown.canvas.cleared = true
  draws : shown.draw = b.draw
  program : (∃ h, s.depth.handle = some h ∧ r.cache.entry? h = some e) ∧
    shown.state .program = some (.program e.program.id)
  view : ∀ location, e.program.bindings.uniform? Name.viewMatrix.text = some location →
    shown.state (.uniform location) = some (.value (.mat4 light.shadowView))
  projection : ∀ location, e.program.bindings.uniform? Name.projMatrix.text = some location →
    shown.state (.uniform location) = some (.value (.mat4 light.shadowProjection))
  model : ∀ location, e.program.bindings.uniform? Name.modelMatrix.text = some location →
    shown.state (.uniform location) = some (.value (.mat4 s.drawable.transform.matrix))
  decode : ∀ location,
    e.program.bindings.uniform? Name.positionsDecodeMatrix.text = some location →
      ∃ q, s.drawable.geometry.quantization = some q ∧
        shown.state (.uniform location) = some (.value (.mat4 q.positionsDecode))
  pointSize : ∀ location, e.program.bindings.uniform? Name.pointSize.text = some location →
    shown.state (.uniform location) = some (.value (.float s.drawable.material.pointSize))
  bound : b.BoundFor e.program.bindings shown.state

end Renderer

namespace ReadyCaster

variable {light : Light} {c : ReadyCaster} {state : GpuState}

/-- A draw whose parts are in place finds its values. -/
theorem Settled.values (hs : c.Settled light state) (hc : c.program.bindings.Distinct) :
    (∀ location, c.program.bindings.uniform? Name.viewMatrix.text = some location →
      state (.uniform location) = some (.value (.mat4 light.shadowView))) ∧
    (∀ location, c.program.bindings.uniform? Name.projMatrix.text = some location →
      state (.uniform location) = some (.value (.mat4 light.shadowProjection))) ∧
    (∀ location, c.program.bindings.uniform? Name.modelMatrix.text = some location →
      state (.uniform location) = some (.value (.mat4 c.transform.matrix))) ∧
    (∀ m location, c.buffers.positionsDecode = some m →
      c.program.bindings.uniform? Name.positionsDecodeMatrix.text = some location →
        state (.uniform location) = some (.value (.mat4 m))) ∧
    ∀ location, c.program.bindings.uniform? Name.pointSize.text = some location →
      state (.uniform location) = some (.value (.float c.pointSize)) := by
  obtain ⟨_, hholds⟩ := hs.holds hc
  have hvalue {n : Name} {given : UniformValue} (hgiven : .uniform n given ∈ c.uploads light)
      (hone : ∀ value, .uniform n value ∈ c.uploads light → value = given)
      {location : UniformLocation}
      (hlocation : c.program.bindings.uniform? n.text = some location) :
      state (.uniform location) = some (.value given) := by
    obtain ⟨value, hmem, hstate⟩ := hholds n given location hgiven hlocation
    rwa [← hone value hmem]
  have hmem {n : Name} {value : UniformValue} : .uniform n value ∈ c.uploads light ↔
      n = .viewMatrix ∧ value = .mat4 light.shadowView ∨
        n = .projMatrix ∧ value = .mat4 light.shadowProjection ∨
        n = .modelMatrix ∧ value = .mat4 c.transform.matrix ∨
        (∃ m, c.buffers.positionsDecode = some m ∧ n = .positionsDecodeMatrix ∧ value = .mat4 m) ∨
        (∃ m, c.buffers.uvDecode = some m ∧ n = .uvDecodeMatrix ∧ value = .mat3 m) ∨
        n = .pointSize ∧ value = .float c.pointSize := by
    simp [uploads, Light.shadowUploads, Transform.uploads, GeometryBuffers.decodeUploads, eq_comm]
  exact ⟨fun location ↦ hvalue (by simp [hmem]) (by simp [hmem]),
    fun location ↦ hvalue (by simp [hmem]) (by simp [hmem]),
    fun location ↦ hvalue (by simp [hmem]) (by simp [hmem]),
    fun m location hm ↦ hvalue (by simp [hmem, hm]) (by simp [hmem, hm]),
    fun location ↦ hvalue (by simp [hmem]) (by simp [hmem])⟩

end ReadyCaster

namespace Renderer

variable {δ : Type} {r : Renderer δ} {order : List DrawableId}

/-! ### Which draws there are -/

/-- Leaving items out keeps the order of the labels. -/
theorem map_filterMap_sublist {α β γ : Type} {f : α → Option β} {label : α → γ} {label' : β → γ}
    (hlabel : ∀ a b, f a = some b → label' b = label a) (items : List α) :
    ((items.filterMap f).map label').Sublist (items.map label) := by
  induction items with
  | nil => exact .slnil
  | cons a rest ih =>
    rw [List.filterMap_cons]
    cases hf : f a with
    | none => exact ih.cons _
    | some b =>
      rw [List.map_cons, List.map_cons, hlabel a b hf]
      exact ih.cons_cons _

/-- No drawable is drawn into one map twice. -/
theorem nodup_castIds (horder : order.Nodup) : (r.castIds order).Nodup := by
  let states := order.filterMap fun id ↦ (r.drawables.get? id).map (id, ·)
  let casters := sortByKey ShadowCaster.sortKey (states.map fun s ↦ r.casterOf s.1 s.2)
  have hstates : (states.map (·.1)).Nodup := by
    refine List.Sublist.nodup (map_filterMap_sublist (fun id p hp ↦ ?_) order)
      ((List.map_id order).symm ▸ horder)
    obtain ⟨s, _, rfl⟩ := Option.map_eq_some_iff.mp hp
    rfl
  have hcasters : (casters.map (·.drawable)).Nodup := by
    refine ((List.mergeSort_perm _ _).map _).nodup_iff.mpr ?_
    rw [List.map_map]
    exact hstates
  refine List.Sublist.nodup (map_filterMap_sublist (fun c p hp ↦ ?_) casters) hcasters
  obtain ⟨d, _, rfl⟩ := Option.map_eq_some_iff.mp hp
  rfl

/-- Exactly the drawables that cast are drawn. -/
theorem mem_castIds_iff {id : DrawableId} : id ∈ r.castIds order ↔ id ∈ order ∧ r.Casts id := by
  unfold castIds castIn
  simp only [List.mem_map, List.mem_filterMap, sortByKey, List.mem_mergeSort]
  constructor
  · rintro ⟨p, ⟨caster, ⟨⟨id', s⟩, hstate, rfl⟩, hp⟩, rfl⟩
    obtain ⟨hid, hs⟩ := mem_states_iff.mp (List.mem_filterMap.mpr hstate)
    obtain ⟨d, hd, rfl⟩ := Option.map_eq_some_iff.mp hp
    obtain ⟨e, b, hhandle, he, hb, _⟩ := ShadowCaster.resolve?_eq_some hd
    exact ⟨hid, s, _, e, b, hs, hhandle, he, hb⟩
  · rintro ⟨hid, s, h, e, b, hs, hhandle, he, hb⟩
    refine ⟨(r.casterOf id s, ⟨h, e.program, s.drawable.transform, s.drawable.geometry.id, b,
      s.drawable.material.pointSize⟩), ⟨r.casterOf id s, ⟨(id, s), ⟨id, hid, ?_⟩, rfl⟩, ?_⟩, rfl⟩
    · rw [hs]
      rfl
    · unfold ShadowCaster.resolve? casterOf
      simp [ProgramCache.program?, hhandle, he, hb]

/-- The maps of a renderer whose maps follow its lights are drawn one by one. -/
theorem map_mapCasts (hmaps : r.shadows.Follows r.scene.lights) (order : List DrawableId) :
    (r.mapCasts order).map (fun p ↦ (p.1, p.2.2.1.drawable)) =
      r.shadows.maps.flatMap fun m ↦ (r.castIds order).map (m, ·) := by
  unfold mapCasts castIds
  rw [List.map_flatMap]
  refine List.flatMap_congr fun m hm ↦ ?_
  obtain ⟨p, hp, hlight⟩ := List.mem_map.mp (hmaps.wanted m hm)
  have hlt : m.light.toNat < r.scene.lights.length := by
    have hp := List.snd_lt_of_mem_zipIdx (List.mem_of_mem_filter hp)
    rw [← hlight, UInt32.toNat_ofNat']
    exact Nat.lt_of_le_of_lt (Nat.mod_le _ _) (by simpa using hp)
  rw [List.getElem?_eq_getElem hlt]
  simp

/-! ### What a draw shows -/

variable [Device δ] {device : δ} {config : RendererConfig} {ops : List Operation}
  {alive : δ → ProgramId → Prop} {nameOf : δ → UniformLocation → Option String}

/-- A depth program with a place for the matrix of positions is one for a quantized geometry. -/
theorem quantized_of_positionsDecode {o : ShaderOptions} {e : CacheEntry} (he : e.Built δ o)
    {d : DepthFeatures} (hkey : e.key = .shadowDepth d) {location : UniformLocation}
    (hlocation : e.program.bindings.uniform? Name.positionsDecodeMatrix.text = some location) :
    d.quantized = true := by
  obtain ⟨type, hdeclares⟩ := exists_declares_of_mem_uniforms he.1 (he.mem_uniforms hlocation)
  have hname : DeclaresUniform o (.shadowDepth d) Name.positionsDecodeMatrix.text :=
    hkey ▸ (declaresAs_of_declares he.1 hdeclares).declaresUniform
  obtain ⟨n, _, hname, huniform, hn⟩ := hname.depth
  obtain rfl := Name.text_injective hname
  rcases sets_of_declared_depth default default 0 huniform hn with hsets | hquantized
  · simp [Light.shadowUploads, Transform.uploads] at hsets
  · exact hquantized.1

/-- A draw into a map whose parts are in place shows what it should. -/
theorem Consistent.castOnto (hr : r.Consistent alive)
    (hclean : ∀ id s, r.drawables.get? id = some s → s.dirty = false)
    (hown : r.OwnBuffers device config ops) (hmaps : r.shadows.Follows r.scene.lights)
    {m : ShadowMap} (hm : m ∈ r.shadows.maps)
    {light : Light} (hlight : r.scene.lights[m.light.toNat]? = some light)
    {p : ShadowCaster × ReadyCaster} (hp : p ∈ r.castIn order)
    (hdistinct : p.2.program.bindings.Distinct) {shown : Shown}
    (hdraws : shown.draw = p.2.buffers.draw) (hsettled : p.2.Settled light shown.state)
    (hcanvas : shown.canvas = ShadowRenderer.mapCanvas m) :
    ∃ s e b, r.CastOnto m p.1.drawable light s e b shown := by
  obtain ⟨s, e, b, hs, hhandle, he, hkey, hb, hready⟩ :=
    exists_castsFor (fun id s hs ↦ hr.current id s hs (hclean id s hs)) hp
  have hbuilt := hr.programs.built p.2.handle e he
  obtain ⟨_, _, hupload⟩ := (hown _ s b hs hb).exists_upload
  obtain ⟨hview, hprojection, hmodel, hdecode, hsize⟩ := hsettled.values hdistinct
  have hgeometry := hsettled.geometry
  have huse := (hsettled.holds hdistinct).1
  rw [hready] at hview hprojection hmodel hdecode hsize hgeometry huse hdraws
  refine ⟨s, e, b, hlight, hs, hb, ?_, ?_, ?_, hdraws, ⟨⟨_, hhandle, he⟩, huse⟩, hview,
    hprojection, hmodel, fun location hlocation ↦ ?_, hsize,
    GeometryBuffers.boundFor_of_after hupload hgeometry⟩
  · rw [hcanvas]
    rfl
  · rw [hcanvas, ShadowRenderer.mapCanvas, (hmaps.size m hm).1, (hmaps.size m hm).2]
  · rw [hcanvas]
    rfl
  · have hquantized : s.drawable.geometry.isQuantized = true :=
      quantized_of_positionsDecode hbuilt (eq_of_depthKey? hkey) hlocation
    obtain ⟨q, hq⟩ := Option.isSome_iff_exists.mp hquantized
    refine ⟨q, hq, hdecode q.positionsDecode location ?_ hlocation⟩
    show b.positionsDecode = some q.positionsDecode
    rw [GeometryBuffers.positionsDecode_upload hupload, hq]
    rfl

/-! ### A whole frame -/

/-- A frame draws the right thing into the right target: every drawable that casts once into the map
of every light, and then what the main pass draws to the surface. -/
structure Targeted (r : Renderer δ) (viewport : UInt32 × UInt32) (order : List DrawableId)
    (state : GpuState) (canvas : Canvas) : Prop where
  /-- The maps are in the order of their lights, where every light that casts a shadow has its
  map. -/
  sorted : (∀ light ∈ castingLights r.scene.lights, ∃ m ∈ r.shadows.maps, m.light = light) →
    r.shadows.maps.Pairwise fun m m' ↦ m.light < m'.light
  once : (r.castIds order).Nodup
  casts : ∀ id, id ∈ r.castIds order ↔ r.Casts id
  frame : (r.frameIn order).1 = r.preludeIn order ++ r.mainPass order
  shadows : List.Forall₂ (fun p shown ↦ ∃ light s e b, r.CastOnto p.1 p.2 light s e b shown)
    (r.shadows.maps.flatMap fun m ↦ (r.castIds order).map (m, ·))
    (state.shown canvas (r.preludeIn order))
  main : ∀ shown ∈ (state.since (r.preludeIn order)).shown (canvas.after (r.preludeIn order))
    (r.mainPass order), shown.canvas.target = none ∧ shown.canvas.viewport = viewport

omit [Device δ] in
/-- The draws before the main pass are those into the maps. -/
theorem shown_preludeIn (hcasters : CastState.Coherent (r.castersIn order)) (state : GpuState)
    (canvas : Canvas) :
    List.Forall₂ (fun p shown ↦ shown.draw = p.2.2.2.buffers.draw ∧
        p.2.2.2.Settled p.2.1 shown.state ∧ shown.canvas = ShadowRenderer.mapCanvas p.1)
      (r.mapCasts order) (state.shown canvas (r.preludeIn order)) := by
  have hsurface : ∀ c ∈ [Command.bindRenderTarget none,
      .setViewport r.viewport.1 r.viewport.2, .clear (some r.clearColor) true],
      c.isDraw = false := by
    simp [Command.isDraw]
  rw [preludeIn, GpuState.shown_append, GpuState.shown_eq_nil _ _ hsurface, List.append_nil]
  unfold ShadowRenderer.render
  split
  · rename_i hnone
    rw [mapCasts, List.isEmpty_iff.mp hnone]
    exact .nil
  · have hback : ∀ c ∈ [Command.bindRenderTarget none], c.isDraw = false := by
      simp [Command.isDraw]
    show List.Forall₂ _ _ (state.shown canvas ((ShadowRenderer.renderMaps (r.castersIn order)
      r.scene.lights .zero r.shadows.maps).1 ++ [.bindRenderTarget none]))
    have hcasts : (r.mapCasts order).map (fun p ↦ (p.1, p.2.1, p.2.2.2)) =
        r.shadows.maps.flatMap fun m ↦
          (ShadowRenderer.mapDraws (r.castersIn order) r.scene.lights m).map (m, ·) := by
      unfold mapCasts ShadowRenderer.mapDraws
      simp only [reduceOption_castersIn, List.map_flatMap, List.map_map, Function.comp_def]
    have hshown : List.Forall₂ _ _ (state.shown canvas (ShadowRenderer.renderMaps
        (r.castersIn order) r.scene.lights .zero r.shadows.maps).1) :=
      ShadowRenderer.shown_renderMaps hcasters .zero r.shadows.maps
    rw [← hcasts, List.forall₂_map_left_iff] at hshown
    rwa [GpuState.shown_append, GpuState.shown_eq_nil _ _ hback, List.append_nil]

omit [Device δ] in
/-- The main pass draws to the surface. -/
theorem canvas_mainPass (r : Renderer δ) (order : List DrawableId) (state : GpuState)
    (canvas : Canvas) :
    ∀ shown ∈ state.shown (canvas.after (r.preludeIn order)) (r.mainPass order),
      shown.canvas.target = none ∧ shown.canvas.viewport = r.viewport := by
  have hkeep : ∀ c ∈ r.mainPass order, c.isCanvas = false := DrawState.isCanvas_drawAll _ _ _ _
  rw [GpuState.shown_of_not_isCanvas _ _ hkeep]
  intro shown hshown
  obtain ⟨d, _, rfl⟩ := List.mem_map.mp hshown
  rw [preludeIn, Canvas.after_append]
  exact ⟨rfl, rfl⟩

theorem viewport_compileIn {compiled : Renderer δ} {visits : List DrawableId}
    {failures : List CompileFailure} (hcompile : r.compileIn visits = .ok (failures, compiled)) :
    compiled.viewport = r.viewport :=
  compileIn_keeps (·.viewport) (fun r r' id failures hnow ↦ by
    rcases compileDrawable_ok hnow with ⟨_, rfl⟩ | ⟨_, _, _, _, _, _, rfl⟩ <;> rfl) hcompile

/-- In a renderer whose drawables are all up to date, a frame draws the right thing into the right
target. -/
theorem Consistent.targeted (hnames : NamesUniforms nameOf) (hr : r.Consistent alive)
    (hfit : r.cache.UniformsFit)
    (hclean : ∀ id s, r.drawables.get? id = some s → s.dirty = false)
    (htransforms : r.TransformsById) (hown : r.OwnBuffers device config ops)
    (hmaps : r.shadows.Follows r.scene.lights) (horder : order.Perm r.drawables.keys)
    (state : GpuState) (canvas : Canvas) : r.Targeted r.viewport order state canvas where
  sorted := hmaps.sorted
  once := nodup_castIds (horder.nodup_iff.mpr r.drawables.nodup_keys)
  casts id := by
    rw [mem_castIds_iff, and_iff_right_iff_imp]
    rintro ⟨s, _, _, _, hs, _⟩
    exact horder.mem_iff.mpr (Registry.mem_keys_of_get? hs)
  frame := r.frameIn_eq order
  shadows := by
    have hcasters := hr.coherent_castersIn hnames hfit htransforms order
    rw [← map_mapCasts hmaps, List.forall₂_map_left_iff]
    refine ((List.forall₂_and_left _ _).mpr
      ⟨fun p hp ↦ hp, shown_preludeIn hcasters state canvas⟩).imp ?_
    rintro ⟨m, light, p⟩ shown ⟨hp, hdraws, hsettled, hcanvas⟩
    obtain ⟨m', hm, hp⟩ := List.mem_flatMap.mp hp
    obtain ⟨light', hlight, hp⟩ := List.mem_flatMap.mp hp
    obtain ⟨p', hp, heq⟩ := List.mem_map.mp hp
    cases heq
    obtain ⟨s, e, b, hshown⟩ := hr.castOnto hclean hown hmaps hm (Option.mem_toList.mp hlight) hp
      (hcasters.distinct _ (some_mem_castersIn hp)) hdraws hsettled hcanvas
    exact ⟨light, s, e, b, hshown⟩
  main := canvas_mainPass r order _ canvas

/-- Shadow pass and main pass draw the right thing into the right target. Compiling has a result,
unless the filter of shadow maps is too wide or every identity has a drawable; the frame that
follows draws every drawable that casts once into the map of every light, and then the main pass to
the surface, as long as places tell the uniforms of every program apart. -/
theorem reached_targeted (hdevice : KeepsPrograms alive) (hnames : NamesUniforms nameOf)
    (hreached : Reached device config ops r) (htransforms : r.TransformsById)
    (hown : r.OwnBuffers device config ops) {visits : List DrawableId}
    (hvisits : visits.Perm r.drawables.keys) :
    (r.config.shaderOptions.kernelRadius ≤ maxKernelRadius → r.drawables.size < UInt32.size →
      ∃ failures compiled, r.compileIn visits = .ok (failures, compiled)) ∧
    ∀ failures compiled, r.compileIn visits = .ok (failures, compiled) →
      compiled.cache.UniformsFit → ∀ order, order.Perm compiled.drawables.keys → ∀ state canvas,
        compiled.Targeted r.viewport order state canvas := by
  have hr := hreached.consistent hdevice
  refine ⟨fun hradius hsize ↦ hr.exists_compileIn hdevice hradius hsize visits, ?_⟩
  intro failures compiled hcompile hfit order horder state canvas
  have hmaps : compiled.shadows.Follows compiled.scene.lights := by
    obtain ⟨hshadows, hscene⟩ := lights_compileIn hcompile
    rw [hshadows, hscene]
    exact hreached.follows
  rw [← viewport_compileIn hcompile]
  exact (hr.compileIn hdevice hcompile).targeted hnames hfit
    (fun id s hs ↦ clean_compileIn hvisits hcompile hs) (htransforms.compileIn hcompile)
    (hown.compileIn hcompile) hmaps horder state canvas

/-! ### A single caster -/

section Single

variable {light : Light} {c : ReadyCaster}
omit [Device δ]

/-- A caster that is alone is drawn once into each map, after all that it binds. -/
theorem shown_renderMap_single {lights : List Light} {m : ShadowMap}
    (hlight : lights[m.light.toNat]? = some light) (stats : FrameStats) (state : GpuState)
    (canvas : Canvas) :
    state.shown canvas (ShadowRenderer.renderMap [some c] lights stats m).1 =
      [⟨c.buffers.draw, GpuState.empty.after (c.setup light), ShadowRenderer.mapCanvas m⟩] := by
  have hfront : ∀ command ∈ m.target.bind ++ [Command.clear (some ⟨1.0, 1.0, 1.0, 1.0⟩) true],
      command.isDraw = false := by
    simp [RenderTarget.bind, Command.isDraw]
  obtain ⟨hcommands, _⟩ := CastState.draw_fresh light (b := .start stats) (c := c)
    (Option.some_ne_none _).symm
  have hmap : (ShadowRenderer.renderMap [some c] lights stats m).1 =
      m.target.bind ++ [.clear (some ⟨1.0, 1.0, 1.0, 1.0⟩) true] ++
        (c.setup light ++ [c.buffers.draw] ++ []) := by
    rw [← hcommands]
    unfold ShadowRenderer.renderMap
    rw [hlight]
    rfl
  rw [ShadowRenderer.shown_renderMap, hmap, GpuState.observeSince_append,
    GpuState.observeSince_eq_nil _ hfront, List.nil_append,
    GpuState.observeSince_prepared _ (c.isDraw_setup light) c.buffers.isDraw_draw, c.since_setup]
  rfl

theorem shown_renderMaps_single {lights : List Light} {maps : List ShadowMap}
    (hlights : ∀ m ∈ maps, lights[m.light.toNat]? = some light) (stats : FrameStats)
    (state : GpuState) (canvas : Canvas) :
    state.shown canvas (ShadowRenderer.renderMaps [some c] lights stats maps).1 =
      maps.map fun m ↦ ⟨c.buffers.draw, GpuState.empty.after (c.setup light),
        ShadowRenderer.mapCanvas m⟩ := by
  induction maps generalizing stats state canvas with
  | nil => rfl
  | cons m rest ih =>
    obtain ⟨hlight, hrest⟩ := List.forall_mem_cons.mp hlights
    show state.shown canvas ((ShadowRenderer.renderMap [some c] lights stats m).1 ++ _) = _
    rw [GpuState.shown_append, shown_renderMap_single hlight, ih hrest]
    rfl

theorem shown_preludeIn_single
    (hlights : ∀ m ∈ r.shadows.maps, r.scene.lights[m.light.toNat]? = some light)
    (hcasters : r.castersIn order = [some c]) (state : GpuState) (canvas : Canvas) :
    state.shown canvas (r.preludeIn order) = r.shadows.maps.map fun m ↦
      ⟨c.buffers.draw, GpuState.empty.after (c.setup light), ShadowRenderer.mapCanvas m⟩ := by
  have hsurface : ∀ c ∈ [Command.bindRenderTarget none,
      .setViewport r.viewport.1 r.viewport.2, .clear (some r.clearColor) true],
      c.isDraw = false := by
    simp [Command.isDraw]
  rw [preludeIn, GpuState.shown_append, GpuState.shown_eq_nil _ _ hsurface, List.append_nil]
  unfold ShadowRenderer.render
  split
  · rename_i hnone
    rw [List.isEmpty_iff.mp hnone]
    rfl
  · have hback : ∀ c ∈ [Command.bindRenderTarget none], c.isDraw = false := by
      simp [Command.isDraw]
    show state.shown canvas ((ShadowRenderer.renderMaps (r.castersIn order) r.scene.lights .zero
      r.shadows.maps).1 ++ [.bindRenderTarget none]) = _
    rw [GpuState.shown_append, GpuState.shown_eq_nil _ _ hback, List.append_nil, hcasters,
      shown_renderMaps_single hlights]

/-- A fresh draw into a map leaves a uniform unset that is not among what it uploads. -/
theorem effect_setup_eq_none (hc : c.program.bindings.Distinct)
    {n : Name} (hother : ¬ Sets (c.uploads light) n) {location : UniformLocation}
    (hlocation : c.program.bindings.uniform? n.text = some location) :
    effect (c.setup light) (.uniform location) = none := by
  unfold ReadyCaster.uploads at hother
  rw [sets_append, sets_append, sets_append, not_or, not_or, not_or] at hother
  obtain ⟨⟨⟨hlight, htransform⟩, hdecode⟩, hsize⟩ := hother
  have huse : effect (c.bindProgram light) (.uniform location) = none := by
    show (effect (c.program.bindings.uploadAll _) _).or none = none
    rw [hc.effect_uploadAll_eq_none hlight hlocation, Option.none_or]
  have hbind : effect c.bindGeometry (.uniform location) = none := by
    show effect (c.buffers.bind c.program.bindings ++
      c.program.bindings.uploadAll c.buffers.decodeUploads) _ = none
    rw [effect_append, hc.effect_uploadAll_eq_none hdecode hlocation, c.buffers.effect_bind_uniform,
      Option.none_or]
  rw [ReadyCaster.setup, effect_append, effect_append, effect_append, huse, hbind,
    ReadyCaster.bindTransform, ReadyCaster.bindPointSize,
    hc.effect_uploadAll_eq_none htransform hlocation, hc.effect_uploadAll_eq_none hsize hlocation]
  rfl

end Single

/-! ### A drawable under the sun -/

/-- A lone drawable with a depth program is all there is to cast. -/
theorem Lone.exists_casts {r : Renderer δ} {d : Drawable} {b : GeometryBuffers}
    (hr : r.Lone d b) {depth : DepthFeatures}
    (hdepth : r.depthKey? d = some (.shadowDepth depth)) :
    ∃ compiled failures c, r.compileIn [d.id] = .ok (failures, compiled) ∧
      compiled.castersIn [d.id] = [some c] ∧ compiled.Casts d.id := by
  obtain ⟨compiled, failures, s, c, e, hcompile, hcasters, rfl, hs, rfl, hhandle, hentry, -⟩ :=
    hr.exists_cast hdepth
  have hbuffers : compiled.buffers? s.drawable.geometry.id = some c.buffers := by
    rw [buffers?, geometries_compileIn hcompile]
    exact hr.buffers
  exact ⟨compiled, failures, c, hcompile, hcasters, s, c.handle, e, c.buffers, hs, hhandle, hentry,
    hbuffers⟩

/-- A sun that casts a shadow. -/
def shadowSun : Light := { Light.ofShape (.directional ⟨0.0, -1.0, 0.0⟩) with shadow := true }

/-- The frame of the stray is drawn into the map of the sun and to the surface. -/
theorem reached_targeted_litStray :
    KeepsPrograms Recorder.Alive ∧
      NamesUniforms (fun (r : Recorder) location ↦ some (r.uniformName location)) ∧
      ∃ r compiled : Renderer Recorder, ∃ failures,
      Reached .standard .standard [.addDrawable stray, .setLights [shadowSun]] r ∧
        r.TransformsById ∧
        r.OwnBuffers .standard .standard [.addDrawable stray, .setLights [shadowSun]] ∧
        [stray.id].Perm r.drawables.keys ∧
        r.compileIn [stray.id] = .ok (failures, compiled) ∧ compiled.cache.UniformsFit ∧
        [stray.id].Perm compiled.drawables.keys ∧
        compiled.shadows.maps ≠ [] ∧ compiled.Casts stray.id ∧
        compiled.Targeted r.viewport [stray.id] .empty ⟨none, (640, 480), false⟩ := by
  have hrun :
      ∃ (r : Renderer Recorder) (b : GeometryBuffers),
      Reached .standard .standard [.addDrawable stray, .setLights [shadowSun]] r ∧
        r.Lone stray b ∧
        r.depthKey? stray = some (.shadowDepth (.ofFeatures (r.featuresOf stray))) ∧
        ∃ target, r.shadows.maps = sortByKey (fun m ↦ [m.light]) [⟨0, target⟩] :=
    ⟨_, _, .perform (.perform .new (.setLights [shadowSun]) rfl) _ rfl, ⟨rfl, rfl, by decide,
      Recorder.Supplies.links ⟨by decide, rfl, rfl, rfl⟩, rfl, rfl⟩, rfl, _, rfl⟩
  obtain ⟨r, b, hreached, hlone, hdepth, target, hmaps⟩ := hrun
  have hown := hreached.ownBuffers_of_replicate (n := 1) rfl
  obtain ⟨compiled, failures, _, hcompile, _, hcasts⟩ := hlone.exists_casts hdepth
  have hfit := hlone.uniformsFit ((hreached.consistent Recorder.keepsPrograms).compileIn
    Recorder.keepsPrograms hcompile) hcompile
  have hkeys : [stray.id].Perm compiled.drawables.keys := by
    rw [keys_compileIn hcompile]
    exact hlone.visits
  have hdrawn : compiled.shadows.maps ≠ [] := by
    rw [(lights_compileIn hcompile).1, hmaps]
    simp [sortByKey]
  exact ⟨Recorder.keepsPrograms, Recorder.namesUniforms, r, compiled, failures, hreached,
    hlone.transformsById, hown, hlone.visits, hcompile, hfit, hkeys, hdrawn, hcasts,
    (reached_targeted Recorder.keepsPrograms Recorder.namesUniforms hreached hlone.transformsById
      hown hlone.visits).2 failures compiled hcompile hfit [stray.id] hkeys _ _⟩

/-! ### Frames that are not as they should be -/

/-- A drawable is drawn into a shadow map by a program that decodes its positions, and nothing was
uploaded to decode them with. -/
def CastsUndecoded (r : Renderer δ) (order : List DrawableId) : Prop :=
  ∃ m shown id s h e location, m ∈ r.shadows.maps ∧
    shown ∈ GpuState.empty.shown ⟨none, r.viewport, false⟩ (r.preludeIn order) ∧
    shown.canvas.target = some m.target.id ∧ r.drawables.get? id = some s ∧
    s.drawable.geometry.isQuantized = true ∧ s.depth.handle = some h ∧
    r.cache.entry? h = some e ∧ shown.state .program = some (.program e.program.id) ∧
    DeclaresUniform r.config.shaderOptions e.key Name.positionsDecodeMatrix.text ∧
    e.program.bindings.uniform? Name.positionsDecodeMatrix.text = some location ∧
    shown.state (.uniform location) = none

/-- A quantized drawable casts undecoded if its buffers have no matrix. -/
theorem Lone.exists_castsUndecoded {r : Renderer Recorder} {d : Drawable} {b : GeometryBuffers}
    (hr : r.Lone d b) (hconsistent : r.Consistent Recorder.Alive)
    (hquantized : d.geometry.isQuantized = true) {depth : DepthFeatures}
    (hdepth : r.depthKey? d = some (.shadowDepth depth)) (hdecodes : depth.quantized = true)
    {light : Light} {m : ShadowMap} (hm : m ∈ r.shadows.maps)
    (hlights : ∀ m ∈ r.shadows.maps, r.scene.lights[m.light.toNat]? = some light)
    (hdecode : b.decodeUploads = []) :
    ∃ compiled failures, r.compileIn [d.id] = .ok (failures, compiled) ∧
      compiled.CastsUndecoded [d.id] := by
  obtain ⟨compiled, failures, s, c, e, hcompile, hcasters, rfl, hs, hdrawable, hhandle, hentry,
    hkey, hprogram⟩ := hr.exists_cast hdepth
  have hcompiled := hconsistent.compileIn Recorder.keepsPrograms hcompile
  have hbuilt := hcompiled.programs.built _ e hentry
  rw [hcompiled.options] at hbuilt
  have hdeclares : DeclaresUniform compiled.config.shaderOptions e.key
      Name.positionsDecodeMatrix.text := by
    obtain ⟨v, f, hstages, _⟩ := exists_stages_of_synthesize (hkey ▸ hbuilt.1)
    rw [hkey]
    exact declaresUniform_of_mem_depthVertexRecords hstages
      (by simp [depthVertexRecords, hdecodes]) rfl
  obtain ⟨location, hlocation⟩ := hbuilt.exists_location (hdeclares.mem_uniforms hbuilt.1)
  have hdistinct : c.program.bindings.Distinct := by
    rw [← hprogram]
    exact hbuilt.distinct Recorder.namesUniforms (hr.uniformsFit hcompiled hcompile _ e hentry)
  obtain ⟨hshadows, hscene⟩ := lights_compileIn hcompile
  rw [← hshadows, ← hscene] at hlights
  rw [← hshadows] at hm
  refine ⟨compiled, failures, hcompile, m, ⟨c.buffers.draw, GpuState.empty.after (c.setup light),
    ShadowRenderer.mapCanvas m⟩, d.id, s, c.handle, e, location, hm, ?_, rfl, hs,
    hdrawable ▸ hquantized, hhandle, hentry, ?_, hdeclares, hlocation, ?_⟩
  · rw [shown_preludeIn_single hlights hcasters]
    exact List.mem_map.mpr ⟨m, hm, rfl⟩
  · rw [hprogram]
    exact ((ReadyCaster.settled_setup hdistinct _).holds hdistinct).1
  · rw [hprogram] at hlocation
    show (effect _ _).or none = none
    rw [effect_setup_eq_none hdistinct ?_ hlocation]
    · rfl
    · unfold ReadyCaster.uploads
      rw [hdecode]
      simp [Light.shadowUploads, Transform.uploads]

/-- Where equal identities of geometries do not mean equal geometries, the matrix for positions can
be missing in the shadow pass. The stray casts with buffers that were uploaded from its twin. -/
theorem exists_castsUndecoded :
    ∃ (r compiled : Renderer Recorder) (failures : List CompileFailure),
      Reached .standard .standard (strayOps ++ [.setLights [shadowSun]]) r ∧ r.TransformsById ∧
        [stray.id].Perm r.drawables.keys ∧ r.compileIn [stray.id] = .ok (failures, compiled) ∧
        compiled.CastsUndecoded [stray.id] := by
  have hrun :
      ∃ (r : Renderer Recorder) (b : GeometryBuffers),
        Reached .standard .standard (strayOps ++ [.setLights [shadowSun]]) r ∧ r.Lone stray b ∧
        r.depthKey? stray = some (.shadowDepth ⟨true, .none, false, false⟩) ∧
        (∃ target, r.shadows.maps = sortByKey (fun m ↦ [m.light]) [⟨0, target⟩]) ∧
        r.scene.lights = [shadowSun] ∧ b.decodeUploads = [] :=
    ⟨_, _, .perform (.perform (.perform (.perform .new (.setLights [shadowSun]) rfl) _ rfl) _ rfl)
      _ rfl, ⟨rfl, rfl, by decide, Recorder.Supplies.links ⟨by decide, rfl, rfl, rfl⟩, rfl, rfl⟩,
      rfl, ⟨_, rfl⟩, rfl, rfl⟩
  obtain ⟨r, b, hreached, hlone, hdepth, ⟨target, hmaps⟩, hlights, hdecode⟩ := hrun
  have hmap : r.shadows.maps = [⟨0, target⟩] := by
    rw [hmaps]
    simp [sortByKey]
  have hlight : ∀ m ∈ r.shadows.maps, r.scene.lights[m.light.toNat]? = some shadowSun := by
    rw [hmap, List.forall_mem_singleton, hlights]
    rfl
  obtain ⟨compiled, failures, hcompile, hundecoded⟩ := hlone.exists_castsUndecoded
    (hreached.consistent Recorder.keepsPrograms) rfl hdepth rfl
      (hmap ▸ List.mem_singleton_self _) hlight hdecode
  exact ⟨r, compiled, failures, hreached, hlone.transformsById, hlone.visits, hcompile, hundecoded⟩

/-- The draws into two maps are not in the order of the lights. -/
def CastsUnsorted (r : Renderer δ) (order : List DrawableId) : Prop :=
  ∃ m m', r.shadows.maps = [m, m'] ∧ m'.light < m.light ∧
    (GpuState.empty.shown ⟨none, r.viewport, false⟩ (r.preludeIn order)).map (·.canvas.target) =
      [some m.target.id, some m'.target.id]

/-- Targets were refused when the lights changed, first that of the third light and then its
texture. -/
def refusedOps : List Operation :=
  let lamp : Light := { shadowSun with shadow := false }
  [.addDrawable stray, .setLights [shadowSun, shadowSun, shadowSun],
    .setLights [lamp, shadowSun, shadowSun]]

/-- A device with room for one target and three textures. -/
def scarce : Rationed Recorder :=
  { Rationed.of Recorder.standard with targets := some 1, textures := some 3 }

/-- Where creating a map failed, the maps need not be drawn in the order of their lights. The map of
the second light was there first, and that of the first light was created after it; neither time the
third light got one. -/
theorem exists_castsUnsorted :
    ∃ (r compiled : Renderer (Rationed Recorder)) (failures : List CompileFailure),
      Reached scarce .standard refusedOps r ∧ r.TransformsById ∧
        r.OwnBuffers scarce .standard refusedOps ∧ [stray.id].Perm r.drawables.keys ∧
        r.compileIn [stray.id] = .ok (failures, compiled) ∧
        compiled.Casts stray.id ∧ compiled.CastsUnsorted [stray.id] := by
  have hrun :
      ∃ (r : Renderer (Rationed Recorder)) (b : GeometryBuffers),
        Reached scarce .standard refusedOps r ∧ r.Lone stray b ∧
        r.depthKey? stray = some (.shadowDepth ⟨true, .none, false, false⟩) ∧
        (∃ target target', r.shadows.maps = [⟨1, target⟩, ⟨0, target'⟩]) ∧
        r.scene.lights = [shadowSun, shadowSun, shadowSun] :=
    ⟨_, _, .perform (.perform (.perform .new (.setLights _) rfl) (.setLights _) rfl) _ rfl,
      ⟨rfl, rfl, by decide, Rationed.links ⟨by decide, rfl, rfl, rfl⟩ rfl, rfl, rfl⟩, rfl,
      ⟨_, _, rfl⟩, rfl⟩
  obtain ⟨r, b, hreached, hlone, hdepth, ⟨target, target', hmaps⟩, hlights⟩ := hrun
  have hown := hreached.ownBuffers_of_replicate (n := 1) rfl
  obtain ⟨compiled, failures, c, hcompile, hcasters, hcasts⟩ := hlone.exists_casts hdepth
  obtain ⟨hshadows, hscene⟩ := lights_compileIn hcompile
  rw [← hshadows] at hmaps
  rw [← hscene] at hlights
  have hlight : ∀ m ∈ compiled.shadows.maps,
      compiled.scene.lights[m.light.toNat]? = some shadowSun := by
    rw [hmaps, hlights]
    simp
  refine ⟨r, compiled, failures, hreached, hlone.transformsById, hown, hlone.visits, hcompile,
    hcasts, _, _, hmaps, show (0 : UInt32) < 1 by decide, ?_⟩
  rw [shown_preludeIn_single hlight hcasters, hmaps]
  rfl

/-- A frame can go wrong in two ways: with geometries that share an identity, and where creating a
map failed. -/
theorem exists_miscast :
    (∃ (r compiled : Renderer Recorder) (failures : List CompileFailure),
      Reached .standard .standard (strayOps ++ [.setLights [shadowSun]]) r ∧ r.TransformsById ∧
        [stray.id].Perm r.drawables.keys ∧ r.compileIn [stray.id] = .ok (failures, compiled) ∧
        compiled.CastsUndecoded [stray.id]) ∧
    ∃ (r compiled : Renderer (Rationed Recorder)) (failures : List CompileFailure),
      Reached scarce .standard refusedOps r ∧ r.TransformsById ∧
        r.OwnBuffers scarce .standard refusedOps ∧ [stray.id].Perm r.drawables.keys ∧
        r.compileIn [stray.id] = .ok (failures, compiled) ∧
        compiled.Casts stray.id ∧ compiled.CastsUnsorted [stray.id] :=
  ⟨exists_castsUndecoded, exists_castsUnsorted⟩

end Renderer

end SceneRenderer
