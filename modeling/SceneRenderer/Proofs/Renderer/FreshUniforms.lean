import SceneRenderer.Proofs.Device.ReportedNames
import SceneRenderer.Proofs.Frame.Coverage
import SceneRenderer.Proofs.Renderer.HandedGeometries
import SceneRenderer.Proofs.Renderer.LoneDrawables
import SceneRenderer.Proofs.Shader.DeclaredUniforms

/-!
Every uniform is fresh at every draw of a frame. Since its program was made current each uniform
that the program declares was uploaded, and what it holds is a value of the scene as it is or of the
drawable that is drawn.

A draw skips what the draw before it had under the same identity. So this is true where identities
can be trusted: equal identities of materials and of transforms mean equal contents, and drawables
have their own buffers. `Renderer.drawings` tells which drawable each draw of a frame is for; the
main statement is `Renderer.reached_fresh`. What stands where they cannot be trusted is shown by
`Renderer.exists_not_fresh`.
-/

set_option autoImplicit false
set_option relaxedAutoImplicit false

namespace SceneRenderer

open Shader

/-! ### Decoding a geometry -/

/-- The matrices that a quantized geometry is decoded with. -/
def Geometry.decodeUploads (g : Geometry) : List Upload :=
  (g.quantization.toList.map fun q ↦ .uniform .positionsDecodeMatrix (.mat4 q.positionsDecode)) ++
    (g.quantization.bind (·.uvDecode)).toList.map fun m ↦ .uniform .uvDecodeMatrix (.mat3 m)

theorem GeometryBuffers.decodeUploads_upload {δ : Type} [Device δ] {device device' : δ}
    {g : Geometry} {b : GeometryBuffers} (hupload : upload device g = (.ok b, device')) :
    b.decodeUploads = g.decodeUploads := by
  unfold GeometryBuffers.upload at hupload
  split at hupload
  · exact absurd (Prod.mk.inj hupload).1 nofun
  · split at hupload
    · exact absurd (Prod.mk.inj hupload).1 nofun
    · split at hupload
      · exact absurd (Prod.mk.inj hupload).1 nofun
      · cases (Prod.mk.inj hupload).1
        unfold GeometryBuffers.decodeUploads Geometry.decodeUploads
        cases g.quantization <;> rfl

theorem Geometry.sets_decodeUploads {g : Geometry} {n : Name} :
    Sets g.decodeUploads n ↔ n = .positionsDecodeMatrix ∧ g.isQuantized ∨
      n = .uvDecodeMatrix ∧ (g.quantization.bind (·.uvDecode)).isSome := by
  unfold Geometry.decodeUploads Geometry.isQuantized
  rcases g.quantization with _ | ⟨positions, _ | uv⟩ <;> simp

/-! ### Fresh draws -/

/-- The program slot that a drawable is drawn with. -/
def DrawableState.slotFor (s : DrawableState) : Option Light → ProgramSlot
  | none => s.draw
  | some _ => s.depth

namespace Renderer

variable {δ : Type}

theorem UploadedIn.decodeUploads_eq [Device δ] {device : δ} {config : RendererConfig}
    {ops : List Operation} {r : Renderer δ} {g : Geometry} {b : GeometryBuffers}
    (h : UploadedIn device config g (some b) ops r) : b.decodeUploads = g.decodeUploads := by
  obtain ⟨_, _, hupload⟩ := h.exists_upload
  exact GeometryBuffers.decodeUploads_upload hupload

/-- The program that a drawable is drawn with. -/
def keyFor (r : Renderer δ) (d : Drawable) : Option Light → Option ProgramKey
  | none => some (r.drawKey d)
  | some _ => r.depthKey? d

/-- The values of the scene as it is and of a drawable, for a draw of it. -/
def uploadsFor (r : Renderer δ) (d : Drawable) : Option Light → List Upload
  | none =>
    let c := r.featuresOf d
    let (frame, unit) := r.globals.uploads c
    frame ++ (d.material.uploads c (.new unit r.draws.maxTextureUnits)).1 ++
      d.transform.uploads c.hasNormals ++ d.geometry.decodeUploads
  | some light =>
    light.shadowUploads ++ d.transform.uploads false ++ d.geometry.decodeUploads ++
      [.uniform .pointSize (.float d.material.pointSize)]

/-- A drawable is drawn with its own buffers and the program of its features. Linking has asked for
the place of every uniform that the program declares, and each place that there is holds a value of
the scene or of the drawable. The matrix for texture coordinates is told only by geometries that
have one. -/
structure Fresh (r : Renderer δ) (drawing : Drawing) (s : DrawableState) (e : CacheEntry)
    (b : GeometryBuffers) (shown : Command × GpuState) : Prop where
  drawable : r.drawables.get? drawing.drawable = some s
  program : ∃ h, (s.slotFor drawing.light).handle = some h ∧ r.cache.entry? h = some e
  key : r.keyFor s.drawable drawing.light = some e.key
  buffers : r.buffers? s.drawable.geometry.id = some b
  draws : shown.1 = b.draw
  current : shown.2 .program = some (.program e.program.id)
  asked : ∀ name, DeclaresUniform r.config.shaderOptions e.key name → name ∈ e.source.uniforms
  fresh : ∀ name location, DeclaresUniform r.config.shaderOptions e.key name →
    e.program.bindings.uniform? name = some location →
    (name = Name.uvDecodeMatrix.text →
      (s.drawable.geometry.quantization.bind (·.uvDecode)).isSome) →
    ∃ n value, n.text = name ∧ .uniform n value ∈ r.uploadsFor s.drawable drawing.light ∧
      shown.2 (.uniform location) = some (.value value)

variable [Device δ] {device : δ} {config : RendererConfig} {ops : List Operation} {r : Renderer δ}
  {order : List DrawableId} {alive : δ → ProgramId → Prop}
  {nameOf : δ → UniformLocation → Option String} {light : Light} {shown : Command × GpuState}

/-! ### One draw -/

/-- Where some uploads are held, one of their values is there for each uniform among them. -/
theorem exists_value_of_holds {p : ProgramBindings} {uploads : List Upload} {state : GpuState}
    (hholds : p.Holds uploads state) {n : Name} (hsets : Sets uploads n)
    {location : UniformLocation} (hlocation : p.uniform? n.text = some location) :
    ∃ m value, m.text = n.text ∧ Upload.uniform m value ∈ uploads ∧
      state (.uniform location) = some (.value value) := by
  obtain ⟨given, hgiven⟩ := hsets
  obtain ⟨value, hvalue, hstate⟩ := hholds n given location hgiven hlocation
  exact ⟨n, value, rfl, hvalue, hstate⟩

/-- A draw of the main pass whose setup is in place is fresh. -/
theorem Consistent.fresh_drawn (hr : r.Consistent alive)
    (hcurrent : ∀ id s, r.drawables.get? id = some s → r.UpToDate s)
    (hown : r.OwnBuffers device config ops)
    (hlights : r.scene.lights.length < 2 ^ 32) {p : DrawEntry × ReadyDraw}
    (hp : p ∈ r.drawnIn order) (hsound : p.2.Sound) (hdraws : shown.1 = p.2.buffers.draw)
    (hsettled : p.2.Settled r.draws.maxTextureUnits r.globals shown.2) :
    ∃ s e b, r.Fresh ⟨p.1.drawable, none⟩ s e b shown := by
  obtain ⟨s, e, buffers, hs, hhandle, he, hkey, hbuffers, hready⟩ := exists_drawsFor hcurrent hp
  have hbuilt := (hr.programs.built p.2.handle e he).1
  rw [hr.options] at hbuilt
  obtain ⟨huse, hholds⟩ := hsettled.holds hsound
  have huploads : p.2.uploads r.draws.maxTextureUnits r.globals =
      r.uploadsFor s.drawable none := by
    rw [hready]
    show _ ++ buffers.decodeUploads = _
    rw [(hown _ s buffers hs hbuffers).decodeUploads_eq]
    rfl
  have hprogram : p.2.program = e.program := by rw [hready]
  rw [huploads, hprogram] at hholds
  rw [hprogram] at huse
  refine ⟨s, e, buffers, hs, ⟨p.2.handle, hhandle, he⟩, congrArg some hkey.symm, hbuffers, ?_,
    huse, fun name hname ↦ hname.mem_uniforms hbuilt, ?_⟩
  · rw [hdraws, hready]
  · intro name location hname hlocation huv
    rw [hkey] at hname
    obtain ⟨filter, n, type, hfilter, rfl, huniform, hn⟩ := hname.draw
    refine exists_value_of_holds hholds ?_ hlocation
    have hserves : r.globals.Serves (r.featuresOf s.drawable) :=
      serves_classify hlights s.drawable.geometry s.drawable.material s.drawable.modes r.sceneFlags
    have hfits : s.drawable.material.Fits (r.featuresOf s.drawable) := fits_classify _ _ _ _ _ _
    refine sets_append.mpr ((sets_of_declared hserves hfits hfilter huniform hn).imp_right ?_)
    rintro ⟨hquantized, rfl | rfl⟩
    · exact Geometry.sets_decodeUploads.mpr (.inl ⟨rfl, hquantized⟩)
    · exact Geometry.sets_decodeUploads.mpr (.inr ⟨rfl, huv rfl⟩)

/-- A draw into a shadow map whose parts are in place is fresh. -/
theorem Consistent.fresh_cast (hr : r.Consistent alive)
    (hcurrent : ∀ id s, r.drawables.get? id = some s → r.UpToDate s)
    (hown : r.OwnBuffers device config ops)
    {p : ShadowCaster × ReadyCaster} (hp : p ∈ r.castIn order)
    (hdistinct : p.2.program.bindings.Distinct) (hdraws : shown.1 = p.2.buffers.draw)
    (hsettled : p.2.Settled light shown.2) :
    ∃ s e b, r.Fresh ⟨p.1.drawable, some light⟩ s e b shown := by
  obtain ⟨s, e, buffers, hs, hhandle, he, hkey, hbuffers, hready⟩ := exists_castsFor hcurrent hp
  have hbuilt := (hr.programs.built p.2.handle e he).1
  rw [hr.options] at hbuilt
  obtain ⟨huse, hholds⟩ := hsettled.holds hdistinct
  have huploads : p.2.uploads light = r.uploadsFor s.drawable (some light) := by
    rw [hready]
    show _ ++ buffers.decodeUploads ++ _ = _
    rw [(hown _ s buffers hs hbuffers).decodeUploads_eq]
    rfl
  have hprogram : p.2.program = e.program := by rw [hready]
  rw [huploads, hprogram] at hholds
  rw [hprogram] at huse
  refine ⟨s, e, buffers, hs, ⟨p.2.handle, hhandle, he⟩, hkey, hbuffers, ?_,
    huse, fun name hname ↦ hname.mem_uniforms hbuilt, ?_⟩
  · rw [hdraws, hready]
  · intro name location hname hlocation _
    rw [eq_of_depthKey? hkey] at hname
    obtain ⟨n, type, rfl, huniform, hn⟩ := hname.depth
    refine exists_value_of_holds hholds ?_ hlocation
    have hcovered := sets_of_declared_depth light s.drawable.transform s.drawable.material.pointSize
      huniform hn
    rw [uploadsFor, sets_append, sets_append]
    rcases hcovered with hsets | ⟨hquantized, rfl⟩
    · exact (sets_append.mp hsets).imp_left .inl
    · exact .inl (.inr (Geometry.sets_decodeUploads.mpr (.inl ⟨rfl, hquantized⟩)))

/-! ### A whole frame -/

/-- The casters of a frame are coherent. -/
theorem Consistent.coherent_castersIn (hnames : NamesUniforms nameOf)
    (hr : r.Consistent alive) (hfit : r.cache.UniformsFit) (htransforms : r.TransformsById)
    (order : List DrawableId) : CastState.Coherent (r.castersIn order) where
  distinct c hc := by
    obtain ⟨_, _, e, _, he, hprogram, _⟩ := mem_castersIn hc
    rw [hprogram]
    exact (hr.programs.built c.handle e he).distinct hnames (hfit c.handle e he)
  agrees c c' hc hc' := by
    obtain ⟨id, s, e, hs, he, hprogram, htransform, hbuffers⟩ := mem_castersIn hc
    obtain ⟨id', s', e', hs', he', hprogram', htransform', hbuffers'⟩ := mem_castersIn hc'
    refine ⟨?_, ?_, ?_⟩
    · intro hhandle
      rw [hhandle, he'] at he
      rw [hprogram, hprogram', Option.some.inj he]
    · rw [htransform, htransform']
      exact htransforms id s id' s' hs hs'
    · intro hgeometry
      rw [hgeometry, hbuffers'] at hbuffers
      exact (Option.some.inj hbuffers).symm

/-- In a renderer whose drawables are all up to date, every draw of a frame is fresh. -/
theorem Consistent.fresh_frameIn (hnames : NamesUniforms nameOf) (hr : r.Consistent alive)
    (hfit : r.cache.UniformsFit)
    (hclean : ∀ id s, r.drawables.get? id = some s → s.dirty = false)
    (hmaterials : r.MaterialsById) (htransforms : r.TransformsById)
    (hown : r.OwnBuffers device config ops) (hlights : r.scene.lights.length < 2 ^ 32)
    (order : List DrawableId) (state : GpuState) :
    List.Forall₂ (fun drawing shown ↦ ∃ s e b, r.Fresh drawing s e b shown)
      (r.drawings order) (state.observeSince (r.frameIn order).1) := by
  have hcurrent : ∀ id s, r.drawables.get? id = some s → r.UpToDate s :=
    fun id s hs ↦ hr.current id s hs (hclean id s hs)
  have hcasters := hr.coherent_castersIn hnames hfit htransforms order
  have hbatch := hr.coherent hnames hfit hclean hmaterials htransforms order
  have hsurface : ∀ c ∈ [Command.bindRenderTarget none,
      .setViewport r.viewport.1 r.viewport.2, .clear (some r.clearColor) true],
      c.isDraw = false := by
    simp [Command.isDraw]
  rw [frameIn_eq, preludeIn, GpuState.observeSince_append, GpuState.observeSince_append,
    GpuState.observeSince_eq_nil _ hsurface, List.append_nil, drawings]
  refine List.rel_append ?_ ?_
  · have hshadow : List.Forall₂ _ (r.shadows.maps.flatMap
        (ShadowRenderer.mapDraws (r.castersIn order) r.scene.lights)) (state.observeSince _) :=
      ShadowRenderer.settled_render hcasters
    rw [mapDraws_castersIn, List.forall₂_map_left_iff] at hshadow
    rw [List.forall₂_map_left_iff]
    refine ((List.forall₂_and_left _ _).mpr
      ⟨fun p ↦ mem_castIn_of_mem_shadowsIn (p := p), hshadow⟩).imp ?_
    rintro p shown ⟨hp, hdraws, hsettled⟩
    exact hr.fresh_cast hcurrent hown hp (hcasters.distinct _ (some_mem_castersIn hp)) hdraws
      hsettled
  · have hmain : List.Forall₂ _ (DrawState.ready (r.batchIn order))
        ((state.since (r.preludeIn order)).observeSince (r.mainPass order)) :=
      DrawState.settled_drawAll hbatch fun _ _ ↦ .inl rfl
    rw [ready_batchIn, List.forall₂_map_left_iff] at hmain
    rw [List.forall₂_map_left_iff]
    refine ((List.forall₂_and_left _ _).mpr ⟨fun p hp ↦ hp, hmain⟩).imp ?_
    rintro p shown ⟨hp, hdraws, hsettled⟩
    exact hr.fresh_drawn hcurrent hown hlights hp (hbatch.sound _ (ok_mem_batchIn hp)) hdraws
      hsettled

/-- Every uniform is fresh at every draw: in the frame that follows compiling, whatever the order in
which drawables are collected, the draws are those of `drawings`, and each finds the uniforms of its
program with values of the scene or of its own drawable, uploaded since the program was last made
current. This rests on places that tell the uniforms of every program apart. -/
theorem reached_fresh (hdevice : KeepsPrograms alive) (hnames : NamesUniforms nameOf)
    (hreached : Reached device config ops r) (hmaterials : r.MaterialsById)
    (htransforms : r.TransformsById) (hown : r.OwnBuffers device config ops)
    (hlights : r.scene.lights.length < 2 ^ 32) {visits : List DrawableId}
    (hvisits : visits.Perm r.drawables.keys) {failures : List CompileFailure}
    {compiled : Renderer δ} (hcompile : r.compileIn visits = .ok (failures, compiled))
    (hfit : compiled.cache.UniformsFit) (order : List DrawableId) (state : GpuState) :
    List.Forall₂ (fun drawing shown ↦ ∃ s e b, compiled.Fresh drawing s e b shown)
      (compiled.drawings order) (state.observeSince (compiled.frameIn order).1) := by
  have hcompiled := (hreached.consistent hdevice).compileIn hdevice hcompile
  have hlights' : compiled.scene.lights.length < 2 ^ 32 := by
    rwa [(sameScene_compileIn hcompile).scene]
  exact hcompiled.fresh_frameIn hnames hfit (fun id s hs ↦ clean_compileIn hvisits hcompile hs)
    (hmaterials.compileIn hcompile) (htransforms.compileIn hcompile) (hown.compileIn hcompile)
    hlights' order state

theorem reached_fresh_twins :
    KeepsPrograms Recorder.Alive ∧
      NamesUniforms (fun (r : Recorder) location ↦ some (r.uniformName location)) ∧
      ∃ r compiled : Renderer Recorder, ∃ failures,
        Reached .standard .standard [.addDrawable (twin ⟨2⟩), .addDrawable (twin ⟨1⟩)] r ∧
          r.MaterialsById ∧ r.TransformsById ∧
          r.OwnBuffers .standard .standard [.addDrawable (twin ⟨2⟩), .addDrawable (twin ⟨1⟩)] ∧
          r.scene.lights.length < 2 ^ 32 ∧
          [⟨1⟩, ⟨2⟩].Perm r.drawables.keys ∧
          r.compileIn [⟨1⟩, ⟨2⟩] = .ok (failures, compiled) ∧ compiled.cache.UniformsFit ∧
          compiled.Ready ⟨1⟩ ∧ compiled.Ready ⟨2⟩ ∧
          List.Forall₂ (fun drawing shown ↦ ∃ s e b, compiled.Fresh drawing s e b shown)
            (compiled.drawings [⟨2⟩, ⟨1⟩])
            (GpuState.empty.observeSince (compiled.frameIn [⟨2⟩, ⟨1⟩]).1) := by
  obtain ⟨r, compiled, failures, b, hreached, hscene, hpaired, hcompile, hfit, hfirst, hsecond⟩ :=
    exists_twins
  have hmaterials := hpaired.materialsById rfl
  have htransforms := hpaired.transformsById rfl
  have hown := hreached.ownBuffers_of_replicate (n := 2) rfl
  have hlights : r.scene.lights.length < 2 ^ 32 := by
    rw [hscene]
    decide
  have hvisits := hpaired.visits
  exact ⟨Recorder.keepsPrograms, Recorder.namesUniforms, r, compiled, failures, hreached,
    hmaterials, htransforms, hown, hlights, hvisits, hcompile, hfit, hfirst, hsecond,
    reached_fresh Recorder.keepsPrograms Recorder.namesUniforms hreached hmaterials htransforms hown
      hlights hvisits hcompile hfit [⟨2⟩, ⟨1⟩] .empty⟩

/-! ### Uniforms that stay unset -/

/-- The program of a drawable declares the uniforms of its vertex stage. -/
theorem declaresUniform_drawKey {δ : Type} {r : Renderer δ} {d : Drawable} {n : Name}
    (hn : n ∈ Shader.globals (vertexRecords (r.featuresOf d) RendererConfig.standard.shaderOptions))
    {type : GlslType} (huniform : n.signature (r.featuresOf d).quantized = some (.uniform, type)) :
    DeclaresUniform RendererConfig.standard.shaderOptions (r.drawKey d) n.text := by
  obtain ⟨source, hsource⟩ := synthesize_ok (o := RendererConfig.standard.shaderOptions)
    (by decide) (r.drawKey d)
  obtain ⟨_, _, hstages, _⟩ := exists_stages_of_synthesize hsource
  exact declaresUniform_of_mem_vertexRecords hstages hn huniform

/-- At some draw of a frame, the program in use declares a uniform and the device has a place for
it, but nothing was uploaded to this place. -/
def LeavesUnset (r : Renderer δ) (order : List DrawableId) (n : Name) : Prop :=
  ∃ shown h e location, shown ∈ GpuState.empty.observeSince (r.frameIn order).1 ∧
    r.cache.entry? h = some e ∧ shown.2 .program = some (.program e.program.id) ∧
    DeclaresUniform r.config.shaderOptions e.key n.text ∧
    e.program.bindings.uniform? n.text = some location ∧ shown.2 (.uniform location) = none

/-- The first draw of the main pass happens after its whole setup. -/
theorem mem_observeSince_frameIn {δ : Type} {r : Renderer δ} {order : List DrawableId}
    {d : ReadyDraw} {rest : List (Except SkipReason ReadyDraw)}
    (hbatch : r.batchIn order = .ok d :: rest) (state : GpuState) :
    (d.buffers.draw, GpuState.empty.after (d.setup r.draws.maxTextureUnits r.globals)) ∈
      state.observeSince (r.frameIn order).1 := by
  obtain ⟨hcommands, _⟩ :
      ((DrawState.start r.draws.maxTextureUnits).draw r.draws.maxTextureUnits r.globals d).1 =
        d.setup r.draws.maxTextureUnits r.globals ++ [d.buffers.draw] ∧ _ :=
    DrawState.draw_fresh (Option.some_ne_none _).symm
  have hpass : r.mainPass order = d.setup r.draws.maxTextureUnits r.globals ++ [d.buffers.draw] ++
      (((DrawState.start r.draws.maxTextureUnits).draw r.draws.maxTextureUnits
        r.globals d).2.drawAll r.draws.maxTextureUnits r.globals rest).1 := by
    rw [mainPass, hbatch, ← hcommands]
    rfl
  rw [frameIn_eq, GpuState.observeSince_append, hpass,
    GpuState.observeSince_prepared _ d.isDraw_setup d.buffers.isDraw_draw, d.since_setup]
  exact List.mem_append_right _ List.mem_cons_self

/-- A matrix that the program of a drawable decodes its geometry with stays unset if the buffers do
not tell it. -/
theorem Lone.exists_leavesUnset {r : Renderer Recorder} {d : Drawable} {b : GeometryBuffers}
    (hr : r.Lone d b) (hconsistent : r.Consistent Recorder.Alive)
    (hdepth : r.depthKey? d = none) {n : Name} (hlevel : n.level = .geometry)
    (hdeclares : DeclaresUniform RendererConfig.standard.shaderOptions (r.drawKey d) n.text)
    (hdecode : ¬ Sets b.decodeUploads n) :
    ∃ compiled failures, r.compileIn [d.id] = .ok (failures, compiled) ∧
      compiled.LeavesUnset [d.id] n := by
  obtain ⟨compiled, failures, ready, e, hcompile, hbatch, rfl, hfits, hentry, hkey, hprogram⟩ :=
    hr.exists_drawn hdepth
  have hcompiled := hconsistent.compileIn Recorder.keepsPrograms hcompile
  have hconfig : compiled.config = .standard :=
    (sameScene_compileIn hcompile).config.trans hr.config
  have hbuilt := hcompiled.programs.built _ e hentry
  rw [hcompiled.options, hconfig] at hbuilt
  rw [← hkey] at hdeclares
  obtain ⟨location, hlocation⟩ := hbuilt.exists_location (hdeclares.mem_uniforms hbuilt.1)
  have hdistinct : ready.program.bindings.Distinct := by
    rw [← hprogram]
    exact hbuilt.distinct Recorder.namesUniforms (hr.uniformsFit hcompiled hcompile _ e hentry)
  have hsound : ready.Sound := ⟨hdistinct, hfits⟩
  refine ⟨compiled, failures, hcompile, _, ready.handle, e, location,
    mem_observeSince_frameIn hbatch _, hentry, ?_, hconfig ▸ hdeclares, hlocation, ?_⟩
  · rw [hprogram]
    exact ((ReadyDraw.settled_setup hsound _).holds hsound).1
  · rw [hprogram] at hlocation
    show (effect _ _).or none = none
    rw [ReadyDraw.effect_setup_eq_none hdistinct
      (ReadyDraw.not_sets_of_level_geometry hdecode hlevel) hlocation]
    rfl

/-- A quantized triangle under the geometry of the twins. -/
def stray : Drawable :=
  let shared := (twin ⟨2⟩).geometry
  { twin ⟨2⟩ with
    geometry :=
      { shared with
        positions := .uint16 [0, 0, 0, 1, 0, 0, 0, 1, 0]
        quantization := some ⟨.identity, none⟩ } }

/-- A twin uploads the geometry and leaves; what remains is the stray. -/
def strayOps : List Operation :=
  [.removeDrawable ⟨1⟩, .addDrawable stray, .addDrawable (twin ⟨1⟩)]

/-- Where equal identities of geometries do not mean equal geometries, the matrix for positions can
stay unset. The stray is drawn with buffers that were uploaded from its twin, and with a program of
its own that decodes positions. -/
theorem exists_unset_positionsDecodeMatrix :
    ∃ (r compiled : Renderer Recorder) (failures : List CompileFailure),
      Reached .standard .standard strayOps r ∧ r.MaterialsById ∧ r.TransformsById ∧
        [stray.id].Perm r.drawables.keys ∧ r.compileIn [stray.id] = .ok (failures, compiled) ∧
        compiled.LeavesUnset [stray.id] .positionsDecodeMatrix := by
  have hrun :
      ∃ (r : Renderer Recorder) (b : GeometryBuffers), Reached .standard .standard strayOps r ∧
        r.Lone stray b ∧ r.depthKey? stray = none ∧ (r.featuresOf stray).quantized = true ∧
        b.decodeUploads = [] :=
    ⟨_, _, .perform (.perform (.perform .new _ rfl) _ rfl) _ rfl, ⟨rfl, rfl, by decide,
      Recorder.Supplies.links ⟨by decide, rfl, rfl, rfl⟩, rfl, rfl⟩, rfl, rfl, rfl⟩
  obtain ⟨r, b, hreached, hlone, hdepth, hquantized, hdecode⟩ := hrun
  have hdeclares := declaresUniform_drawKey ((positionsDecodeMatrix_mem_vertex _ _).mpr hquantized)
    rfl
  obtain ⟨compiled, failures, hcompile, hunset⟩ := hlone.exists_leavesUnset
    (hreached.consistent Recorder.keepsPrograms) hdepth rfl hdeclares (by simp [hdecode])
  exact ⟨r, compiled, failures, hreached, hlone.materialsById, hlone.transformsById, hlone.visits,
    hcompile, hunset⟩

/-- A quantized triangle with a texture, of which only the positions can be decoded. -/
def unscaled : Drawable :=
  { stray with
    geometry :=
      { stray.geometry with
        uv := some (.uint16 [0, 0, 1, 0, 0, 1]) }
    material := .ofSurface ⟨5⟩
      (.phong { PhongSurface.standard with diffuseMap := some ⟨⟨30⟩, none, .linear⟩ }) }

/-- The matrix for texture coordinates is declared for every quantized geometry with a texture, and
uploaded only for those that have one. -/
theorem exists_unset_uvDecodeMatrix :
    ∃ (r compiled : Renderer Recorder) (failures : List CompileFailure),
      Reached .standard .standard [.addDrawable unscaled] r ∧ r.MaterialsById ∧ r.TransformsById ∧
        r.OwnBuffers .standard .standard [.addDrawable unscaled] ∧
        [unscaled.id].Perm r.drawables.keys ∧
        r.compileIn [unscaled.id] = .ok (failures, compiled) ∧
        compiled.LeavesUnset [unscaled.id] .uvDecodeMatrix := by
  have hrun :
      ∃ (r : Renderer Recorder) (b : GeometryBuffers),
        Reached .standard .standard [.addDrawable unscaled] r ∧ r.Lone unscaled b ∧
        r.depthKey? unscaled = none ∧
        ((r.featuresOf unscaled).usesUv ∧ (r.featuresOf unscaled).quantized) ∧
        b.decodeUploads = [.uniform .positionsDecodeMatrix (.mat4 .identity)] :=
    ⟨_, _, .perform .new _ rfl, ⟨rfl, rfl, by decide,
      Recorder.Supplies.links ⟨by decide, rfl, rfl, rfl⟩, rfl, rfl⟩, rfl, ⟨rfl, rfl⟩, rfl⟩
  obtain ⟨r, b, hreached, hlone, hdepth, hreads, hdecode⟩ := hrun
  have hdeclares := declaresUniform_drawKey ((uvDecodeMatrix_mem_vertex _ _).mpr hreads) rfl
  have hown := hreached.ownBuffers_of_replicate (n := 1) rfl
  obtain ⟨compiled, failures, hcompile, hunset⟩ := hlone.exists_leavesUnset
    (hreached.consistent Recorder.keepsPrograms) hdepth rfl hdeclares (by simp [hdecode])
  exact ⟨r, compiled, failures, hreached, hlone.materialsById, hlone.transformsById, hown,
    hlone.visits, hcompile, hunset⟩

/-! ### Uniforms that stay stale -/

/-- At some draw of a frame, the program in use declares a uniform and the device has a place for
it, but what this place holds is given neither by the scene nor by the drawable that is drawn. -/
def LeavesStale (r : Renderer δ) (order : List DrawableId) (n : Name) : Prop :=
  ∃ drawing shown s h e location value,
    (drawing, shown) ∈
        (r.drawings order).zip (GpuState.empty.observeSince (r.frameIn order).1) ∧
      r.drawables.get? drawing.drawable = some s ∧ r.cache.entry? h = some e ∧
      shown.2 .program = some (.program e.program.id) ∧
      DeclaresUniform r.config.shaderOptions e.key n.text ∧
      e.program.bindings.uniform? n.text = some location ∧
      shown.2 (.uniform location) = some (.value value) ∧
      .uniform n value ∉ r.uploadsFor s.drawable drawing.light

/-- The values that uploads have for a uniform. -/
def valuesOf (n : Name) (uploads : List Upload) : List UniformValue :=
  uploads.filterMap fun
    | .uniform m value => if m = n then some value else none
    | .texture .. => none

theorem mem_valuesOf {n : Name} {uploads : List Upload} {value : UniformValue} :
    value ∈ valuesOf n uploads ↔ .uniform n value ∈ uploads := by
  rw [valuesOf, List.mem_filterMap]
  constructor
  · rintro ⟨upload, hmem, hvalue⟩
    cases upload with
    | texture => cases hvalue
    | uniform m given =>
      obtain ⟨rfl, hgiven⟩ := Option.ite_none_right_eq_some.mp hvalue
      exact Option.some.inj hgiven ▸ hmem
  · exact fun hmem ↦ ⟨_, hmem, if_pos rfl⟩

theorem uploadsFor_compileIn {visits : List DrawableId} {failures : List CompileFailure}
    {compiled : Renderer δ} (hcompile : r.compileIn visits = .ok (failures, compiled))
    (d : Drawable) (light : Option Light) : compiled.uploadsFor d light = r.uploadsFor d light :=
  compileIn_keeps (·.uploadsFor d light) (fun r r' id failures hnow ↦ by
    rcases compileDrawable_ok hnow with ⟨_, rfl⟩ | ⟨_, _, _, _, _, _, rfl⟩ <;> rfl) hcompile

/-- In a frame without shadows, a draw that calls everything by the names of the draw before finds
what that one had set. -/
theorem observeSince_frameIn_repeated {δ : Type} {r : Renderer δ} {order : List DrawableId}
    (hmaps : r.shadows.maps = []) {d d' : ReadyDraw} (hbatch : r.batchIn order = [.ok d, .ok d'])
    (hhandle : d'.handle = d.handle) (hmaterial : d'.material.id = d.material.id)
    (htransform : d'.transform.id = d.transform.id) (hgeometry : d'.geometry = d.geometry)
    (state : GpuState) :
    let settled := GpuState.empty.after (d.setup r.draws.maxTextureUnits r.globals)
    state.observeSince (r.frameIn order).1 =
      [(d.buffers.draw, settled), (d'.buffers.draw, settled)] := by
  have hprelude : ∀ c ∈ r.preludeIn order, c.isDraw = false := by
    simp [preludeIn, ShadowRenderer.render, hmaps, Command.isDraw]
  obtain ⟨hfirst, htracks⟩ :
      ((DrawState.start r.draws.maxTextureUnits).draw r.draws.maxTextureUnits r.globals d).1 =
        d.setup r.draws.maxTextureUnits r.globals ++ [d.buffers.draw] ∧ _ :=
    DrawState.draw_fresh (Option.some_ne_none _).symm
  have hsecond := DrawState.draw_repeated htracks hhandle hmaterial htransform hgeometry
  have hpass : r.mainPass order = d.setup r.draws.maxTextureUnits r.globals ++ [d.buffers.draw] ++
      ([] ++ [d'.buffers.draw] ++ []) := by
    rw [mainPass, hbatch, ← hfirst, List.nil_append, ← hsecond]
    rfl
  intro settled
  rw [frameIn_eq, GpuState.observeSince_append, GpuState.observeSince_eq_nil _ hprelude, hpass,
    List.nil_append, GpuState.observeSince_prepared _ d.isDraw_setup d.buffers.isDraw_draw,
    GpuState.observeSince_prepared _ (List.forall_mem_nil _) d'.buffers.isDraw_draw, d.since_setup]
  rfl

/-- Where two drawables share the names of their materials and transforms, the second is drawn with
what the first has uploaded. -/
theorem Paired.exists_leavesStale {r : Renderer Recorder} {d d' : Drawable} {b : GeometryBuffers}
    (hr : r.Paired d d' b) (hconsistent : r.Consistent Recorder.Alive)
    (hmaterial : d'.material.id = d.material.id) (htransform : d'.transform.id = d.transform.id)
    (hdecode : b.decodeUploads = d.geometry.decodeUploads) {n : Name}
    (hdeclares : DeclaresUniform RendererConfig.standard.shaderOptions (r.drawKey d) n.text)
    {value : UniformValue} (hfirst : valuesOf n (r.uploadsFor d none) = [value])
    (hsecond : value ∉ valuesOf n (r.uploadsFor d' none)) :
    ∃ compiled failures, r.compileIn [d.id, d'.id] = .ok (failures, compiled) ∧
      compiled.LeavesStale [d.id, d'.id] n := by
  obtain ⟨compiled, failures, s, s', e, p, p', hcompile, hmaps, hbatch, hdrawings, rfl, hdraws, rfl,
    hid, hdraws', hhandle⟩ := hr.exists_drawn hmaterial htransform
  have hcompiled := hconsistent.compileIn Recorder.keepsPrograms hcompile
  have hconfig : compiled.config = .standard :=
    (sameScene_compileIn hcompile).config.trans hr.config
  have hbuilt := hcompiled.programs.built _ e hdraws.entry
  rw [hcompiled.options, hconfig] at hbuilt
  have hkey : e.key = r.drawKey s.drawable :=
    hdraws.key.trans ((sameScene_compileIn hcompile).drawKey_eq _)
  rw [← hkey] at hdeclares
  obtain ⟨location, hlocation⟩ := hbuilt.exists_location (hdeclares.mem_uniforms hbuilt.1)
  have hdistinct : e.program.bindings.Distinct :=
    hbuilt.distinct Recorder.namesUniforms (hr.uniformsFit hcompiled hcompile _ e hdraws.entry)
  have hprogram : p.2.program = e.program := by rw [hdraws.ready]
  have hsound : p.2.Sound := by
    refine ⟨hprogram ▸ hdistinct, ?_⟩
    rw [hdraws.ready]
    exact fits_classify _ _ _ _ _ _
  obtain ⟨huse, hholds⟩ := (ReadyDraw.settled_setup (g := compiled.globals) hsound .empty).holds
    hsound
  have huploads : p.2.uploads compiled.draws.maxTextureUnits compiled.globals =
      r.uploadsFor s.drawable none := by
    rw [← uploadsFor_compileIn hcompile, hdraws.ready]
    show _ ++ b.decodeUploads = _
    rw [hdecode]
    rfl
  rw [huploads, hprogram] at hholds
  rw [hprogram] at huse
  have hgiven : .uniform n value ∈ r.uploadsFor s.drawable none :=
    mem_valuesOf.mp (hfirst ▸ List.mem_singleton_self _)
  obtain ⟨held, hheld, hstate⟩ := hholds n value location hgiven hlocation
  obtain rfl : held = value := List.mem_singleton.mp (hfirst ▸ mem_valuesOf.mpr hheld)
  let settled := GpuState.empty.after (p.2.setup compiled.draws.maxTextureUnits compiled.globals)
  refine ⟨compiled, failures, hcompile, ⟨s'.drawable.id, none⟩, (p'.2.buffers.draw, settled), s',
    p.2.handle, e, location, held, ?_, hid ▸ hdraws'.drawable, hdraws.entry, huse,
    hconfig ▸ hdeclares, hlocation, hstate, ?_⟩
  · rw [hdrawings, observeSince_frameIn_repeated ?_ hbatch hhandle]
    · exact List.mem_cons_of_mem _ List.mem_cons_self
    · rw [hdraws'.ready, hdraws.ready]
      exact hmaterial
    · rw [hdraws'.ready, hdraws.ready]
      exact htransform
    · rw [hdraws'.ready, hdraws.ready]
      exact hr.geometry
    · exact hmaps
  · rw [uploadsFor_compileIn hcompile, ← mem_valuesOf]
    exact hsecond

/-- A twin as a point, of some size under the name of the one material. -/
def dot (id : DrawableId) (pointSize : Float32) : Drawable :=
  let triangle := twin id
  { triangle with
    geometry := { triangle.geometry with topology := .points }
    material := { triangle.material with pointSize } }

theorem drawKey_dot {δ : Type} (r : Renderer δ) (id id' : DrawableId) (size size' : Float32) :
    r.drawKey (dot id size) = r.drawKey (dot id' size') :=
  rfl

/-- Two points with one name of their materials. -/
def dotOps : List Operation := [.addDrawable (dot ⟨2⟩ 8.0), .addDrawable (dot ⟨1⟩ 2.0)]

/-- Where equal identities of materials do not mean equal materials, a point is drawn in the size of
another. -/
theorem exists_stale_pointSize :
    ∃ (r compiled : Renderer Recorder) (failures : List CompileFailure),
      Reached .standard .standard dotOps r ∧ r.TransformsById ∧
        r.OwnBuffers .standard .standard dotOps ∧ [⟨1⟩, ⟨2⟩].Perm r.drawables.keys ∧
        r.compileIn [⟨1⟩, ⟨2⟩] = .ok (failures, compiled) ∧
        compiled.LeavesStale [⟨1⟩, ⟨2⟩] .pointSize := by
  have hrun :
      ∃ (r : Renderer Recorder) (b : GeometryBuffers), Reached .standard .standard dotOps r ∧
        r.Paired (dot ⟨1⟩ 2.0) (dot ⟨2⟩ 8.0) b ∧ (r.featuresOf (dot ⟨1⟩ 2.0)).isPoints = true ∧
        b.decodeUploads = (dot ⟨1⟩ 2.0).geometry.decodeUploads ∧
        valuesOf .pointSize (r.uploadsFor (dot ⟨1⟩ 2.0) none) = [.float 2.0] ∧
        valuesOf .pointSize (r.uploadsFor (dot ⟨2⟩ 8.0) none) = [.float 8.0] :=
    ⟨_, _, .perform (.perform .new _ rfl) _ rfl, ⟨rfl, rfl, by decide, rfl,
      Recorder.Supplies.links ⟨by decide, rfl, rfl, rfl⟩, rfl, drawKey_dot .., fun _ ↦ rfl, rfl,
      rfl⟩, rfl, rfl, rfl, rfl⟩
  obtain ⟨r, b, hreached, hpaired, hpoints, hdecode, hfirst, hsecond⟩ := hrun
  have hown := hreached.ownBuffers_of_replicate (n := 2) rfl
  have hne : (2.0 : Float32) ≠ 8.0 := by decide +kernel
  obtain ⟨compiled, failures, hcompile, hstale⟩ := hpaired.exists_leavesStale
    (hreached.consistent Recorder.keepsPrograms) rfl rfl hdecode
    (declaresUniform_drawKey ((pointSize_mem_vertex _ _).mpr hpoints) rfl) hfirst
    (by simp [hsecond, hne])
  exact ⟨r, compiled, failures, hreached, hpaired.transformsById rfl, hown, hpaired.visits,
    hcompile, hstale⟩

/-- A twin somewhere along an axis, under the name of the one transform. -/
def placed (id : DrawableId) (x : Float32) : Drawable :=
  { twin id with transform := ⟨⟨3⟩, .displacement ⟨x, 0.0, 0.0⟩⟩ }

theorem drawKey_placed {δ : Type} (r : Renderer δ) (id id' : DrawableId) (x x' : Float32) :
    r.drawKey (placed id x) = r.drawKey (placed id' x') :=
  rfl

/-- Two triangles with one name of their transforms. -/
def placedOps : List Operation := [.addDrawable (placed ⟨2⟩ 1.0), .addDrawable (placed ⟨1⟩ 0.0)]

/-- Where equal identities of transforms do not mean equal transforms, a drawable is drawn in the
place of another. -/
theorem exists_stale_modelMatrix :
    ∃ (r compiled : Renderer Recorder) (failures : List CompileFailure),
      Reached .standard .standard placedOps r ∧ r.MaterialsById ∧
        r.OwnBuffers .standard .standard placedOps ∧ [⟨1⟩, ⟨2⟩].Perm r.drawables.keys ∧
        r.compileIn [⟨1⟩, ⟨2⟩] = .ok (failures, compiled) ∧
        compiled.LeavesStale [⟨1⟩, ⟨2⟩] .modelMatrix := by
  have hrun :
      ∃ (r : Renderer Recorder) (b : GeometryBuffers), Reached .standard .standard placedOps r ∧
        r.Paired (placed ⟨1⟩ 0.0) (placed ⟨2⟩ 1.0) b ∧
        b.decodeUploads = (placed ⟨1⟩ 0.0).geometry.decodeUploads ∧
        valuesOf .modelMatrix (r.uploadsFor (placed ⟨1⟩ 0.0) none) =
          [.mat4 (.displacement ⟨0.0, 0.0, 0.0⟩)] ∧
        valuesOf .modelMatrix (r.uploadsFor (placed ⟨2⟩ 1.0) none) =
          [.mat4 (.displacement ⟨1.0, 0.0, 0.0⟩)] :=
    ⟨_, _, .perform (.perform .new _ rfl) _ rfl, ⟨rfl, rfl, by decide, rfl,
      Recorder.Supplies.links ⟨by decide, rfl, rfl, rfl⟩, rfl, drawKey_placed .., fun _ ↦ rfl, rfl,
      rfl⟩, rfl, rfl, rfl⟩
  obtain ⟨r, b, hreached, hpaired, hdecode, hfirst, hsecond⟩ := hrun
  have hown := hreached.ownBuffers_of_replicate (n := 2) rfl
  have hne : (0.0 : Float32) ≠ 1.0 := by decide +kernel
  obtain ⟨compiled, failures, hcompile, hstale⟩ := hpaired.exists_leavesStale
    (hreached.consistent Recorder.keepsPrograms) rfl rfl hdecode
    (declaresUniform_drawKey (modelMatrix_mem_vertex _ _) rfl) hfirst
    (by simp [hsecond, Mat4.displacement, hne])
  exact ⟨r, compiled, failures, hreached, hpaired.materialsById rfl, hown, hpaired.visits,
    hcompile, hstale⟩

/-- A uniform can be other than fresh in four ways: with geometries, with materials and with
transforms that share an identity, and for want of a matrix for texture coordinates. -/
theorem exists_not_fresh :
    (∃ (r compiled : Renderer Recorder) (failures : List CompileFailure),
      Reached .standard .standard strayOps r ∧ r.MaterialsById ∧ r.TransformsById ∧
        [stray.id].Perm r.drawables.keys ∧ r.compileIn [stray.id] = .ok (failures, compiled) ∧
        compiled.LeavesUnset [stray.id] .positionsDecodeMatrix) ∧
    (∃ (r compiled : Renderer Recorder) (failures : List CompileFailure),
      Reached .standard .standard [.addDrawable unscaled] r ∧ r.MaterialsById ∧ r.TransformsById ∧
        r.OwnBuffers .standard .standard [.addDrawable unscaled] ∧
        [unscaled.id].Perm r.drawables.keys ∧
        r.compileIn [unscaled.id] = .ok (failures, compiled) ∧
        compiled.LeavesUnset [unscaled.id] .uvDecodeMatrix) ∧
    (∃ (r compiled : Renderer Recorder) (failures : List CompileFailure),
      Reached .standard .standard dotOps r ∧ r.TransformsById ∧
        r.OwnBuffers .standard .standard dotOps ∧ [⟨1⟩, ⟨2⟩].Perm r.drawables.keys ∧
        r.compileIn [⟨1⟩, ⟨2⟩] = .ok (failures, compiled) ∧
        compiled.LeavesStale [⟨1⟩, ⟨2⟩] .pointSize) ∧
    ∃ (r compiled : Renderer Recorder) (failures : List CompileFailure),
      Reached .standard .standard placedOps r ∧ r.MaterialsById ∧
        r.OwnBuffers .standard .standard placedOps ∧ [⟨1⟩, ⟨2⟩].Perm r.drawables.keys ∧
        r.compileIn [⟨1⟩, ⟨2⟩] = .ok (failures, compiled) ∧
        compiled.LeavesStale [⟨1⟩, ⟨2⟩] .modelMatrix :=
  ⟨exists_unset_positionsDecodeMatrix, exists_unset_uvDecodeMatrix, exists_stale_pointSize,
    exists_stale_modelMatrix⟩

end Renderer

end SceneRenderer
