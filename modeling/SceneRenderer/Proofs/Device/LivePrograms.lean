import SceneRenderer.Frame.Shadow

/-!
What the program cache relies on of a device: the identity of a new program is not that of a program
which is still alive, and a program lives until it is deleted. The cache tells the device to delete
programs; no other part of the renderer does.
-/

set_option autoImplicit false
set_option relaxedAutoImplicit false

namespace SceneRenderer

open Shader

/-- The programs of a device, told apart by their identities as long as they live. -/
structure KeepsPrograms {δ : Type} [Device δ] (alive : δ → ProgramId → Prop) : Prop where
  /-- A new program is alive, and was not before. -/
  created : ∀ device vertex fragment attributes id device',
    Device.createProgram device vertex fragment attributes = (.ok id, device') →
      ¬ alive device id ∧ alive device' id
  createProgram : ∀ device vertex fragment attributes id, alive device id →
    alive (Device.createProgram device vertex fragment attributes).2 id
  uniformLocation : ∀ device program name id, alive device id →
    alive (Device.uniformLocation device program name).2 id
  attributeLocation : ∀ device program name id, alive device id →
    alive (Device.attributeLocation device program name).2 id
  createBuffer : ∀ device target data id, alive device id →
    alive (Device.createBuffer device target data).2 id
  createTexture : ∀ device width height pixels id, alive device id →
    alive (Device.createTexture device width height pixels).2 id
  createRenderTarget : ∀ device width height color id, alive device id →
    alive (Device.createRenderTarget device width height color).2 id
  /-- Only its deletion ends a program. -/
  submit : ∀ device command id, command ≠ .deleteProgram id → alive device id →
    alive (Device.submit device command) id

/-! ### Commands -/

/-- A command that deletes no program. -/
def Command.SparesPrograms : Command → Prop
  | .deleteProgram _ => False
  | _ => True

/-- A command that deletes nothing. -/
def Command.SparesObjects : Command → Prop
  | .deleteProgram _ | .deleteBuffer _ | .deleteTexture _ | .deleteRenderTarget _ => False
  | _ => True

theorem Command.SparesObjects.sparesPrograms {c : Command} (hc : c.SparesObjects) :
    c.SparesPrograms := by
  cases c <;> first | exact hc.elim | trivial

namespace ProgramBindings

theorem sparesObjects_uploadAll (b : ProgramBindings) (uploads : List Upload) :
    ∀ c ∈ b.uploadAll uploads, c.SparesObjects := by
  intro c hc
  obtain ⟨upload, _, hupload⟩ := List.mem_flatMap.mp hc
  cases upload with
  | uniform name value =>
    change c ∈ b.set name.text value at hupload
    unfold set at hupload
    split at hupload
    · rw [List.mem_singleton.mp hupload]
      trivial
    · exact absurd hupload List.not_mem_nil
  | texture unit target texture =>
    rw [List.mem_singleton.mp hupload]
    trivial

end ProgramBindings

namespace GeometryBuffers

variable (b : GeometryBuffers)

theorem sparesPrograms_deleteAll (buffers : List AttributeBuffer) :
    ∀ c ∈ deleteAll buffers, c.SparesPrograms := by
  intro c hc
  obtain ⟨buffer, _, rfl⟩ := List.mem_map.mp hc
  trivial

theorem sparesPrograms_destroy : ∀ c ∈ b.destroy, c.SparesPrograms := by
  intro c hc
  rcases List.mem_append.mp hc with hc | hc
  · exact sparesPrograms_deleteAll _ c hc
  · obtain ⟨index, _, rfl⟩ := List.mem_map.mp hc
    trivial

theorem sparesObjects_draw : b.draw.SparesObjects := by
  unfold draw
  split <;> trivial

theorem sparesObjects_bindGeometry (bindings : ProgramBindings) :
    ∀ c ∈ bindGeometry bindings b, c.SparesObjects := by
  intro c hc
  rcases List.mem_append.mp hc with hc | hc
  · rcases List.mem_append.mp hc with hc | hc
    · obtain ⟨a, _, rfl⟩ := List.mem_map.mp hc
      unfold bindAttribute
      split <;> trivial
    · obtain ⟨index, _, rfl⟩ := List.mem_map.mp hc
      trivial
  · exact bindings.sparesObjects_uploadAll _ c hc

end GeometryBuffers

theorem RenderTarget.sparesPrograms_destroy (t : RenderTarget) :
    ∀ c ∈ t.destroy, c.SparesPrograms := by
  intro c hc
  simp only [destroy, List.mem_cons, List.not_mem_nil, or_false] at hc
  rcases hc with rfl | rfl <;> trivial

namespace DrawState

variable (maxTextureUnits : UInt32) (g : FrameGlobals)

theorem sparesObjects_draw (d : ReadyDraw) (s : DrawState) :
    ∀ c ∈ (s.draw maxTextureUnits g d).1, c.SparesObjects := by
  intro c hc
  simp only [draw, List.mem_append, List.mem_singleton] at hc
  rcases hc with (((hc | hc) | hc) | hc) | rfl
  · unfold bindProgram at hc
    split at hc
    · exact absurd hc List.not_mem_nil
    · rcases List.mem_cons.mp hc with rfl | hc
      · trivial
      · exact d.program.bindings.sparesObjects_uploadAll _ c hc
  · unfold bindMaterial at hc
    split at hc
    · exact absurd hc List.not_mem_nil
    · exact d.program.bindings.sparesObjects_uploadAll _ c hc
  · unfold bindTransform at hc
    split at hc
    · exact absurd hc List.not_mem_nil
    · exact d.program.bindings.sparesObjects_uploadAll _ c hc
  · unfold bindGeometry at hc
    split at hc
    · exact absurd hc List.not_mem_nil
    · exact d.buffers.sparesObjects_bindGeometry _ c hc
  · exact d.buffers.sparesObjects_draw

theorem sparesObjects_drawAll (s : DrawState) (draws : List (Except SkipReason ReadyDraw)) :
    ∀ c ∈ (s.drawAll maxTextureUnits g draws).1, c.SparesObjects := by
  induction draws generalizing s with
  | nil => exact fun c hc ↦ absurd hc List.not_mem_nil
  | cons draw rest ih =>
    cases draw with
    | error reason => exact ih s.skip
    | ok d =>
      intro c hc
      rcases List.mem_append.mp hc with hc | hc
      · exact sparesObjects_draw maxTextureUnits g d s c hc
      · exact ih _ c hc

end DrawState

namespace CastState

theorem sparesObjects_draw (light : Light) (caster : ReadyCaster) (s : CastState) :
    ∀ c ∈ (s.draw light caster).1, c.SparesObjects := by
  intro c hc
  simp only [draw, List.mem_append, List.mem_singleton] at hc
  rcases hc with (((hc | hc) | hc) | hc) | rfl
  · unfold bindProgram at hc
    split at hc
    · exact absurd hc List.not_mem_nil
    · rcases List.mem_cons.mp hc with rfl | hc
      · trivial
      · exact caster.program.bindings.sparesObjects_uploadAll _ c hc
  · unfold bindTransform at hc
    split at hc
    · exact absurd hc List.not_mem_nil
    · exact caster.program.bindings.sparesObjects_uploadAll _ c hc
  · unfold bindGeometry at hc
    split at hc
    · exact absurd hc List.not_mem_nil
    · exact caster.buffers.sparesObjects_bindGeometry _ c hc
  · exact caster.program.bindings.sparesObjects_uploadAll _ c hc
  · exact caster.buffers.sparesObjects_draw

theorem sparesObjects_drawAll (light : Light) (s : CastState)
    (casters : List (Option ReadyCaster)) :
    ∀ c ∈ (s.drawAll light casters).1, c.SparesObjects := by
  induction casters generalizing s with
  | nil => exact fun c hc ↦ absurd hc List.not_mem_nil
  | cons caster rest ih =>
    cases caster with
    | none => exact ih s.skip
    | some caster =>
      intro c hc
      rcases List.mem_append.mp hc with hc | hc
      · exact sparesObjects_draw light caster s c hc
      · exact ih _ c hc

end CastState

namespace ShadowRenderer

theorem sparesObjects_renderMap (casters : List (Option ReadyCaster)) (lights : List Light)
    (stats : FrameStats) (m : ShadowMap) :
    ∀ c ∈ (renderMap casters lights stats m).1, c.SparesObjects := by
  unfold renderMap
  split
  · exact fun c hc ↦ absurd hc List.not_mem_nil
  · rename_i light _
    intro c hc
    rcases List.mem_append.mp hc with hc | hc
    · simp only [RenderTarget.bind, List.cons_append, List.nil_append, List.mem_cons,
        List.not_mem_nil, or_false] at hc
      rcases hc with rfl | rfl | rfl <;> trivial
    · exact CastState.sparesObjects_drawAll light _ casters c hc

theorem sparesObjects_renderMaps (casters : List (Option ReadyCaster)) (lights : List Light)
    (stats : FrameStats) (maps : List ShadowMap) :
    ∀ c ∈ (renderMaps casters lights stats maps).1, c.SparesObjects := by
  induction maps generalizing stats with
  | nil => exact fun c hc ↦ absurd hc List.not_mem_nil
  | cons m rest ih =>
    intro c hc
    rcases List.mem_append.mp hc with hc | hc
    · exact sparesObjects_renderMap casters lights stats m c hc
    · exact ih _ c hc

theorem sparesObjects_render (r : ShadowRenderer) (cache : ProgramCache) (lights : List Light)
    (casters : List ShadowCaster) : ∀ c ∈ (r.render cache lights casters).1, c.SparesObjects := by
  unfold render
  split
  · exact fun c hc ↦ absurd hc List.not_mem_nil
  · intro c hc
    rcases List.mem_append.mp hc with hc | hc
    · exact sparesObjects_renderMaps _ lights _ _ c hc
    · rw [List.mem_singleton.mp hc]
      trivial

/-! ### Shadow maps and lights -/

variable {δ : Type} [Device δ] {s s' : ShadowRenderer} {device device' : δ} {lights : List Light}

/-- The maps of lights that cast a shadow. -/
def keptFor (s : ShadowRenderer) (lights : List Light) : ShadowRenderer :=
  { s with maps := s.maps.filter fun m ↦ (castingLights lights).contains m.light }

/-- The maps of other lights. -/
def droppedFor (s : ShadowRenderer) (lights : List Light) : List ShadowMap :=
  s.maps.filter fun m ↦ !(castingLights lights).contains m.light

/-- Maps of other lights go first; then those that are missing are created, as far as that
succeeds. -/
def createdFor (s : ShadowRenderer) (device : δ) (lights : List Light) :
    Except DeviceError Unit × ShadowRenderer × δ :=
  (s.keptFor lights).createMaps
    (Device.submitAll device ((s.droppedFor lights).flatMap (·.target.destroy)))
    (castingLights lights)

/-- Maps that are all there are put in order. -/
theorem sync_eq (s : ShadowRenderer) (device : δ) (lights : List Light) :
    s.sync device lights =
      match s.createdFor device lights with
      | (.error e, s', device') => (.error e, s', device')
      | (.ok (), s', device') =>
        (.ok (), { s' with maps := sortByKey (fun m ↦ [m.light]) s'.maps }, device') := by
  unfold sync
  simp only [List.partition_eq_filter_filter]
  rfl

theorem sync_of_error {e : DeviceError}
    (hcreated : s.createdFor device lights = (.error e, s', device')) :
    s.sync device lights = (.error e, s', device') := by rw [sync_eq, hcreated]

theorem sync_of_ok (hcreated : s.createdFor device lights = (.ok (), s', device')) :
    s.sync device lights =
      (.ok (), { s' with maps := sortByKey (fun m ↦ [m.light]) s'.maps }, device') := by
  rw [sync_eq, hcreated]

/-- Order aside, a change of the lights leaves what was created. -/
theorem sync_cases (s : ShadowRenderer) (device : δ) (lights : List Light) :
    (s.sync device lights).1 = (s.createdFor device lights).1 ∧
      (s.sync device lights).2.1.mapSize = (s.createdFor device lights).2.1.mapSize ∧
      (s.sync device lights).2.1.maps.Perm (s.createdFor device lights).2.1.maps ∧
      (s.sync device lights).2.2 = (s.createdFor device lights).2.2 := by
  rcases hcreated : s.createdFor device lights with ⟨e | _, s', device'⟩
  · rw [sync_of_error hcreated]
    exact ⟨rfl, rfl, .refl _, rfl⟩
  · rw [sync_of_ok hcreated]
    exact ⟨rfl, rfl, List.mergeSort_perm _ _, rfl⟩

theorem device_sync (s : ShadowRenderer) (device : δ) (lights : List Light) :
    (s.sync device lights).2.2 = (s.createdFor device lights).2.2 :=
  (s.sync_cases device lights).2.2.2

end ShadowRenderer

/-! ### Calls -/

/-- Every program that is alive on one device is alive on the other. -/
def Outlives {δ : Type} (alive : δ → ProgramId → Prop) (device device' : δ) : Prop :=
  ∀ id, alive device id → alive device' id

namespace Outlives

variable {δ : Type} {alive : δ → ProgramId → Prop}

theorem refl (device : δ) : Outlives alive device device := fun _ hid ↦ hid

theorem trans {first second third : δ} (hfirst : Outlives alive first second)
    (hsecond : Outlives alive second third) : Outlives alive first third :=
  fun id hid ↦ hsecond id (hfirst id hid)

theorem askAll {κ ν : Type} [DecidableEq κ] {ask : δ → κ → Option ν × δ}
    (hask : ∀ device k, Outlives alive device (ask device k).2) (device : δ) (keys : List κ) :
    Outlives alive device (LinkedProgram.askAll ask device keys).2 :=
  LinkedProgram.askAll_keeps ask (fun d k hd ↦ hd.trans (hask d k)) keys (refl device)

end Outlives

namespace KeepsPrograms

variable {δ : Type} [Device δ] {alive : δ → ProgramId → Prop}

theorem submitAll (hdevice : KeepsPrograms alive) {commands : List Command}
    (hspares : ∀ c ∈ commands, c.SparesPrograms) (device : δ) :
    Outlives alive device (Device.submitAll device commands) := by
  induction commands generalizing device with
  | nil => exact .refl device
  | cons command rest ih =>
    have hcommand := hspares command List.mem_cons_self
    have hfirst : Outlives alive device (Device.submit device command) := by
      refine fun id hid ↦ hdevice.submit device command id ?_ hid
      rintro rfl
      exact hcommand
    exact hfirst.trans (ih (fun c hc ↦ hspares c (List.mem_cons_of_mem _ hc)) _)

/-- A linked program is new, and every other program lives on. -/
theorem link (hdevice : KeepsPrograms alive) (device : δ) (source : ProgramSource) :
    Outlives alive device (LinkedProgram.link device source).2 ∧
      ∀ p device', LinkedProgram.link device source = (.ok p, device') →
        ¬ alive device p.id ∧ alive device' p.id := by
  have hcreate := hdevice.createProgram device (source.stageText .vertex)
    (source.stageText .fragment) LinkedProgram.attributeSlots
  unfold LinkedProgram.link
  rcases hcreated : Device.createProgram device (source.stageText .vertex)
    (source.stageText .fragment) LinkedProgram.attributeSlots with ⟨e | id, created⟩
  · rw [hcreated] at hcreate
    exact ⟨hcreate, fun p device' hlink ↦ absurd (Prod.mk.inj hlink).1 nofun⟩
  · rw [hcreated] at hcreate
    have hasked : Outlives alive created (LinkedProgram.askAll
        (fun d a ↦ Device.attributeLocation d id (vertexAttributeName a))
        (LinkedProgram.askAll (fun d name ↦ Device.uniformLocation d id name) created
          source.uniforms).2 VertexAttribute.all).2 :=
      (Outlives.askAll (fun d name ↦ hdevice.uniformLocation d id name) _ _).trans
        (Outlives.askAll (fun d a ↦ hdevice.attributeLocation d id _) _ _)
    refine ⟨fun other hother ↦ hasked other (hcreate other hother), ?_⟩
    intro p device' hlink
    obtain ⟨hp, rfl⟩ := Prod.mk.inj hlink
    cases hp
    obtain ⟨hnew, hlive⟩ := hdevice.created _ _ _ _ id created hcreated
    exact ⟨hnew, hasked id hlive⟩

theorem uploadArrays (hdevice : KeepsPrograms alive) (quantized : Bool) (device : δ)
    (done : List AttributeBuffer) (arrays : List (VertexAttribute × VertexArray)) :
    Outlives alive device (GeometryBuffers.uploadArrays quantized device done arrays).2 := by
  induction arrays generalizing device done with
  | nil => exact .refl device
  | cons array rest ih =>
    obtain ⟨a, array⟩ := array
    unfold GeometryBuffers.uploadArrays
    have hcreate : Outlives alive device _ := hdevice.createBuffer device .vertex array.bytes
    rcases hcreated : Device.createBuffer device .vertex array.bytes with ⟨e | buffer, created⟩
    · rw [hcreated] at hcreate
      exact hcreate.trans
        (hdevice.submitAll (GeometryBuffers.sparesPrograms_deleteAll done) created)
    · rw [hcreated] at hcreate
      exact hcreate.trans (ih created _)

theorem uploadIndices (hdevice : KeepsPrograms alive) (device : δ) (g : Geometry) :
    Outlives alive device (GeometryBuffers.uploadIndices device g).2 := by
  unfold GeometryBuffers.uploadIndices
  split
  · exact .refl device
  · rename_i indices _
    have hcreate : Outlives alive device _ := hdevice.createBuffer device .index indices.bytes
    rcases hcreated : Device.createBuffer device .index indices.bytes with ⟨e | buffer, created⟩
    · rwa [hcreated] at hcreate
    · rwa [hcreated] at hcreate

theorem upload (hdevice : KeepsPrograms alive) (device : δ) (g : Geometry) :
    Outlives alive device (GeometryBuffers.upload device g).2 := by
  unfold GeometryBuffers.upload
  split
  · exact .refl device
  · have harrays := hdevice.uploadArrays g.isQuantized device [] g.uploads
    rcases harray : GeometryBuffers.uploadArrays g.isQuantized device [] g.uploads with
      ⟨e | attributes, uploaded⟩
    · rwa [harray] at harrays
    · rw [harray] at harrays
      have hindices := hdevice.uploadIndices uploaded g
      dsimp only
      rcases hindex : GeometryBuffers.uploadIndices uploaded g with ⟨e | index, device'⟩
      · rw [hindex] at hindices
        exact (harrays.trans hindices).trans
          (hdevice.submitAll (GeometryBuffers.sparesPrograms_deleteAll attributes) device')
      · rw [hindex] at hindices
        exact harrays.trans hindices

theorem createTarget (hdevice : KeepsPrograms alive) (device : δ) (width height : UInt32) :
    Outlives alive device (RenderTarget.create device width height).2 := by
  unfold RenderTarget.create
  have htexture : Outlives alive device _ := hdevice.createTexture device width height none
  rcases hcreated : Device.createTexture device width height none with ⟨e | color, created⟩
  · rwa [hcreated] at htexture
  · rw [hcreated] at htexture
    have htarget : Outlives alive created _ :=
      hdevice.createRenderTarget created width height color
    dsimp only
    rcases hcreate : Device.createRenderTarget created width height color with ⟨e | id, device'⟩
    · rw [hcreate] at htarget
      exact htexture.trans (htarget.trans fun other ↦ hdevice.submit device' _ other nofun)
    · rw [hcreate] at htarget
      exact htexture.trans htarget

theorem createMaps (hdevice : KeepsPrograms alive) (r : ShadowRenderer) (device : δ)
    (lights : List UInt32) : Outlives alive device (r.createMaps device lights).2.2 := by
  induction lights generalizing r device with
  | nil => exact .refl device
  | cons light rest ih =>
    unfold ShadowRenderer.createMaps
    split
    · exact ih r device
    · have hcreate := hdevice.createTarget device r.mapSize r.mapSize
      rcases hcreated : RenderTarget.create device r.mapSize r.mapSize with ⟨e | target, created⟩
      · rwa [hcreated] at hcreate
      · rw [hcreated] at hcreate
        exact hcreate.trans (ih _ created)

theorem sync (hdevice : KeepsPrograms alive) (r : ShadowRenderer) (device : δ)
    (lights : List Light) : Outlives alive device (r.sync device lights).2.2 := by
  have hspares : ∀ c ∈ (r.droppedFor lights).flatMap (·.target.destroy), c.SparesPrograms := by
    intro c hc
    obtain ⟨m, _, hm⟩ := List.mem_flatMap.mp hc
    exact m.target.sparesPrograms_destroy c hm
  rw [ShadowRenderer.device_sync]
  exact (hdevice.submitAll hspares device).trans (hdevice.createMaps _ _ _)

end KeepsPrograms

end SceneRenderer
