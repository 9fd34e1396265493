import SceneRenderer.Proofs.Device.NumberedObjects
import SceneRenderer.Proofs.Program.CacheSound

/-!
What the calls of a device keep, everything that the renderer does to its device keeps: linking
programs, uploading geometries, making room for shadow maps. Beside its programs the renderer only
creates buffers, textures and render targets and deletes them again (`KeptByResources`).

Of this kind is that a device is spent. `CreatesTargets` says that nothing but this stands in the
way of a texture or a render target.
-/

set_option autoImplicit false
set_option relaxedAutoImplicit false

namespace SceneRenderer

open Shader

/-- A property that no call of a device ends. -/
structure KeptByCalls {δ : Type} [Device δ] (p : δ → Prop) : Prop where
  createProgram : ∀ (device : δ) vertex fragment attributes, p device →
    p (Device.createProgram device vertex fragment attributes).2
  uniformLocation : ∀ (device : δ) program name, p device →
    p (Device.uniformLocation device program name).2
  attributeLocation : ∀ (device : δ) program name, p device →
    p (Device.attributeLocation device program name).2
  createBuffer : ∀ (device : δ) target data, p device →
    p (Device.createBuffer device target data).2
  createTexture : ∀ (device : δ) width height pixels, p device →
    p (Device.createTexture device width height pixels).2
  createRenderTarget : ∀ (device : δ) width height color, p device →
    p (Device.createRenderTarget device width height color).2
  submit : ∀ (device : δ) command, p device → p (Device.submit device command)

/-- A command that deletes something other than a program. -/
def Command.DeletesResource : Command → Prop
  | .deleteBuffer _ | .deleteTexture _ | .deleteRenderTarget _ => True
  | _ => False

/-- A property that no buffer, texture or render target ends, by being created or by being
deleted. -/
structure KeptByResources {δ : Type} [Device δ] (p : δ → Prop) : Prop where
  createBuffer : ∀ (device : δ) target data, p device →
    p (Device.createBuffer device target data).2
  createTexture : ∀ (device : δ) width height pixels, p device →
    p (Device.createTexture device width height pixels).2
  createRenderTarget : ∀ (device : δ) width height color, p device →
    p (Device.createRenderTarget device width height color).2
  submit : ∀ (device : δ) command, command.DeletesResource → p device →
    p (Device.submit device command)

/-- A property that linking programs does not end. -/
structure KeptByLinks {δ : Type} [Device δ] (p : δ → Prop) : Prop where
  createProgram : ∀ (device : δ) vertex fragment attributes, p device →
    p (Device.createProgram device vertex fragment attributes).2
  uniformLocation : ∀ (device : δ) id name, p device →
    p (Device.uniformLocation device id name).2
  attributeLocation : ∀ (device : δ) id name, p device →
    p (Device.attributeLocation device id name).2

/-- A property of a device that lasts as long as a program: only the deletion of the program ends
it. -/
structure LastsWith {δ : Type} [Device δ] (program : ProgramId) (p : δ → Prop) : Prop where
  createProgram : ∀ (device : δ) vertex fragment attributes, p device →
    p (Device.createProgram device vertex fragment attributes).2
  uniformLocation : ∀ (device : δ) id name, p device →
    p (Device.uniformLocation device id name).2
  attributeLocation : ∀ (device : δ) id name, p device →
    p (Device.attributeLocation device id name).2
  createBuffer : ∀ (device : δ) target data, p device →
    p (Device.createBuffer device target data).2
  createTexture : ∀ (device : δ) width height pixels, p device →
    p (Device.createTexture device width height pixels).2
  createRenderTarget : ∀ (device : δ) width height color, p device →
    p (Device.createRenderTarget device width height color).2
  submit : ∀ (device : δ) command, command ≠ .deleteProgram program → p device →
    p (Device.submit device command)

/-- A device on which creating a texture or a render target fails only if it is spent. Where it
never is, all of them are created. -/
structure CreatesTargets {δ : Type} [Device δ] (spent : δ → Prop) :
    Prop extends KeptByCalls spent where
  refusedTexture : ∀ (device : δ) width height pixels e device',
    Device.createTexture device width height pixels = (.error e, device') → spent device
  refusedTarget : ∀ (device : δ) width height color e device',
    Device.createRenderTarget device width height color = (.error e, device') → spent device

variable {δ : Type} [Device δ]

namespace KeptByLinks

variable {p : δ → Prop} {device : δ}

theorem link (hp : KeptByLinks p) (source : ProgramSource) (hdevice : p device) :
    p (LinkedProgram.link device source).2 := by
  have hcreate := hp.createProgram device (source.stageText .vertex) (source.stageText .fragment)
    LinkedProgram.attributeSlots hdevice
  unfold LinkedProgram.link
  rcases hcreated : Device.createProgram device (source.stageText .vertex)
    (source.stageText .fragment) LinkedProgram.attributeSlots with ⟨e | id, created⟩
  · rwa [hcreated] at hcreate
  · rw [hcreated] at hcreate
    exact LinkedProgram.askAll_keeps _ (fun d a ↦ hp.attributeLocation d id (vertexAttributeName a))
      _ (LinkedProgram.askAll_keeps _ (fun d name ↦ hp.uniformLocation d id name) _ hcreate)

theorem acquire (hp : KeptByLinks p) {cache cache' : ProgramCache} {device' : δ} {k : ProgramKey}
    {result : Except ProgramError ProgramHandle}
    (hacquire : cache.acquire device k = .ok (result, cache', device')) (hdevice : p device) :
    p device' := by
  rcases ProgramCache.acquireWith_ok hacquire with
    ⟨_, _, _, _, _, _, _, _, rfl⟩ | ⟨_, source, _, hlinked⟩
  · exact hdevice
  · have hlink := hp.link source hdevice
    rcases hlinked with ⟨e, heq, _⟩ | ⟨program, heq, _⟩
    · rwa [heq] at hlink
    · rwa [heq] at hlink

end KeptByLinks

namespace LastsWith

variable {program : ProgramId} {p : δ → Prop} {device : δ}

theorem resources (hp : LastsWith program p) : KeptByResources p where
  createBuffer := hp.createBuffer
  createTexture := hp.createTexture
  createRenderTarget := hp.createRenderTarget
  submit device command hcommand := hp.submit device command fun heq ↦ by
    rw [heq] at hcommand
    exact hcommand

theorem submitAll (hp : LastsWith program p) {commands : List Command}
    (hcommands : ∀ c ∈ commands, c ≠ .deleteProgram program) (hdevice : p device) :
    p (Device.submitAll device commands) :=
  List.foldlRecOn commands _ hdevice fun d hd command hcommand ↦
    hp.submit d command (hcommands command hcommand) hd

theorem links (hp : LastsWith program p) : KeptByLinks p :=
  ⟨hp.createProgram, hp.uniformLocation, hp.attributeLocation⟩

end LastsWith

namespace KeptByCalls

variable {p : δ → Prop} {device : δ}

/-- No deletion of a program ends it either. -/
theorem lasts (hp : KeptByCalls p) (program : ProgramId) : LastsWith program p where
  createProgram := hp.createProgram
  uniformLocation := hp.uniformLocation
  attributeLocation := hp.attributeLocation
  createBuffer := hp.createBuffer
  createTexture := hp.createTexture
  createRenderTarget := hp.createRenderTarget
  submit device command _ := hp.submit device command

theorem resources (hp : KeptByCalls p) : KeptByResources p := (hp.lasts default).resources

theorem submitAll (hp : KeptByCalls p) (commands : List Command) (hdevice : p device) :
    p (Device.submitAll device commands) :=
  List.foldlRecOn commands _ hdevice fun d hd command _ ↦ hp.submit d command hd

theorem acquire (hp : KeptByCalls p) {cache cache' : ProgramCache} {device' : δ} {k : ProgramKey}
    {result : Except ProgramError ProgramHandle}
    (hacquire : cache.acquire device k = .ok (result, cache', device')) (hdevice : p device) :
    p device' :=
  (hp.lasts default).links.acquire hacquire hdevice

end KeptByCalls

/-! ### Buffers, textures and render targets -/

theorem GeometryBuffers.deletesResource_deleteAll (buffers : List AttributeBuffer) :
    ∀ c ∈ deleteAll buffers, c.DeletesResource := by
  intro c hc
  obtain ⟨buffer, _, rfl⟩ := List.mem_map.mp hc
  trivial

theorem GeometryBuffers.deletesResource_destroy (b : GeometryBuffers) :
    ∀ c ∈ b.destroy, c.DeletesResource := by
  intro c hc
  rcases List.mem_append.mp hc with hc | hc
  · exact deletesResource_deleteAll _ c hc
  · obtain ⟨index, _, rfl⟩ := List.mem_map.mp hc
    trivial

theorem RenderTarget.deletesResource_destroy (t : RenderTarget) :
    ∀ c ∈ t.destroy, c.DeletesResource :=
  List.forall_mem_cons.mpr ⟨trivial, List.forall_mem_singleton.mpr trivial⟩

namespace KeptByResources

variable {p : δ → Prop} {device : δ}

theorem submitAll (hp : KeptByResources p) {commands : List Command}
    (hcommands : ∀ c ∈ commands, c.DeletesResource) (hdevice : p device) :
    p (Device.submitAll device commands) :=
  List.foldlRecOn commands _ hdevice fun d hd command hcommand ↦
    hp.submit d command (hcommands command hcommand) hd

theorem uploadArrays (hp : KeptByResources p) (quantized : Bool) (done : List AttributeBuffer)
    (arrays : List (VertexAttribute × VertexArray)) (hdevice : p device) :
    p (GeometryBuffers.uploadArrays quantized device done arrays).2 := by
  induction arrays generalizing device done with
  | nil => exact hdevice
  | cons array rest ih =>
    obtain ⟨a, array⟩ := array
    have hcreate := hp.createBuffer device .vertex array.bytes hdevice
    unfold GeometryBuffers.uploadArrays
    rcases hcreated : Device.createBuffer device .vertex array.bytes with ⟨e | buffer, created⟩
    · rw [hcreated] at hcreate
      exact hp.submitAll (GeometryBuffers.deletesResource_deleteAll done) hcreate
    · rw [hcreated] at hcreate
      exact ih _ hcreate

theorem uploadIndices (hp : KeptByResources p) (g : Geometry) (hdevice : p device) :
    p (GeometryBuffers.uploadIndices device g).2 := by
  unfold GeometryBuffers.uploadIndices
  split
  · exact hdevice
  · rename_i indices _
    have hcreate := hp.createBuffer device .index indices.bytes hdevice
    rcases hcreated : Device.createBuffer device .index indices.bytes with ⟨e | buffer, created⟩
    · rwa [hcreated] at hcreate
    · rwa [hcreated] at hcreate

theorem upload (hp : KeptByResources p) (g : Geometry) (hdevice : p device) :
    p (GeometryBuffers.upload device g).2 := by
  unfold GeometryBuffers.upload
  split
  · exact hdevice
  · have harrays := hp.uploadArrays g.isQuantized [] g.uploads hdevice
    rcases harray : GeometryBuffers.uploadArrays g.isQuantized device [] g.uploads with
      ⟨e | attributes, uploaded⟩
    · rwa [harray] at harrays
    · rw [harray] at harrays
      have hindices := hp.uploadIndices g harrays
      dsimp only
      rcases hindex : GeometryBuffers.uploadIndices uploaded g with ⟨e | index, device'⟩
      · rw [hindex] at hindices
        exact hp.submitAll (GeometryBuffers.deletesResource_deleteAll attributes) hindices
      · rwa [hindex] at hindices

theorem createTarget (hp : KeptByResources p) (width height : UInt32) (hdevice : p device) :
    p (RenderTarget.create device width height).2 := by
  have htexture := hp.createTexture device width height none hdevice
  unfold RenderTarget.create
  rcases hcreated : Device.createTexture device width height none with ⟨e | color, created⟩
  · rwa [hcreated] at htexture
  · rw [hcreated] at htexture
    have htarget := hp.createRenderTarget created width height color htexture
    dsimp only
    rcases hcreate : Device.createRenderTarget created width height color with ⟨e | id, device'⟩
    · rw [hcreate] at htarget
      exact hp.submit _ _ trivial htarget
    · rwa [hcreate] at htarget

theorem createMaps (hp : KeptByResources p) {r : ShadowRenderer} (lights : List UInt32)
    (hdevice : p device) : p (r.createMaps device lights).2.2 := by
  induction lights generalizing r device with
  | nil => exact hdevice
  | cons light rest ih =>
    unfold ShadowRenderer.createMaps
    split
    · exact ih hdevice
    · have hcreate := hp.createTarget r.mapSize r.mapSize hdevice
      rcases hcreated : RenderTarget.create device r.mapSize r.mapSize with ⟨e | target, created⟩
      · rwa [hcreated] at hcreate
      · rw [hcreated] at hcreate
        exact ih hcreate

/-- The maps follow the lights. -/
theorem sync (hp : KeptByResources p) (r : ShadowRenderer) (lights : List Light)
    (hdevice : p device) : p (r.sync device lights).2.2 := by
  have hdestroy : ∀ c ∈ (r.droppedFor lights).flatMap (·.target.destroy), c.DeletesResource := by
    intro c hc
    obtain ⟨m, _, hm⟩ := List.mem_flatMap.mp hc
    exact m.target.deletesResource_destroy c hm
  rw [ShadowRenderer.device_sync]
  exact hp.createMaps (castingLights lights) (hp.submitAll hdestroy hdevice)

end KeptByResources

namespace CreatesTargets

variable {spent : δ → Prop}

/-- A target that is not created tells that the device is spent. -/
theorem spent_of_create (hdevice : CreatesTargets spent) {device device' : δ}
    {width height : UInt32} {e : DeviceError}
    (hcreate : RenderTarget.create device width height = (.error e, device')) :
    spent device' := by
  have hkept : spent device → _ := hdevice.resources.createTarget width height
  rw [hcreate] at hkept
  unfold RenderTarget.create at hcreate
  rcases hcreated : Device.createTexture device width height none with ⟨e' | color, created⟩
  · exact hkept (hdevice.refusedTexture _ _ _ _ _ _ hcreated)
  · rw [hcreated] at hcreate
    dsimp only at hcreate
    rcases htarget : Device.createRenderTarget created width height color with ⟨e' | id, after⟩
    · rw [htarget] at hcreate
      have hspent := hdevice.createRenderTarget created width height color
        (hdevice.refusedTarget _ _ _ _ _ _ htarget)
      rw [htarget] at hspent
      rw [← (Prod.mk.inj hcreate).2]
      exact hdevice.submit _ _ hspent
    · rw [htarget] at hcreate
      cases (Prod.mk.inj hcreate).1

/-- So does a shadow map that is not created. -/
theorem spent_of_createMaps (hdevice : CreatesTargets spent) {r r' : ShadowRenderer}
    {device device' : δ} {wanted : List UInt32} {e : DeviceError}
    (hcreate : r.createMaps device wanted = (.error e, r', device')) : spent device' := by
  induction wanted generalizing r device with
  | nil => cases (Prod.mk.inj hcreate).1
  | cons light rest ih =>
    unfold ShadowRenderer.createMaps at hcreate
    split at hcreate
    · exact ih hcreate
    · rcases hcreated : RenderTarget.create device r.mapSize r.mapSize with ⟨e' | target, created⟩
      · rw [hcreated] at hcreate
        rw [← (Prod.mk.inj (Prod.mk.inj hcreate).2).2]
        exact hdevice.spent_of_create hcreated
      · rw [hcreated] at hcreate
        exact ih hcreate

end CreatesTargets

/-! ### The recorder -/

namespace Recorder

theorem Exhausted.create {r : Recorder} (hr : r.Exhausted) {ε α : Type} (identity : UInt32 → α)
    (refusal : String → ε) (record : α → Record) :
    (r.create identity refusal record).2.Exhausted := by
  rw [create_of_le _ _ _ hr]
  exact hr

end Recorder

end SceneRenderer
