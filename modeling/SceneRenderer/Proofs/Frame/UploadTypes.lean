import SceneRenderer.Proofs.Frame.Freshness
import SceneRenderer.Proofs.Shader.Signature

/-!
What is uploaded fits what is declared: every value is one of the type that the name of its uniform
has in all programs.
-/

set_option autoImplicit false
set_option relaxedAutoImplicit false

namespace SceneRenderer

open Shader

/-! ### Types of values -/

/-- Whether a uniform of a type can hold a value. -/
def UniformValue.hasType : UniformValue → GlslType → Bool
  | .bool _, .bool | .float _, .float | .vec2 _, .vec2 | .vec3 _, .vec3 | .vec4 _, .vec4
  | .mat3 _, .mat3 | .mat4 _, .mat4 | .sampler _, .sampler2D | .sampler _, .samplerCube => true
  | _, _ => false

/-- The kind of texture that a sampler of a type reads. -/
def Shader.GlslType.target? : GlslType → Option TextureTarget
  | .sampler2D => some .plane
  | .samplerCube => some .cube
  | _ => none

/-- The type of a uniform in all programs. -/
def Shader.Name.uniformType? (n : Name) : Option GlslType :=
  (n.signature false).bind fun s ↦ if s.1 = .uniform then some s.2 else none

namespace Upload

/-- A value is one of the type of its uniform. -/
def IsTyped : Upload → Prop
  | uniform name value => ∃ type, name.uniformType? = some type ∧ value.hasType type
  | texture .. => True

/-- Sets a uniform to something else than a unit. -/
def isPlain : Upload → Bool
  | uniform _ (.sampler _) | texture .. => false
  | uniform .. => true

@[simp]
theorem isTyped_uniform (name : Name) (value : UniformValue) :
    (uniform name value).IsTyped ↔ ∃ type, name.uniformType? = some type ∧ value.hasType type :=
  Iff.rfl

@[simp]
theorem isTyped_texture (unit : UInt32) (target : TextureTarget) (t : TextureId) :
    (texture unit target t).IsTyped :=
  trivial

end Upload

/-- The uniforms that samplers are. -/
def Shader.Name.Samples (n : Name) (target : TextureTarget) : Prop :=
  ∃ type, n.uniformType? = some type ∧ type.target? = some target

theorem isTyped_samplerUploads {n : Name} {target : TextureTarget} (hn : n.Samples target)
    (unit : UInt32) (texture : Option TextureId) :
    ∀ upload ∈ samplerUploads unit target texture n, upload.IsTyped := by
  obtain ⟨type, htype, htarget⟩ := hn
  have hsampler : (UniformValue.sampler unit).hasType type = true := by
    cases type with
    | sampler2D | samplerCube => rfl
    | _ => exact absurd htarget nofun
  cases texture <;> simp [samplerUploads, htype, hsampler]

section Typed

attribute [local simp] Name.uniformType? UniformValue.hasType

theorem isTyped_lightUploads (i : UInt32) (light : Light) :
    ∀ upload ∈ lightUploads i light, upload.IsTyped := by
  unfold lightUploads
  cases light.shape <;> simp

namespace FrameGlobals

variable (g : FrameGlobals) (c : Features)

theorem samples_shadowMap (i : UInt32) : (Name.shadowMap i).Samples .plane :=
  ⟨.sampler2D, rfl, rfl⟩

theorem samples_environmentMaps : ∀ map ∈ g.environmentMaps c, map.2.Samples .cube := by
  intro map hmap
  have hname : map.2 = .lightMap ∨ map.2 = .reflectionMap := by
    revert hmap
    unfold environmentMaps
    cases c.hasLightMap <;> cases c.hasReflectionMap <;> simp +contextual [or_imp]
  rcases hname with hname | hname
  · exact ⟨.samplerCube, by rw [hname]; rfl, rfl⟩
  · exact ⟨.samplerCube, by rw [hname]; rfl, rfl⟩

theorem isTyped_slotUploads (unit : UInt32) (slot : LightSlot) :
    ∀ upload ∈ (g.slotUploads unit slot).1, upload.IsTyped := by
  unfold slotUploads
  split
  · exact List.forall_mem_nil _
  · split
    · simp only [List.forall_mem_append]
      exact ⟨⟨isTyped_lightUploads _ _, by simp⟩,
        isTyped_samplerUploads (samples_shadowMap _) _ _⟩
    · exact isTyped_lightUploads _ _

theorem isTyped_clipUploads : ∀ upload ∈ g.clipUploads c, upload.IsTyped := by
  refine List.forall_mem_flatMap.mpr fun p _ ↦ ?_
  simp

theorem isTyped_uploads : ∀ upload ∈ (g.uploads c).1, upload.IsTyped := by
  unfold uploads
  simp only [List.forall_mem_append]
  refine ⟨⟨⟨by simp, ?_⟩, ?_⟩, g.isTyped_clipUploads c⟩
  · exact mem_inUnits (fun unit slot _ ↦ g.isTyped_slotUploads unit slot) _
  · exact mem_inUnits (fun unit map hmap ↦
      isTyped_samplerUploads (g.samples_environmentMaps c map hmap) unit map.1) _

end FrameGlobals

namespace Material

variable (m : Material) (c : Features)

theorem samples_textureMap (channel : TextureChannel) :
    (Name.textureMap channel).Samples .plane :=
  ⟨.sampler2D, rfl, rfl⟩

theorem isTyped_textureUploads (channels : List TextureChannel) (units : TextureUnits) :
    ∀ upload ∈ (m.textureUploads units channels).1, upload.IsTyped := by
  induction channels generalizing units with
  | nil => exact List.forall_mem_nil _
  | cons channel rest ih =>
    unfold textureUploads
    cases m.texture channel with
    | none => exact ih units
    | some t =>
      simp only [List.forall_mem_append]
      exact ⟨⟨isTyped_samplerUploads (samples_textureMap _) _ _, by simp⟩, ih _⟩

theorem isTyped_uploads (units : TextureUnits) :
    ∀ upload ∈ (m.uploads c units).1, upload.IsTyped := by
  unfold uploads
  simp only [List.forall_mem_append]
  refine ⟨⟨⟨by simp, ?_⟩, ?_⟩, m.isTyped_textureUploads _ _⟩
  · cases m.surface <;> simp [Surface.uploads]
  · refine List.forall_mem_flatMap.mpr fun channel _ ↦ ?_
    split <;> simp [Fresnel.uploads]

end Material

theorem Transform.isTyped_uploads (t : Transform Float32) (hasNormals : Bool) :
    ∀ upload ∈ t.uploads hasNormals, upload.IsTyped := by
  unfold Transform.uploads
  cases hasNormals <;> simp

end Typed

end SceneRenderer
