import SceneRenderer.Proofs.Frame.Levels
import SceneRenderer.Proofs.Shader.Classified
import SceneRenderer.Shader.Classify

/-!
What a material uploads under given features. Materials that the features were classified from
upload to the same slots: their values differ, but the uniforms and the texture units do not.

Classified features fit the shading model: textures and blends drive only channels whose locals the
fragment stage has (`Features.Coherent`).
-/

set_option autoImplicit false
set_option relaxedAutoImplicit false

/-! ### Uploads -/

namespace SceneRenderer

open Shader

/-- A material has what features say of it. -/
structure Material.Fits (m : Material) (c : Features) : Prop where
  model : m.model = c.model
  textures : ∀ t ∈ c.sampledTextures,
    (m.texture t.1).map (fun u ↦ ⟨u.encoding, u.matrix.isSome⟩) = some t.2
  fresnel : ∀ channel ∈ c.fresnel.toList, (m.fresnel channel).isSome

/-- Classification says of a material only what it has. -/
theorem Shader.fits_classify (geometry : Geometry) (material : Material) (lights : List Light)
    (clips : List ClipPlane) (modes : DrawModes) (scene : SceneFlags) :
    material.Fits (classify geometry material lights clips modes scene) where
  model := rfl
  textures := by
    rintro ⟨channel, feature⟩ hsampled
    have hget := TextureFlags.mem_toList.mp (List.mem_filter.mp hsampled).1
    change (TextureFlags.ofFn _).get channel = some feature at hget
    rw [TextureFlags.get_ofFn] at hget
    split at hget
    · change (TextureFlags.ofFn _).get channel = some feature at hget
      rw [TextureFlags.get_ofFn] at hget
      exact (Option.ite_none_right_eq_some.mp hget).2
    · exact absurd hget nofun
  fresnel := by
    intro channel hchannel
    have hcontains := (List.mem_filter.mp hchannel).2
    change (FresnelFlags.ofFn _).contains channel = true at hcontains
    rw [FresnelFlags.contains_ofFn] at hcontains
    exact (Bool.and_eq_true_iff.mp hcontains).2

namespace Material

theorem slots_surface {s t : Surface} (hmodel : s.model = t.model) :
    s.uploads.map Upload.slot = t.uploads.map Upload.slot := by
  cases s <;> cases t <;> first | rfl | exact absurd hmodel nofun

/-- The blend of a material on a channel. -/
def blendUploads (m : Material) (channel : FresnelChannel) : List Upload :=
  match m.fresnel channel with
  | some f => f.uploads channel
  | none => []

theorem slots_blendUploads {m m' : Material} {channel : FresnelChannel}
    (hm : (m.fresnel channel).isSome) (hm' : (m'.fresnel channel).isSome) :
    (m.blendUploads channel).map Upload.slot = (m'.blendUploads channel).map Upload.slot := by
  obtain ⟨f, hf⟩ := Option.isSome_iff_exists.mp hm
  obtain ⟨f', hf'⟩ := Option.isSome_iff_exists.mp hm'
  rw [blendUploads, hf, blendUploads, hf']
  rfl

/-- What one texture uploads: itself, its sampler, and its matrix if it has one. -/
theorem slots_texture {t t' : TextureUse} (hmatrix : t.matrix.isSome = t'.matrix.isSome)
    (unit : UInt32) (channel : TextureChannel) :
    (samplerUploads unit .plane (some t.texture) (.textureMap channel) ++
        t.matrix.toList.map fun matrix ↦
          Upload.uniform (.textureMatrix channel) (.mat4 matrix)).map Upload.slot =
      (samplerUploads unit .plane (some t'.texture) (.textureMap channel) ++
        t'.matrix.toList.map fun matrix ↦
          Upload.uniform (.textureMatrix channel) (.mat4 matrix)).map Upload.slot := by
  cases hm : t.matrix <;> cases hm' : t'.matrix <;> rw [hm, hm'] at hmatrix
  · rfl
  · exact absurd hmatrix nofun
  · exact absurd hmatrix nofun
  · rfl

/-- Textures on the same channels, with matrices on the same of them, go to the same slots. -/
theorem slots_textureUploads {m m' : Material} {channels : List TextureChannel}
    (hshape : ∀ channel ∈ channels, (m.texture channel).map (·.matrix.isSome) =
      (m'.texture channel).map (·.matrix.isSome)) (units : TextureUnits) :
    (m.textureUploads units channels).1.map Upload.slot =
      (m'.textureUploads units channels).1.map Upload.slot := by
  induction channels generalizing units with
  | nil => rfl
  | cons channel rest ih =>
    have hrest := fun units ↦ ih (fun c hc ↦ hshape c (List.mem_cons_of_mem _ hc)) units
    have hhead := hshape channel List.mem_cons_self
    unfold textureUploads
    cases htexture : m.texture channel <;> cases htexture' : m'.texture channel <;>
      rw [htexture, htexture'] at hhead
    · exact hrest units
    · cases hhead
    · cases hhead
    · dsimp only
      rw [List.map_append, hrest, slots_texture (Option.some.inj hhead), ← List.map_append]

theorem reset_textureUploads (m : Material) (channels : List TextureChannel)
    (units : TextureUnits) : (m.textureUploads units channels).2.reset = units.reset := by
  induction channels generalizing units with
  | nil => rfl
  | cons channel rest ih =>
    unfold textureUploads
    cases m.texture channel with
    | none => exact ih units
    | some t => exact ih units.next.2

variable {m m' : Material} {c : Features}

theorem uploads_fst (m : Material) (c : Features) (units : TextureUnits) :
    (m.uploads c units).1 =
      [.uniform .materialAlphaModeCutoff
          (.vec4 (Reflectance.alphaModeCutoff m.alphaMode m.alphaCutoff)),
        .uniform .pointSize (.float m.pointSize)] ++ m.surface.uploads ++
        c.fresnel.toList.flatMap m.blendUploads ++
        (m.textureUploads units.reset (c.sampledTextures.map (·.1))).1 := rfl

/-- Materials that fit the same features upload to the same slots. -/
theorem slots_uploads (hm : m.Fits c) (hm' : m'.Fits c) (units : TextureUnits) :
    (m.uploads c units).1.map Upload.slot = (m'.uploads c units).1.map Upload.slot := by
  have hsurface := slots_surface (hm.model.trans hm'.model.symm)
  have htextures : ∀ channel ∈ c.sampledTextures.map (·.1),
      (m.texture channel).map (·.matrix.isSome) = (m'.texture channel).map (·.matrix.isSome) := by
    intro channel hchannel
    obtain ⟨t, ht, rfl⟩ := List.mem_map.mp hchannel
    have hsame := congrArg (Option.map TextureFeature.hasMatrix)
      ((hm.textures t ht).trans (hm'.textures t ht).symm)
    rwa [Option.map_map, Option.map_map] at hsame
  have hblends : ∀ channel ∈ c.fresnel.toList,
      (m.blendUploads channel).map Upload.slot = (m'.blendUploads channel).map Upload.slot :=
    fun channel hchannel ↦
      slots_blendUploads (hm.fresnel channel hchannel) (hm'.fresnel channel hchannel)
  simp only [uploads_fst, List.map_append, List.map_flatMap, hsurface,
    slots_textureUploads htextures, List.flatMap_congr hblends]
  rfl

/-- A material takes units from the first one on, whatever was taken before. -/
theorem uploads_reset (m : Material) (c : Features) (units : TextureUnits) :
    m.uploads c units = m.uploads c units.reset := rfl

theorem reset_uploads (m : Material) (c : Features) (units : TextureUnits) :
    (m.uploads c units).2.reset = units.reset :=
  m.reset_textureUploads _ _

end Material

end SceneRenderer

/-! ### Locals -/

namespace SceneRenderer.Shader

/-- The channels of a shading model that textures drive. -/
def textureChannels : ShadingModel → List TextureChannel
  | .lambert => []
  | .phong =>
    [.ambient, .diffuse, .specular, .emissive, .alpha, .occlusion, .normal, .reflectivity]
  | .metallicRoughness =>
    [.baseColor, .metallic, .roughness, .metallicRoughness, .emissive, .occlusion, .alpha, .normal]
  | .specularGlossiness =>
    [.diffuse, .specular, .glossiness, .specularGlossiness, .emissive, .occlusion, .alpha, .normal]

theorem mem_textureChannels {s : Surface} {channel : TextureChannel}
    (htexture : (s.texture channel).isSome = true) : channel ∈ textureChannels s.model := by
  cases s <;> cases channel <;>
    first | exact absurd htexture Bool.false_ne_true | simp [textureChannels, Surface.model]

/-- Features of which each has the locals that it reads. -/
structure Features.Coherent (c : Features) : Prop where
  channels : ∀ t ∈ c.sampledTextures, t.1 ∈ textureChannels c.model
  normal : ∀ t ∈ c.sampledTextures, t.1 = .normal → c.isShaded = true
  reflectivity : ∀ t ∈ c.sampledTextures, t.1 = .reflectivity → c.hasReflectionMap = true
  blends : ∀ channel ∈ c.fresnel.toList, c.isShaded = true ∧ c.model = .phong ∧
    (channel = .reflectivity → c.hasReflectionMap = true)

theorem classify_coherent (geometry : Geometry) (material : Material) (lights : List Light)
    (clips : List ClipPlane) (modes : DrawModes) (scene : SceneFlags) :
    (classify geometry material lights clips modes scene).Coherent where
  channels t ht := by
    have hfits := fits_classify geometry material lights clips modes scene
    have htexture := hfits.textures t ht
    have hsome : (material.texture t.1).isSome = true := by
      rw [← Option.isSome_map, htexture]
      rfl
    exact mem_textureChannels hsome
  normal t ht hnormal := by
    have hsamples := (List.mem_filter.mp ht).2
    rw [hnormal] at hsamples
    simpa [Features.samples, feedsLighting] using (Bool.and_eq_true_iff.mp hsamples).2
  reflectivity t ht hreflectivity := by
    have hget := TextureFlags.mem_toList.mp (List.mem_filter.mp ht).1
    rw [hreflectivity] at hget
    change (TextureFlags.ofFn _).get .reflectivity = some t.2 at hget
    rw [TextureFlags.get_ofFn] at hget
    obtain ⟨_, hget⟩ := Option.ite_none_right_eq_some.mp hget
    change (TextureFlags.ofFn _).get .reflectivity = some t.2 at hget
    rw [TextureFlags.get_ofFn] at hget
    exact (Bool.and_eq_true_iff.mp (Option.ite_none_right_eq_some.mp hget).1).2
  blends channel hchannel := by
    have hcontains := (List.mem_filter.mp hchannel).2
    change (FresnelFlags.ofFn _).contains channel = true at hcontains
    rw [FresnelFlags.contains_ofFn] at hcontains
    simp only [Bool.and_eq_true, Bool.or_eq_true, beq_iff_eq, bne_iff_ne] at hcontains
    obtain ⟨⟨⟨hnormals, hmodel⟩, hreflection⟩, _⟩ := hcontains
    refine ⟨?_, hmodel, fun h ↦ hreflection.resolve_left fun hne ↦ hne h⟩
    have hsome : (requestedFeatures geometry material lights clips modes scene).fresnel.isEmpty =
        false := by
      rw [FresnelFlags.isEmpty, List.isEmpty_eq_false_iff]
      exact List.ne_nil_of_mem hchannel
    rw [classify, Features.isShaded_normalize, Features.isShaded, hsome]
    change (usableNormals geometry && _) = true
    rw [hnormals]
    simp

end SceneRenderer.Shader
