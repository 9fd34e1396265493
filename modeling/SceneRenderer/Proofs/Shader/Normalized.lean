import SceneRenderer.Proofs.Shader.CanonicalKey

/-!
Normalization does not change a program. A stage reads the normals only through the question whether
lighting is evaluated, texture coordinates and textures only through the textures that are read, and
the encoding of vertex colors only where there are vertex colors; what normalization clears stands
behind none of these. The main statement is `synthesize_normalize`.
-/

set_option autoImplicit false
set_option relaxedAutoImplicit false

namespace SceneRenderer.Shader

namespace Features

variable (c : Features)

/-! ### What the stages ask of features -/

theorem get_normalize (channel : TextureChannel) :
    c.normalize.textures.get channel =
      if c.samples channel then c.textures.get channel else none :=
  TextureFlags.get_ofFn _ _

theorem sampledTextures_eq (c : Features) :
    c.sampledTextures = TextureChannel.all.filterMap fun channel ↦
      if c.samples channel then (c.textures.get channel).map (channel, ·) else none := by
  rw [sampledTextures, TextureFlags.toList, List.filter_filterMap]
  congr 1
  funext channel
  cases c.textures.get channel with
  | none => exact (ite_self _).symm
  | some feature => rfl

theorem sampledTextures_normalize : c.normalize.sampledTextures = c.sampledTextures := by
  rw [sampledTextures_eq, sampledTextures_eq]
  congr 1
  funext channel
  rw [samples_normalize, get_normalize]
  cases c.samples channel <;> rfl

/-- Normal features have a texture only where one is read. -/
theorem isEmpty_textures_normalize :
    c.normalize.textures.isEmpty = c.sampledTextures.isEmpty := by
  rw [← TextureFlags.isEmpty_toList, ← sampledTextures_normalize]
  have hall : c.normalize.sampledTextures = c.normalize.textures.toList := by
    refine List.filter_eq_self.mpr fun t ht ↦ ?_
    rw [samples_normalize, ← contains_normalize, TextureFlags.contains,
      TextureFlags.mem_toList.mp ht]
    rfl
  rw [hall]

theorem usesUv_normalize : c.normalize.usesUv = c.usesUv := by
  have huv : c.normalize.hasUv = (c.hasUv && !c.normalize.textures.isEmpty) := rfl
  rw [usesUv, usesUv, huv, sampledTextures_normalize, isEmpty_textures_normalize, Bool.and_assoc,
    Bool.and_self]

/-- Where nothing is left to clear, normalization changes nothing. -/
theorem normalize_normalize : c.normalize.normalize = c.normalize := by
  have htextures : c.normalize.normalize.textures = c.normalize.textures := by
    refine TextureFlags.ext_get fun channel ↦ ?_
    rw [get_normalize, samples_normalize, get_normalize]
    cases c.samples channel <;> rfl
  have huv : c.normalize.normalize.hasUv = c.normalize.hasUv := by
    change (c.normalize.hasUv && !c.normalize.normalize.textures.isEmpty) = c.normalize.hasUv
    rw [htextures]
    change (c.hasUv && !c.normalize.textures.isEmpty && !c.normalize.textures.isEmpty) = _
    rw [Bool.and_assoc, Bool.and_self]
    rfl
  have hnormals : c.normalize.normalize.hasNormals = c.normalize.hasNormals := by
    change (c.hasNormals && c.isShaded && c.normalize.isShaded) = (c.hasNormals && c.isShaded)
    rw [isShaded_normalize, Bool.and_assoc, Bool.and_self]
  have hnormalMap : c.normalize.normalize.hasNormalMap = c.normalize.hasNormalMap := by
    change c.normalize.normalize.textures.contains .normal = c.normalize.textures.contains .normal
    rw [htextures]
  have hgamma : c.normalize.normalize.gammaInput = c.normalize.gammaInput := by
    change (c.gammaInput && c.hasColors && c.hasColors) = (c.gammaInput && c.hasColors)
    rw [Bool.and_assoc, Bool.and_self]
  rw [Features.mk.injEq]
  exact ⟨hnormals, huv, hnormalMap, rfl, rfl, rfl, rfl, rfl, hgamma, rfl, rfl, rfl, rfl, rfl,
    htextures, rfl, rfl, rfl⟩

end Features

/-! ### The records of the stages -/

variable (c : Features) (o : ShaderOptions)

theorem vertexRecords_normalize : vertexRecords c.normalize o = vertexRecords c o := by
  rw [vertexRecords, vertexRecords, Features.isShaded_normalize, Features.usesUv_normalize]
  rfl

theorem shadowFilterRecords_normalize :
    shadowFilterRecords c.normalize o = shadowFilterRecords c o := by
  rw [shadowFilterRecords, shadowFilterRecords, Features.isShaded_normalize]
  rfl

/-- The encoding of vertex colors matters only where there are vertex colors. -/
theorem vertexColorRecords_normalize :
    onlyIf c.normalize.hasColors (vertexColorRecords c.normalize) =
      onlyIf c.hasColors (vertexColorRecords c) := by
  have hcolors : c.normalize.hasColors = c.hasColors := rfl
  have hgamma : c.normalize.gammaInput = (c.gammaInput && c.hasColors) := rfl
  rw [hcolors]
  cases h : c.hasColors with
  | false => rfl
  | true =>
    rw [vertexColorRecords, vertexColorRecords, hgamma, h, Bool.and_true]
    rfl

theorem texturesRecords_normalize : texturesRecords c.normalize = texturesRecords c := by
  rw [texturesRecords, texturesRecords, Features.usesUv_normalize,
    Features.sampledTextures_normalize]
  rfl

theorem outgoingRecords_normalize (filter : List Record) :
    outgoingRecords c.normalize filter = outgoingRecords c filter := by
  rw [outgoingRecords, outgoingRecords, Features.isShaded_normalize]
  rfl

theorem filteredFragmentRecords_normalize (filter : List Record) :
    filteredFragmentRecords c.normalize o filter = filteredFragmentRecords c o filter := by
  rw [filteredFragmentRecords, filteredFragmentRecords, Features.samples_normalize,
    Features.isShaded_normalize, vertexColorRecords_normalize, texturesRecords_normalize,
    outgoingRecords_normalize]
  rfl

theorem drawStages_normalize : drawStages c.normalize o = drawStages c o := by
  have hfragment : fragmentRecords c.normalize o = fragmentRecords c o := by
    simp only [fragmentRecords, shadowFilterRecords_normalize, filteredFragmentRecords_normalize]
  rw [drawStages, drawStages, vertexRecords_normalize, hfragment]

/-! ### Programs -/

/-- Normal features have the program, and the depth program, of the features they come from, and
are normal. -/
theorem synthesize_normalize (ho : o.kernelRadius ≤ maxKernelRadius) :
    (∃ source, synthesize o (.draw c) = .ok source ∧
        synthesize o (.draw c.normalize) = .ok source) ∧
      DepthFeatures.ofFeatures c.normalize = DepthFeatures.ofFeatures c ∧
      c.normalize.normalize = c.normalize := by
  obtain ⟨source, hsource⟩ := synthesize_ok ho (.draw c)
  refine ⟨⟨source, hsource, ?_⟩, rfl, c.normalize_normalize⟩
  have hstages : stages o (.draw c.normalize) = stages o (.draw c) := drawStages_normalize c o
  rw [← hsource, synthesize, synthesize, hstages]

/-- Features of which normalization clears or sets every flag that it may: normals and textures of
lighting without a light, texture coordinates for textures that are not read, a normal map that has
no texture, and the encoding of colors that are not there. -/
def clutteredFeatures : Features :=
  { (default : Features) with
    hasNormals := true
    hasUv := true
    hasNormalMap := true
    receivesShadow := true
    gammaInput := true
    model := .metallicRoughness
    textures := TextureFlags.empty.set .metallic (some ⟨.srgb, true⟩) }

theorem synthesize_normalize_cluttered :
    ShaderOptions.standard.kernelRadius ≤ maxKernelRadius ∧
      clutteredFeatures.normalize =
        { (default : Features) with model := .metallicRoughness, textures := .empty } ∧
      (∃ source, synthesize .standard (.draw clutteredFeatures) = .ok source ∧
        synthesize .standard (.draw clutteredFeatures.normalize) = .ok source) ∧
      DepthFeatures.ofFeatures clutteredFeatures.normalize =
        DepthFeatures.ofFeatures clutteredFeatures ∧
      clutteredFeatures.normalize.normalize = clutteredFeatures.normalize :=
  ⟨by decide, by decide, synthesize_normalize clutteredFeatures .standard (by decide)⟩

end SceneRenderer.Shader
