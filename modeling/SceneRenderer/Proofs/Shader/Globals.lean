import SceneRenderer.Proofs.Shader.Signature

/-!
The globals that each part of a stage declares. A feature that has a global of its own can be read
off the declarations of a stage.
-/

set_option autoImplicit false
set_option relaxedAutoImplicit false

namespace SceneRenderer.Shader

open Shader.Record Name

namespace Record

@[simp]
theorem global?_declare (qualifier : Qualifier) (type : GlslType) (name : Name) :
    (declare qualifier type name).global? = some name :=
  rfl

@[simp]
theorem global?_directive (line : String) : (directive line).global? = none := rfl

@[simp]
theorem global?_define (item : PreludeItem) : (define item).global? = none := rfl

@[simp]
theorem global?_statement (line : Line) : (statement line).global? = none := rfl

@[simp]
theorem global?_openBlock (header : Line) : (openBlock header).global? = none := rfl

@[simp]
theorem global?_closeBlock : closeBlock.global? = none := rfl

end Record

@[simp]
theorem globals_nil : globals [] = [] := rfl

@[simp]
theorem globals_cons (r : Record) (rest : List Record) :
    globals (r :: rest) = r.global?.toList ++ globals rest := by
  cases h : r.global? <;> simp [globals, h]

@[simp]
theorem globals_append (front back : List Record) :
    globals (front ++ back) = globals front ++ globals back :=
  List.filterMap_append

@[simp]
theorem globals_onlyIf (enabled : Bool) (records : List Record) :
    globals (onlyIf enabled records) = if enabled then globals records else [] := by
  cases enabled <;> rfl

@[simp]
theorem globals_flatMap {α : Type} (l : List α) (f : α → List Record) :
    globals (l.flatMap f) = l.flatMap fun x ↦ globals (f x) :=
  List.filterMap_flatMap

@[simp]
theorem globals_map_define (items : List PreludeItem) : globals (items.map define) = [] := by
  simp [globals]

/-! ### The vertex stage -/

@[simp]
theorem globals_positionRecords (quantized : Bool) (billboard : Billboard) (stationary : Bool) :
    globals (positionRecords quantized billboard stationary) =
      [vertexInput .position, modelMatrix, viewMatrix, projMatrix] ++
        if quantized then [positionsDecodeMatrix] else [] := by
  cases quantized <;> cases billboard <;> cases stationary <;> rfl

@[simp]
theorem globals_worldLightRecords (slot : LightSlot) :
    globals (worldLightRecords slot) = vLight slot.index ::
      (if slot.isPositional then [lightPos slot.index] else []) ++
      (if slot.type = .directional ∨ slot.type = .spot then [lightDir slot.index] else []) ++
      if slot.type = .spot then [vSpotDir slot.index] else [] := by
  obtain ⟨i, type, space, castsShadow⟩ := slot
  cases type <;> rfl

@[simp]
theorem globals_normalRecords (c : Features) :
    globals (normalRecords c) =
      [modelNormalMatrix, viewNormalMatrix, vViewPosition, vViewNormal, vertexInput .normal] ++
        (c.lightSlots.filter LightSlot.isWorldSpace).flatMap fun slot ↦
          globals (worldLightRecords slot) := by
  cases hquantized : c.quantized <;> simp [normalRecords, hquantized]

@[simp]
theorem globals_uvRecords (c : Features) :
    globals (uvRecords c) =
      [vertexInput .uv, vUV] ++ if c.quantized then [uvDecodeMatrix] else [] := by
  cases hquantized : c.quantized <;> simp [uvRecords, hquantized]

@[simp]
theorem globals_shadowPositionRecords (slot : LightSlot) :
    globals (shadowPositionRecords slot) =
      [shadowViewMatrix slot.index, shadowProjMatrix slot.index, vShadowPos slot.index] :=
  rfl

/-- The globals of the vertex stage of a draw program. -/
theorem globals_vertexRecords (c : Features) (o : ShaderOptions) :
    globals (vertexRecords c o) =
      globals (positionRecords c.quantized c.billboard c.stationary) ++
      (if c.isShaded then globals (normalRecords c) else []) ++
      (if c.usesUv then globals (uvRecords c) else []) ++
      (if c.hasColors then [vertexInput .color, vColor] else []) ++
      (if 0 < c.clipCount then [vWorldPosition] else []) ++
      (if !c.shadowSlots.isEmpty then
        c.shadowSlots.flatMap fun slot ↦ globals (shadowPositionRecords slot) else []) ++
      if c.isPoints then [pointSize] else [] := by
  simp [vertexRecords, precisionRecord, pointSizeRecords, outputPositionRecord]

section Vertex

variable (c : Features) (o : ShaderOptions)

theorem viewMatrix_mem_vertex : viewMatrix ∈ globals (vertexRecords c o) := by
  simp [globals_vertexRecords]

theorem modelMatrix_mem_vertex : modelMatrix ∈ globals (vertexRecords c o) := by
  simp [globals_vertexRecords]

theorem positionsDecodeMatrix_mem_vertex :
    positionsDecodeMatrix ∈ globals (vertexRecords c o) ↔ c.quantized := by
  simp [globals_vertexRecords]

theorem uvDecodeMatrix_mem_vertex :
    uvDecodeMatrix ∈ globals (vertexRecords c o) ↔ c.usesUv ∧ c.quantized := by
  simp [globals_vertexRecords]

theorem pointSize_mem_vertex : pointSize ∈ globals (vertexRecords c o) ↔ c.isPoints := by
  simp [globals_vertexRecords]

theorem color_mem_vertex : vertexInput .color ∈ globals (vertexRecords c o) ↔ c.hasColors := by
  simp [globals_vertexRecords]

theorem vViewNormal_mem_vertex : vViewNormal ∈ globals (vertexRecords c o) ↔ c.isShaded := by
  simp [globals_vertexRecords]

theorem vLight_mem_vertex (i : UInt32) :
    vLight i ∈ globals (vertexRecords c o) ↔
      c.isShaded ∧ ∃ slot ∈ c.lightSlots, slot.isWorldSpace ∧ i = slot.index := by
  simp [globals_vertexRecords, and_assoc]

end Vertex

/-! ### The fragment stage -/

@[simp]
theorem globals_clipRecords (c : Features) :
    globals (clipRecords c) =
      if 0 < c.clipCount then
        vWorldPosition :: ((List.range c.clipCount.toNat).map UInt32.ofNat).flatMap fun i ↦
          [clipActive i, clipPos i, clipDir i]
      else [] := by
  simp [clipRecords, clipPlaneRecords, discardIf]

@[simp]
theorem globals_materialRecords (c : Features) :
    globals (materialRecords c) =
      [materialEmissive, materialAlpha] ++
      (if c.model = .lambert then [materialAmbient, materialColor] else []) ++
      (if c.model = .phong then
        [materialAmbient, materialDiffuse, materialSpecular, materialShininess] else []) ++
      (if c.model = .phong ∧ c.hasReflectionMap then [materialReflectivity] else []) ++
      (if c.model = .metallicRoughness then
        [materialBaseColor, materialMetallic, materialRoughness, materialSpecularF0] else []) ++
      if c.model = .specularGlossiness then
        [materialDiffuse, materialSpecular, materialGlossiness] else [] := by
  cases hmodel : c.model <;> simp [materialRecords, hmodel]

@[simp]
theorem globals_vertexColorRecords (c : Features) :
    globals (vertexColorRecords c) = vColor :: if c.gammaInput then [gammaFactor] else [] := by
  cases hgamma : c.gammaInput <;> simp [vertexColorRecords, hgamma, gammaFactorRecord]

@[simp]
theorem globals_textureRecords (model : ShadingModel) (channel : TextureChannel)
    (feature : TextureFeature) :
    globals (textureRecords model channel feature) =
      textureMap channel :: (if feature.hasMatrix then [textureMatrix channel] else []) ++
        if feature.encoding = .gamma then [gammaFactor] else [] := by
  obtain ⟨encoding, hasMatrix⟩ := feature
  cases channel <;> cases encoding <;> cases hasMatrix <;> rfl

@[simp]
theorem globals_fresnelChannelRecords (channel : FresnelChannel) :
    globals (fresnelChannelRecords channel) =
      [fresnelEdgeBias channel, fresnelCenterBias channel, fresnelPower channel,
        fresnelEdgeColor channel, fresnelCenterColor channel] :=
  rfl

@[simp]
theorem globals_surfaceRecords (model : ShadingModel) : globals (surfaceRecords model) = [] := by
  cases model <;> rfl

@[simp]
theorem globals_environmentRecords (c : Features) :
    globals (environmentRecords c) =
      (if c.hasLightMap || c.hasReflectionMap then [viewMatrix] else []) ++
      (if c.hasLightMap then [lightMap] else []) ++
      if c.hasReflectionMap then [reflectionMap] else [] := by
  simp [environmentRecords]

@[simp]
theorem globals_lightRecords (model : ShadingModel) (slot : LightSlot) :
    globals (lightRecords model slot) =
      (if slot.isWorldSpace then [vLight slot.index] else []) ++
      (if !slot.isWorldSpace && slot.isPositional then [lightPos slot.index] else []) ++
      (if !slot.isWorldSpace && !slot.isPositional then [lightDir slot.index] else []) ++
      [lightColor slot.index] ++
      (if slot.isPositional then [lightAttenuation slot.index] else []) ++
      (if slot.type = .spot then [lightCutoff slot.index] else []) ++
      (if slot.type = .spot ∧ slot.isWorldSpace then [vSpotDir slot.index] else []) ++
      (if slot.type = .spot ∧ !slot.isWorldSpace then [lightDir slot.index] else []) ++
      if slot.castsShadow then [shadowMap slot.index, vShadowPos slot.index] else [] := by
  obtain ⟨i, type, space, castsShadow⟩ := slot
  cases type <;> cases space <;> cases castsShadow <;> rfl

@[simp]
theorem globals_lightsRecords (c : Features) (filter : List Record)
    (hfilter : globals filter = []) :
    globals (lightsRecords c filter) =
      c.lightSlots.flatMap fun slot ↦ globals (lightRecords c.model slot) := by
  cases hslots : c.lightSlots <;> simp [lightsRecords, hslots, hfilter]

@[simp]
theorem globals_outgoingRecords (c : Features) (filter : List Record)
    (hfilter : globals filter = []) :
    globals (outgoingRecords c filter) =
      if c.isShaded then
        globals (environmentRecords c) ++
          c.lightSlots.flatMap fun slot ↦ globals (lightRecords c.model slot)
      else [] := by
  cases hshaded : c.isShaded <;> simp [outgoingRecords, shadingSetupRecords, hshaded, hfilter]

/-- The globals of the fragment stage of a draw program. -/
theorem globals_filteredFragmentRecords (c : Features) (o : ShaderOptions) (filter : List Record)
    (hfilter : globals filter = []) :
    globals (filteredFragmentRecords c o filter) =
      globals (clipRecords c) ++ globals (materialRecords c) ++
      (if c.hasColors then globals (vertexColorRecords c) else []) ++
      (if c.isShaded then [vViewPosition, vViewNormal] else []) ++
      (if c.usesUv then
        vUV :: c.sampledTextures.flatMap fun t ↦ globals (textureRecords c.model t.1 t.2)
        else []) ++
      (c.fresnel.toList.flatMap fun channel ↦ globals (fresnelChannelRecords channel)) ++
      [lightAmbient] ++ globals (outgoingRecords c filter) ++ [materialAlphaModeCutoff] ++
      if c.gammaOutput then [gammaFactor] else [] := by
  have houtput : globals (outputRecords c) = if c.gammaOutput then [gammaFactor] else [] := by
    cases hgamma : c.gammaOutput <;> simp [outputRecords, hgamma, gammaFactorRecord]
  have hfresnel : globals (fresnelRecords c) =
      c.fresnel.toList.flatMap fun channel ↦ globals (fresnelChannelRecords channel) := by
    cases hlist : c.fresnel.toList <;> simp [fresnelRecords, FresnelFlags.isEmpty, hlist]
  simp [filteredFragmentRecords, precisionRecord, mathDirectives, roundPointRecords, discardIf,
    viewRecords, texturesRecords, alphaRecords, houtput, hfresnel, hfilter]

section Fragment

variable (c : Features) (o : ShaderOptions) {filter : List Record} (hfilter : globals filter = [])

include hfilter

theorem materialColor_mem_fragment :
    materialColor ∈ globals (filteredFragmentRecords c o filter) ↔ c.model = .lambert := by
  simp [globals_filteredFragmentRecords, hfilter]

theorem materialShininess_mem_fragment :
    materialShininess ∈ globals (filteredFragmentRecords c o filter) ↔ c.model = .phong := by
  simp [globals_filteredFragmentRecords, hfilter]

theorem materialMetallic_mem_fragment :
    materialMetallic ∈ globals (filteredFragmentRecords c o filter) ↔
      c.model = .metallicRoughness := by
  simp [globals_filteredFragmentRecords, hfilter]

theorem materialGlossiness_mem_fragment :
    materialGlossiness ∈ globals (filteredFragmentRecords c o filter) ↔
      c.model = .specularGlossiness := by
  simp [globals_filteredFragmentRecords, hfilter]

theorem clipActive_mem_fragment (i : UInt32) :
    clipActive i ∈ globals (filteredFragmentRecords c o filter) ↔ i < c.clipCount := by
  have hmem : clipActive i ∈ globals (filteredFragmentRecords c o filter) ↔
      0 < c.clipCount ∧ ∃ n < c.clipCount.toNat, UInt32.ofNat n = i := by
    simp [globals_filteredFragmentRecords, hfilter]
  rw [hmem]
  constructor
  · rintro ⟨_, n, hn, rfl⟩
    have hsize : n < 2 ^ 32 := hn.trans c.clipCount.toNat_lt
    rwa [UInt32.lt_iff_toNat_lt, UInt32.toNat_ofNat_of_lt' hsize]
  · intro hi
    have hnat : i.toNat < c.clipCount.toNat := UInt32.lt_iff_toNat_lt.mp hi
    exact ⟨UInt32.lt_iff_toNat_lt.mpr (Nat.zero_lt_of_lt hnat), i.toNat, hnat,
      UInt32.ofNat_toNat⟩

theorem lightColor_mem_fragment (i : UInt32) :
    lightColor i ∈ globals (filteredFragmentRecords c o filter) ↔
      c.isShaded ∧ ∃ slot ∈ c.lightSlots, i = slot.index := by
  simp [globals_filteredFragmentRecords, hfilter]

theorem lightAttenuation_mem_fragment (i : UInt32) :
    lightAttenuation i ∈ globals (filteredFragmentRecords c o filter) ↔
      c.isShaded ∧ ∃ slot ∈ c.lightSlots, slot.isPositional ∧ i = slot.index := by
  simp [globals_filteredFragmentRecords, hfilter]

theorem lightCutoff_mem_fragment (i : UInt32) :
    lightCutoff i ∈ globals (filteredFragmentRecords c o filter) ↔
      c.isShaded ∧ ∃ slot ∈ c.lightSlots, slot.type = .spot ∧ i = slot.index := by
  simp [globals_filteredFragmentRecords, hfilter]

theorem shadowMap_mem_fragment (i : UInt32) :
    shadowMap i ∈ globals (filteredFragmentRecords c o filter) ↔
      c.isShaded ∧ ∃ slot ∈ c.lightSlots, slot.castsShadow ∧ i = slot.index := by
  simp [globals_filteredFragmentRecords, hfilter]

theorem textureMap_mem_fragment (channel : TextureChannel) :
    textureMap channel ∈ globals (filteredFragmentRecords c o filter) ↔
      c.usesUv ∧ ∃ feature, (channel, feature) ∈ c.sampledTextures := by
  simp [globals_filteredFragmentRecords, hfilter]

theorem textureMatrix_mem_fragment (channel : TextureChannel) :
    textureMatrix channel ∈ globals (filteredFragmentRecords c o filter) ↔
      c.usesUv ∧ ∃ feature, (channel, feature) ∈ c.sampledTextures ∧ feature.hasMatrix := by
  simp [globals_filteredFragmentRecords, hfilter]

theorem fresnelEdgeBias_mem_fragment (channel : FresnelChannel) :
    fresnelEdgeBias channel ∈ globals (filteredFragmentRecords c o filter) ↔
      c.fresnel.contains channel := by
  cases channel <;>
    simp [globals_filteredFragmentRecords, hfilter, FresnelFlags.toList, FresnelChannel.all]

theorem lightMap_mem_fragment :
    lightMap ∈ globals (filteredFragmentRecords c o filter) ↔ c.isShaded ∧ c.hasLightMap := by
  simp [globals_filteredFragmentRecords, hfilter]

theorem reflectionMap_mem_fragment :
    reflectionMap ∈ globals (filteredFragmentRecords c o filter) ↔
      c.isShaded ∧ c.hasReflectionMap := by
  simp [globals_filteredFragmentRecords, hfilter]

end Fragment

end SceneRenderer.Shader
