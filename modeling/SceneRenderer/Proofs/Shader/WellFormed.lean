import SceneRenderer.Proofs.Frame.MaterialShape

/-!
Classified features are well formed: whatever geometry, material, lights and modes they were read
off, their flags, slots, textures and blends agree with these and with each other. Classification
decides each of them for itself and normalization takes some back, so what one flag says about
another has to outlast both. The main statement is `classify_wellFormed`.
-/

set_option autoImplicit false
set_option relaxedAutoImplicit false

namespace SceneRenderer.Shader

/-! ### Slots of lights -/

/-- Slots for all lights but the ambient ones, in the order of the lights. -/
structure ListsLights (lights : List Light) (modes : DrawModes) (slots : List LightSlot) :
    Prop where
  ascending : slots.Pairwise fun s t ↦ s.index < t.index
  complete : ∀ i light, lights[i]? = some light → light.type ≠ .ambient →
    ∃ slot ∈ slots, slot.index.toNat = i
  ofLight : ∀ slot ∈ slots, ∃ light, lights[slot.index.toNat]? = some light ∧
    light.type ≠ .ambient ∧ slot.type = light.type ∧ slot.space = light.space ∧
    (slot.castsShadow = true ↔ modes.receiveShadow = true ∧ light.castsShadow = true)

/-- Whether any light casts a shadow does not matter to the slots: a light that does answers it. -/
theorem lightSlots_and_any (lights : List Light) (receives : Bool) :
    lightSlots lights (receives && lights.any Light.castsShadow) = lightSlots lights receives := by
  refine List.map_congr_left fun l hl ↦ ?_
  have hmem : l.1 ∈ lights := List.fst_mem_of_mem_zipIdx (List.mem_filter.mp hl).1
  cases hcasts : l.1.castsShadow with
  | false => rw [Bool.and_false, Bool.and_false]
  | true =>
    have hany : lights.any Light.castsShadow = true := List.any_eq_true.mpr ⟨l.1, hmem, hcasts⟩
    rw [hany, Bool.and_true]

theorem mem_lightSlots {lights : List Light} {receives : Bool} {slot : LightSlot} :
    slot ∈ lightSlots lights receives ↔ ∃ i light, lights[i]? = some light ∧
      light.type ≠ .ambient ∧
      slot = ⟨UInt32.ofNat i, light.type, light.space, receives && light.castsShadow⟩ := by
  rw [lightSlots, List.mem_map]
  constructor
  · rintro ⟨⟨light, i⟩, hl, rfl⟩
    obtain ⟨hl, htype⟩ := List.mem_filter.mp hl
    exact ⟨i, light, List.mem_zipIdx_iff_getElem?.mp hl, by simpa [Light.isAmbient] using htype,
      rfl⟩
  · rintro ⟨i, light, hl, htype, rfl⟩
    refine ⟨(light, i), List.mem_filter.mpr ⟨List.mem_zipIdx_iff_getElem?.mpr hl, ?_⟩, rfl⟩
    simpa [Light.isAmbient] using htype

theorem listsLights_lightSlots {lights : List Light} (hlights : lights.length < 2 ^ 32)
    (modes : DrawModes) : ListsLights lights modes (lightSlots lights modes.receiveShadow) := by
  have hindex {i : Nat} {light : Light} (hl : lights[i]? = some light) :
      (UInt32.ofNat i).toNat = i := by
    obtain ⟨hi, -⟩ := List.getElem?_eq_some_iff.mp hl
    exact UInt32.toNat_ofNat_of_lt' (hi.trans hlights)
  refine ⟨lightSlots_pairwise lights _ hlights, fun i light hl htype ↦ ?_, fun slot hslot ↦ ?_⟩
  · exact ⟨_, mem_lightSlots.mpr ⟨i, light, hl, htype, rfl⟩, hindex hl⟩
  · obtain ⟨i, light, hl, htype, rfl⟩ := mem_lightSlots.mp hslot
    refine ⟨light, ?_, htype, rfl, rfl, Bool.and_eq_true_iff⟩
    rw [hindex hl, hl]

theorem FresnelFlags.mem_toList {f : FresnelFlags} {channel : FresnelChannel} :
    channel ∈ f.toList ↔ f.contains channel = true := by
  have hall : channel ∈ FresnelChannel.all := by cases channel <;> decide
  rw [toList, List.mem_filter, and_iff_right hall]

/-! ### Features as a whole -/

theorem Features.Classified.hasUv_iff {c : Features} (hc : c.Classified) :
    c.hasUv = true ↔ ∃ channel, c.textures.contains channel = true := by
  rw [hc.hasUv, Bool.not_eq_true', ← Bool.not_eq_true, TextureFlags.isEmpty_iff]
  simp [TextureFlags.contains, Option.isSome_iff_ne_none]

theorem Features.Coherent.phong_of_fresnel {c : Features} (hc : c.Coherent)
    (hsome : c.fresnel.isEmpty = false) : c.model = .phong ∧ c.isShaded = true := by
  rw [FresnelFlags.isEmpty, List.isEmpty_eq_false_iff] at hsome
  obtain ⟨channel, hchannel⟩ := List.exists_mem_of_ne_nil _ hsome
  obtain ⟨hshaded, hphong, -⟩ := hc.blends channel hchannel
  exact ⟨hphong, hshaded⟩

/-- Features that agree with what they were read off, and among themselves. -/
structure Features.WellFormed (geometry : Geometry) (material : Material) (lights : List Light)
    (clips : List ClipPlane) (modes : DrawModes) (scene : SceneFlags) (c : Features) : Prop where
  lightSlots : c.lightSlots = [] ∨ ListsLights lights modes c.lightSlots
  /-- The slots are there if the drawable can be lit. -/
  lit : geometry.topology.isTriangles = true → geometry.declaresNormals = true →
    ListsLights lights modes c.lightSlots
  receivesShadow : c.receivesShadow = true ↔ ∃ slot ∈ c.lightSlots, slot.castsShadow = true
  hasNormals : c.hasNormals = c.isShaded
  normals : c.hasNormals = true →
    geometry.topology.isTriangles = true ∧ geometry.declaresNormals = true
  hasUv : c.hasUv = true ↔ ∃ channel, c.textures.contains channel = true
  textures : ∀ channel feature, c.textures.get channel = some feature →
    channel ∈ textureChannels material.model ∧ c.samples channel = true ∧
      ∃ t, material.texture channel = some t ∧ feature = ⟨t.encoding, t.matrix.isSome⟩
  normalMap : c.textures.contains .normal = c.hasNormalMap
  normalMapParts : c.hasNormalMap = true →
    c.hasUv = true ∧ geometry.hasUv = true ∧ geometry.hasIndices = true
  reflectivity : c.textures.contains .reflectivity = true ∨
    c.fresnel.contains .reflectivity = true → c.hasReflectionMap = true
  reflectionMap : c.hasReflectionMap = true →
    c.model ≠ .lambert ∧ c.hasNormals = true ∧ scene.hasReflectionMap = true
  lightMap : c.hasLightMap = true → c.hasNormals = true ∧ scene.hasLightMap = true
  fresnel : c.fresnel.isEmpty = false → c.model = .phong ∧ c.hasNormals = true
  blends : ∀ channel, c.fresnel.contains channel = true → (material.fresnel channel).isSome = true
  gammaInput : c.gammaInput = true ↔ scene.gammaInput = true ∧ geometry.hasColors = true
  clipCount : c.clipCount = if modes.clippable then UInt32.ofNat clips.length else 0
  model : c.model = material.model

section Classify

variable (geometry : Geometry) (material : Material) (lights : List Light) (clips : List ClipPlane)
  (modes : DrawModes) (scene : SceneFlags)

theorem lightSlots_classify :
    (classify geometry material lights clips modes scene).lightSlots =
      if usableNormals geometry then lightSlots lights modes.receiveShadow else [] := by
  rw [← lightSlots_and_any]
  rfl

theorem usableNormals_iff : usableNormals geometry = true ↔
    geometry.topology.isTriangles = true ∧ geometry.declaresNormals = true := by
  rw [usableNormals, Bool.and_eq_true, and_comm]

theorem usableNormals_of_hasNormals
    (hnormals : (classify geometry material lights clips modes scene).hasNormals = true) :
    usableNormals geometry = true :=
  (Bool.and_eq_true_iff.mp hnormals).1

/-- A texture that is left is read, and was asked for by the material. -/
theorem get_textures_classify {channel : TextureChannel} {feature : TextureFeature}
    (hget : (classify geometry material lights clips modes scene).textures.get channel =
      some feature) :
    (channel, feature) ∈ (classify geometry material lights clips modes scene).sampledTextures ∧
      geometry.hasUv = true ∧
      (channel = .normal → usableNormalMap geometry material = true) ∧
      ∃ t, material.texture channel = some t ∧ feature = ⟨t.encoding, t.matrix.isSome⟩ := by
  have hrequested := hget
  rw [classify, Features.normalize, TextureFlags.get_ofFn] at hrequested
  obtain ⟨hsamples, hrequested⟩ := Option.ite_none_right_eq_some.mp hrequested
  change (TextureFlags.ofFn _).get channel = some feature at hrequested
  rw [TextureFlags.get_ofFn] at hrequested
  obtain ⟨hallowed, htexture⟩ := Option.ite_none_right_eq_some.mp hrequested
  obtain ⟨huv, hallowed⟩ := Bool.and_eq_true_iff.mp hallowed
  obtain ⟨t, ht, rfl⟩ := Option.map_eq_some_iff.mp htexture
  refine ⟨List.mem_filter.mpr ⟨TextureFlags.mem_toList.mpr hget, ?_⟩, huv, ?_, t, ht, rfl⟩
  · exact (Features.samples_normalize _ channel).trans hsamples
  · rintro rfl
    exact hallowed

theorem normalMapParts_classify
    (hnormal : (classify geometry material lights clips modes scene).textures.contains .normal =
      true) : geometry.hasUv = true ∧ geometry.hasIndices = true := by
  obtain ⟨feature, hget⟩ := Option.isSome_iff_exists.mp hnormal
  obtain ⟨-, huv, husable, -⟩ :=
    get_textures_classify geometry material lights clips modes scene hget
  have hparts := husable rfl
  simp only [usableNormalMap, Bool.and_eq_true] at hparts
  exact ⟨huv, hparts.1.2⟩

/-- Both what a texture and what a blend do to reflections needs a map of them. -/
theorem reflectivity_classify
    (hdrives :
      (classify geometry material lights clips modes scene).textures.contains .reflectivity = true ∨
        (classify geometry material lights clips modes scene).fresnel.contains .reflectivity =
          true) :
    (classify geometry material lights clips modes scene).hasReflectionMap = true := by
  have hcoherent := classify_coherent geometry material lights clips modes scene
  rcases hdrives with htexture | hblend
  · obtain ⟨feature, hget⟩ := Option.isSome_iff_exists.mp htexture
    obtain ⟨hsampled, -⟩ := get_textures_classify geometry material lights clips modes scene hget
    exact hcoherent.reflectivity _ hsampled rfl
  · exact (hcoherent.blends _ (FresnelFlags.mem_toList.mpr hblend)).2.2 rfl

theorem reflectionMap_classify
    (hmap : (classify geometry material lights clips modes scene).hasReflectionMap = true) :
    material.model ≠ .lambert ∧ scene.hasReflectionMap = true := by
  change usableReflectionMap geometry material scene = true at hmap
  simp only [usableReflectionMap, Bool.and_eq_true, bne_iff_ne] at hmap
  exact ⟨hmap.2, hmap.1.2⟩

theorem lightMap_classify
    (hmap : (classify geometry material lights clips modes scene).hasLightMap = true) :
    scene.hasLightMap = true :=
  (Bool.and_eq_true_iff.mp hmap).2

theorem listsLights_classify (hlights : lights.length < 2 ^ 32)
    (hnormals : usableNormals geometry = true) :
    ListsLights lights modes (classify geometry material lights clips modes scene).lightSlots := by
  rw [lightSlots_classify, if_pos hnormals]
  exact listsLights_lightSlots hlights modes

/-- Classified features are well formed. -/
theorem classify_wellFormed (hlights : lights.length < 2 ^ 32) :
    (classify geometry material lights clips modes scene).WellFormed geometry material lights
      clips modes scene := by
  have hclassified := classify_classified geometry material lights clips modes scene hlights
  have hcoherent := classify_coherent geometry material lights clips modes scene
  have hfits := fits_classify geometry material lights clips modes scene
  have hlit := listsLights_classify geometry material lights clips modes scene hlights
  have husable := usableNormals_of_hasNormals geometry material lights clips modes scene
  have hget := @get_textures_classify geometry material lights clips modes scene
  have hreflection := reflectionMap_classify geometry material lights clips modes scene
  have hshaded (h : (classify geometry material lights clips modes scene).isShaded = true) :=
    hclassified.hasNormals.trans h
  refine
    { lightSlots := ?slots
      lit := fun htriangles hdeclares ↦ hlit ((usableNormals_iff _).mpr ⟨htriangles, hdeclares⟩)
      receivesShadow := by rw [hclassified.receivesShadow, List.any_eq_true]
      hasNormals := hclassified.hasNormals
      normals := fun h ↦ (usableNormals_iff _).mp (husable h)
      hasUv := hclassified.hasUv_iff
      textures := ?textures
      normalMap := hclassified.hasNormalMap.symm
      normalMapParts := ?normalMapParts
      reflectivity := reflectivity_classify geometry material lights clips modes scene
      reflectionMap := fun h ↦
        ⟨(hreflection h).1, hshaded (hclassified.reflectionMap h), (hreflection h).2⟩
      lightMap := fun h ↦ ⟨hshaded (hclassified.lightMap h), lightMap_classify _ _ _ _ _ _ h⟩
      fresnel := fun h ↦ (hcoherent.phong_of_fresnel h).imp_right hshaded
      blends := fun channel h ↦ hfits.fresnel channel (FresnelFlags.mem_toList.mpr h)
      gammaInput := Bool.and_eq_true_iff
      clipCount := rfl
      model := rfl }
  case slots =>
    cases h : usableNormals geometry with
    | true => exact .inr (hlit h)
    | false => exact .inl (by rw [lightSlots_classify, h]; rfl)
  case textures =>
    intro channel feature h
    obtain ⟨hsampled, -, -, ht⟩ := hget h
    exact ⟨hcoherent.channels _ hsampled, (List.mem_filter.mp hsampled).2, ht⟩
  case normalMapParts =>
    intro h
    have hnormal := hclassified.hasNormalMap.symm.trans h
    exact ⟨hclassified.hasUv_iff.mpr ⟨.normal, hnormal⟩,
      normalMapParts_classify geometry material lights clips modes scene hnormal⟩

end Classify

/-- A triangle with everything that a map of normals needs. -/
def glazedTile : Geometry :=
  { Geometry.ofTriangles ⟨0⟩ [] with
    autoNormals := true
    uv := some (.float32 [0.0, 0.0])
    indices := some (.uint16 [0, 0, 0]) }

/-- A surface with a map of normals, a map of reflections, and a blend of them. -/
def glaze : Material :=
  .ofSurface ⟨0⟩ <| .phong
    { PhongSurface.standard with
      normalMap := some ⟨⟨0⟩, none, .linear⟩
      reflectivityMap := some ⟨⟨1⟩, some .identity, .srgb⟩
      reflectivityFresnel := some .standard }

theorem classify_wellFormed_glazedTile :
    let lights := [.ambient .one 1.0, .ofShape (.spot .zero .one .none 0.5),
      (Light.directional .one .view).withShadow .identity .identity]
    let c := classify glazedTile glaze lights [] .standard ⟨true, false, false, true⟩
    (lights.length < 2 ^ 32 ∧ c.lightSlots.map (·.index) = [1, 2] ∧ c.hasNormalMap = true ∧
        c.hasReflectionMap = true ∧ c.gammaInput = false) ∧
      c.WellFormed glazedTile glaze lights [] .standard ⟨true, false, false, true⟩ :=
  ⟨⟨by decide, rfl, rfl, rfl, rfl⟩, classify_wellFormed _ _ _ _ _ _ (by decide)⟩

end SceneRenderer.Shader
