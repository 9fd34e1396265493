import Mathlib.Algebra.GroupWithZero.Nat
import SceneRenderer.Proofs.Frame.ShadowFreshness
import SceneRenderer.Proofs.Shader.Interface

/-!
Whatever the stages of a program declare as a uniform is uploaded for a draw. The declaring side
goes by the features alone; the uploading side goes by the scene and the material, and skips lights,
clip planes, textures and blends that it does not find. `FrameGlobals.Serves` and `Material.Fits`
say that nothing is missing where the features were classified from the same scene and material.

The main statements are `sets_of_declared` and `sets_of_declared_depth`.
-/

set_option autoImplicit false
set_option relaxedAutoImplicit false

namespace SceneRenderer

open Shader

/-- A uniform is among some uploads. -/
def Sets (uploads : List Upload) (n : Name) : Prop := ∃ value, Upload.uniform n value ∈ uploads

section Sets

variable {n : Name}

@[simp]
theorem sets_nil : ¬ Sets [] n := fun ⟨_, hmem⟩ ↦ List.not_mem_nil hmem

@[simp]
theorem sets_cons_uniform {m : Name} {value : UniformValue} {rest : List Upload} :
    Sets (.uniform m value :: rest) n ↔ n = m ∨ Sets rest n := by
  simp [Sets, exists_or]

@[simp]
theorem sets_append {front back : List Upload} :
    Sets (front ++ back) n ↔ Sets front n ∨ Sets back n := by
  simp [Sets, exists_or]

theorem sets_flatMap {α : Type} {l : List α} {f : α → List Upload} :
    Sets (l.flatMap f) n ↔ ∃ a ∈ l, Sets (f a) n := by
  simp only [Sets, List.mem_flatMap]
  grind

@[simp]
theorem sets_samplerUploads {unit : UInt32} {target : TextureTarget} {texture : Option TextureId}
    {name : Name} : Sets (samplerUploads unit target texture name) n ↔ n = name := by
  cases texture <;> simp [samplerUploads, Sets]

/-- What an item uploads in any unit is uploaded among others. -/
theorem sets_inUnits {α : Type} {uploads : UInt32 → α → List Upload × UInt32} {items : List α}
    {a : α} (ha : a ∈ items) (hsets : ∀ unit, Sets (uploads unit a).1 n) (unit : UInt32) :
    Sets (inUnits uploads unit items).1 n := by
  induction items generalizing unit with
  | nil => exact absurd ha List.not_mem_nil
  | cons first rest ih =>
    show Sets ((uploads unit first).1 ++ (inUnits uploads (uploads unit first).2 rest).1) n
    rw [sets_append]
    rcases List.mem_cons.mp ha with rfl | hrest
    · exact .inl (hsets unit)
    · exact .inr (ih hrest _)

end Sets

/-! ### Lights, maps and clip planes -/

/-- A uniform of a single light. -/
def Shader.Name.isOfLight : Name → Bool
  | .lightColor _ | .lightDir _ | .lightPos _ | .lightAttenuation _ | .lightCutoff _
  | .shadowViewMatrix _ | .shadowProjMatrix _ | .shadowMap _ => true
  | _ => false

/-- What a program reads of a light that has a slot in it. -/
def Shader.LightSlot.Reads (slot : LightSlot) (n : Name) : Prop :=
  n = .lightColor slot.index ∨
    (n = .lightDir slot.index ∧ (¬ slot.isPositional ∨ slot.type = .spot)) ∨
    ((n = .lightPos slot.index ∨ n = .lightAttenuation slot.index) ∧ slot.isPositional) ∨
    (n = .lightCutoff slot.index ∧ slot.type = .spot) ∨
    slot.castsShadow ∧ (n = .shadowViewMatrix slot.index ∨ n = .shadowProjMatrix slot.index ∨
      n = .shadowMap slot.index)

/-- The scene has the lights and the clip planes that features speak of. -/
structure FrameGlobals.Serves (g : FrameGlobals) (c : Features) : Prop where
  lights : ∀ slot ∈ c.lightSlots, ∃ light, g.lights[slot.index.toNat]? = some light ∧
    light.type = slot.type ∧ slot.type ≠ .ambient
  clips : c.clipCount.toNat ≤ g.clips.length

/-- A scene serves the features that were classified from it. -/
theorem Shader.serves_classify {g : FrameGlobals} (hlights : g.lights.length < 2 ^ 32)
    (geometry : Geometry) (material : Material) (modes : DrawModes) (scene : SceneFlags) :
    g.Serves (classify geometry material g.lights g.clips modes scene) where
  lights slot hslot := by
    have htype := type_of_mem_classify geometry material g.lights g.clips modes scene slot hslot
    change slot ∈ if usableNormals geometry then _ else [] at hslot
    split at hslot
    · obtain ⟨⟨light, i⟩, hlight, rfl⟩ := List.mem_map.mp hslot
      have hget : g.lights[i]? = some light :=
        List.mk_mem_zipIdx_iff_getElem?.mp (List.mem_filter.mp hlight).1
      have hsize : i < 2 ^ 32 := lt_trans (List.getElem?_eq_some_iff.mp hget).1 hlights
      refine ⟨light, ?_, rfl, htype⟩
      show g.lights[(UInt32.ofNat i).toNat]? = some light
      rwa [UInt32.toNat_ofNat_of_lt' hsize]
    · exact absurd hslot List.not_mem_nil
  clips := by
    show (if modes.clippable then UInt32.ofNat g.clips.length else 0).toNat ≤ g.clips.length
    split
    · exact Nat.mod_le _ _
    · exact Nat.zero_le _

namespace FrameGlobals

variable {g : FrameGlobals} {c : Features} {n : Name}

theorem sets_lightUploads {i : UInt32} {light : Light} :
    Sets (lightUploads i light) n ↔ n = .lightColor i ∨
      (n = .lightDir i ∧ (light.type = .directional ∨ light.type = .spot)) ∨
      ((n = .lightPos i ∨ n = .lightAttenuation i) ∧
        (light.type = .point ∨ light.type = .spot)) ∨
      (n = .lightCutoff i ∧ light.type = .spot) := by
  unfold lightUploads Light.type
  cases light.shape <;> simp [LightShape.type]
  grind

theorem sets_slotUploads {unit : UInt32} {slot : LightSlot} {light : Light}
    (hlight : g.lights[slot.index.toNat]? = some light) :
    Sets (g.slotUploads unit slot).1 n ↔ Sets (lightUploads slot.index light) n ∨
      slot.castsShadow ∧ (n = .shadowViewMatrix slot.index ∨ n = .shadowProjMatrix slot.index ∨
        n = .shadowMap slot.index) := by
  unfold slotUploads
  rw [hlight]
  cases slot.castsShadow <;> simp

/-- What a program reads of a light is uploaded with the program. -/
theorem sets_uploads_of_slot (hserves : g.Serves c) {slot : LightSlot} (hslot : slot ∈ c.lightSlots)
    (hn : slot.Reads n) : Sets (g.uploads c).1 n := by
  obtain ⟨light, hlight, htype, hambient⟩ := hserves.lights slot hslot
  refine sets_append.mpr (.inl (sets_append.mpr (.inl (sets_append.mpr (.inr
    (sets_inUnits hslot (fun unit ↦ ?_) 0))))))
  have hpositional : slot.isPositional ↔ slot.type = .point ∨ slot.type = .spot := by
    simp [LightSlot.isPositional]
  have hdirectional : ¬ slot.isPositional → slot.type = .directional := by
    rw [hpositional]
    intro hother
    cases htype' : slot.type <;> simp_all
  rw [sets_slotUploads hlight, sets_lightUploads, htype]
  rcases hn with hn | ⟨hn, hkind⟩ | ⟨hn, hkind⟩ | ⟨hn, hkind⟩ | hshadow
  · exact .inl (.inl hn)
  · exact .inl (.inr (.inl ⟨hn, hkind.imp_left hdirectional⟩))
  · exact .inl (.inr (.inr (.inl ⟨hn, hpositional.mp hkind⟩)))
  · exact .inl (.inr (.inr (.inr ⟨hn, hkind⟩)))
  · exact .inr hshadow

theorem sets_uploads_of_shared (hshared : n = .viewMatrix ∨ n = .projMatrix ∨
    n = .viewNormalMatrix ∨ n = .gammaFactor ∨ n = .lightAmbient) : Sets (g.uploads c).1 n :=
  sets_append.mpr (.inl (sets_append.mpr (.inl (sets_append.mpr (.inl (by simpa using hshared))))))

theorem sets_uploads_of_map (texture : Option TextureId)
    (hmap : (texture, n) ∈ g.environmentMaps c) :
    Sets (g.uploads c).1 n :=
  sets_append.mpr (.inl (sets_append.mpr (.inr
    (sets_inUnits hmap (fun _ ↦ sets_samplerUploads.mpr rfl) _))))

theorem sets_uploads_of_clip (hserves : g.Serves c) {i : Nat} (hi : i < c.clipCount.toNat)
    (hn : n = .clipActive (UInt32.ofNat i) ∨ n = .clipPos (UInt32.ofNat i) ∨
      n = .clipDir (UInt32.ofNat i)) : Sets (g.uploads c).1 n := by
  refine sets_append.mpr (.inr (sets_flatMap.mpr ?_))
  have hlength : i < (g.clips.take c.clipCount.toNat).length := by
    rw [List.length_take]
    exact lt_min hi (lt_of_lt_of_le hi hserves.clips)
  exact ⟨(_, i), List.mk_mem_zipIdx_iff_getElem?.mpr (List.getElem?_eq_getElem hlength),
    by simpa using hn⟩

end FrameGlobals

/-! ### Materials -/

namespace Material

variable {m : Material} {c : Features} {n : Name} {units : TextureUnits}

/-- A surface uploads what the programs of its model read. -/
theorem sets_surface {s : Surface} (hmodel : s.model = c.model)
    (hn : n ∈ globals (materialRecords c)) : Sets s.uploads n := by
  rw [globals_materialRecords, ← hmodel] at hn
  cases s <;> simp [Surface.model, Surface.uploads] at hn ⊢ <;> grind

theorem sets_uploads_of_surface (hfits : m.Fits c) (hn : n ∈ globals (materialRecords c)) :
    Sets (m.uploads c units).1 n := by
  rw [uploads_fst]
  exact sets_append.mpr (.inl (sets_append.mpr (.inl (sets_append.mpr
    (.inr (sets_surface hfits.model hn))))))

theorem sets_uploads_of_own (hn : n = .materialAlphaModeCutoff ∨ n = .pointSize) :
    Sets (m.uploads c units).1 n := by
  rw [uploads_fst]
  exact sets_append.mpr (.inl (sets_append.mpr (.inl (sets_append.mpr (.inl (by simpa using hn))))))

theorem sets_uploads_of_fresnel (hfits : m.Fits c) {channel : FresnelChannel}
    (hchannel : channel ∈ c.fresnel.toList)
    (hn : n = .fresnelEdgeBias channel ∨ n = .fresnelCenterBias channel ∨
      n = .fresnelPower channel ∨ n = .fresnelEdgeColor channel ∨ n = .fresnelCenterColor channel) :
    Sets (m.uploads c units).1 n := by
  obtain ⟨f, hf⟩ := Option.isSome_iff_exists.mp (hfits.fresnel channel hchannel)
  rw [uploads_fst]
  refine sets_append.mpr (.inl (sets_append.mpr (.inr (sets_flatMap.mpr ⟨channel, hchannel, ?_⟩))))
  rw [blendUploads, hf]
  simpa [Fresnel.uploads] using hn

/-- A texture uploads its sampler, and its matrix if it has one. -/
theorem sets_textureUploads {channels : List TextureChannel} {channel : TextureChannel}
    (hchannel : channel ∈ channels) {t : TextureUse} (ht : m.texture channel = some t)
    (hn : n = .textureMap channel ∨ n = .textureMatrix channel ∧ t.matrix.isSome) :
    Sets (m.textureUploads units channels).1 n := by
  induction channels generalizing units with
  | nil => exact absurd hchannel List.not_mem_nil
  | cons first rest ih =>
    unfold textureUploads
    rcases List.mem_cons.mp hchannel with rfl | hrest
    · rw [ht]
      refine sets_append.mpr (.inl (sets_append.mpr ?_))
      rcases hn with rfl | ⟨rfl, hmatrix⟩
      · exact .inl (sets_samplerUploads.mpr rfl)
      · obtain ⟨matrix, hmatrix⟩ := Option.isSome_iff_exists.mp hmatrix
        rw [hmatrix]
        exact .inr ⟨_, List.mem_singleton_self _⟩
    · cases m.texture first with
      | none => exact ih hrest
      | some u => exact sets_append.mpr (.inr (ih hrest))

theorem sets_uploads_of_texture (hfits : m.Fits c) {channel : TextureChannel}
    {feature : TextureFeature} (hsampled : (channel, feature) ∈ c.sampledTextures)
    (hn : n = .textureMap channel ∨ n = .textureMatrix channel ∧ feature.hasMatrix) :
    Sets (m.uploads c units).1 n := by
  obtain ⟨t, ht, hfeature⟩ := Option.map_eq_some_iff.mp (hfits.textures _ hsampled)
  have hmatrix : t.matrix.isSome = feature.hasMatrix := congrArg TextureFeature.hasMatrix hfeature
  rw [uploads_fst]
  refine sets_append.mpr (.inr (sets_textureUploads (List.mem_map_of_mem hsampled) ht ?_))
  rwa [hmatrix]

end Material

/-! ### Whole programs -/

section Program

variable {g : FrameGlobals} {m : Material} {t : Transform Float32} {c : Features}
  {o : ShaderOptions} {filter : List Shader.Record} {units : TextureUnits} {n : Name}
  {type : GlslType}

/-- A uniform of a light that a stage declares is read for one of the slots. -/
theorem exists_slot_of_declared (hfilter : globals filter = []) (hlight : n.isOfLight = true)
    (hn : n ∈ globals (vertexRecords c o) ∨ n ∈ globals (filteredFragmentRecords c o filter)) :
    ∃ slot ∈ c.lightSlots, slot.Reads n := by
  rw [globals_vertexRecords, globals_filteredFragmentRecords c o filter hfilter] at hn
  cases n with
  | lightColor i =>
    obtain ⟨_, slot, hslot, rfl⟩ : c.isShaded = true ∧ ∃ slot ∈ c.lightSlots, i = slot.index := by
      simpa [hfilter] using hn
    exact ⟨slot, hslot, .inl rfl⟩
  | lightDir i =>
    have hslots : (c.isShaded = true ∧ ∃ slot, (slot ∈ c.lightSlots ∧ slot.isWorldSpace = true) ∧
          (slot.type = .directional ∨ slot.type = .spot) ∧ i = slot.index) ∨
        c.isShaded = true ∧ ∃ slot ∈ c.lightSlots,
          ((slot.isWorldSpace = false ∧ slot.isPositional = false) ∧ i = slot.index ∨
            (slot.type = .spot ∧ slot.isWorldSpace = false) ∧ i = slot.index) := by
      simpa [hfilter] using hn
    rcases hslots with ⟨_, slot, ⟨hslot, _⟩, htype, rfl⟩ | ⟨_, slot, hslot, hkind⟩
    · exact ⟨slot, hslot, .inr (.inl
        ⟨rfl, htype.imp_left fun h ↦ by simp [LightSlot.isPositional, h]⟩)⟩
    · rcases hkind with ⟨⟨_, hplain⟩, rfl⟩ | ⟨⟨hspot, _⟩, rfl⟩
      · exact ⟨slot, hslot, .inr (.inl ⟨rfl, .inl (by simp [hplain])⟩)⟩
      · exact ⟨slot, hslot, .inr (.inl ⟨rfl, .inr hspot⟩)⟩
  | lightPos i =>
    have hslots : (c.isShaded = true ∧ ∃ slot, (slot ∈ c.lightSlots ∧ slot.isWorldSpace = true) ∧
          slot.isPositional = true ∧ i = slot.index) ∨
        c.isShaded = true ∧ ∃ slot ∈ c.lightSlots,
          (slot.isWorldSpace = false ∧ slot.isPositional = true) ∧ i = slot.index := by
      simpa [hfilter] using hn
    rcases hslots with ⟨_, slot, ⟨hslot, _⟩, hpos, rfl⟩ | ⟨_, slot, hslot, ⟨_, hpos⟩, rfl⟩
    · exact ⟨slot, hslot, .inr (.inr (.inl ⟨.inl rfl, hpos⟩))⟩
    · exact ⟨slot, hslot, .inr (.inr (.inl ⟨.inl rfl, hpos⟩))⟩
  | lightAttenuation i =>
    obtain ⟨_, slot, hslot, hpos, rfl⟩ : c.isShaded = true ∧
        ∃ slot ∈ c.lightSlots, slot.isPositional = true ∧ i = slot.index := by
      simpa [hfilter] using hn
    exact ⟨slot, hslot, .inr (.inr (.inl ⟨.inr rfl, hpos⟩))⟩
  | lightCutoff i =>
    obtain ⟨_, slot, hslot, hspot, rfl⟩ : c.isShaded = true ∧
        ∃ slot ∈ c.lightSlots, slot.type = .spot ∧ i = slot.index := by
      simpa [hfilter] using hn
    exact ⟨slot, hslot, .inr (.inr (.inr (.inl ⟨rfl, hspot⟩)))⟩
  | shadowMap i =>
    obtain ⟨_, slot, hslot, hcasts, rfl⟩ : c.isShaded = true ∧
        ∃ slot ∈ c.lightSlots, slot.castsShadow = true ∧ i = slot.index := by
      simpa [hfilter] using hn
    exact ⟨slot, hslot, .inr (.inr (.inr (.inr ⟨hcasts, .inr (.inr rfl)⟩)))⟩
  | shadowViewMatrix i | shadowProjMatrix i =>
    obtain ⟨_, slot, hslot, rfl⟩ : c.shadowSlots ≠ [] ∧ ∃ slot ∈ c.shadowSlots, i = slot.index := by
      simpa [hfilter] using hn
    obtain ⟨hslot, hcasts⟩ := List.mem_filter.mp hslot
    exact ⟨slot, hslot, .inr (.inr (.inr (.inr ⟨hcasts, by simp⟩)))⟩
  | _ => cases hlight

/-- Every uniform that a stage of a draw program declares is uploaded with the program, the material
or the transform, but for the matrices that come with a quantized geometry. -/
theorem sets_of_declared (hserves : g.Serves c) (hfits : m.Fits c) (hfilter : globals filter = [])
    (huniform : n.signature c.quantized = some (.uniform, type))
    (hn : n ∈ globals (vertexRecords c o) ∨ n ∈ globals (filteredFragmentRecords c o filter)) :
    Sets ((g.uploads c).1 ++ (m.uploads c units).1 ++ t.uploads c.hasNormals) n ∨
      c.quantized ∧ (n = .positionsDecodeMatrix ∨ n = .uvDecodeMatrix) := by
  suffices hsets : Sets (g.uploads c).1 n ∨ Sets (m.uploads c units).1 n ∨
      Sets (t.uploads c.hasNormals) n ∨
        c.quantized ∧ (n = .positionsDecodeMatrix ∨ n = .uvDecodeMatrix) by
    rwa [sets_append, sets_append, or_assoc, or_assoc]
  have hdeclared := hn
  rw [globals_vertexRecords, globals_filteredFragmentRecords c o filter hfilter] at hn
  cases n with
  | viewMatrix | projMatrix | viewNormalMatrix | gammaFactor | lightAmbient =>
    exact .inl (FrameGlobals.sets_uploads_of_shared (by simp))
  | modelMatrix => exact .inr (.inr (.inl (by simp [Transform.uploads])))
  | modelNormalMatrix =>
    have hshaded : c.isShaded = true := by simpa [hfilter] using hn
    have hnormals : c.hasNormals = true := (Bool.and_eq_true_iff.mp hshaded).1
    exact .inr (.inr (.inl (by simp [Transform.uploads, hnormals])))
  | positionsDecodeMatrix =>
    have hquantized : c.quantized = true := by simpa [hfilter] using hn
    exact .inr (.inr (.inr ⟨hquantized, .inl rfl⟩))
  | uvDecodeMatrix =>
    have hquantized : c.usesUv = true ∧ c.quantized = true := by simpa [hfilter] using hn
    exact .inr (.inr (.inr ⟨hquantized.2, .inr rfl⟩))
  | lightMap =>
    have hmap : c.isShaded = true ∧ c.hasLightMap = true := by simpa [hfilter] using hn
    exact .inl (FrameGlobals.sets_uploads_of_map g.environment.lightMap
      (by simp [FrameGlobals.environmentMaps, hmap.2]))
  | reflectionMap =>
    have hmap : c.isShaded = true ∧ c.hasReflectionMap = true := by simpa [hfilter] using hn
    exact .inl (FrameGlobals.sets_uploads_of_map g.environment.reflectionMap
      (by simp [FrameGlobals.environmentMaps, hmap.2]))
  | materialAlphaModeCutoff | pointSize =>
    exact .inr (.inl (Material.sets_uploads_of_own (by simp)))
  | materialEmissive | materialAlpha =>
    exact .inr (.inl (Material.sets_uploads_of_surface hfits (by simp)))
  | materialAmbient | materialColor | materialDiffuse | materialSpecular | materialShininess
  | materialReflectivity | materialBaseColor | materialMetallic | materialRoughness
  | materialSpecularF0 | materialGlossiness =>
    exact .inr (.inl (Material.sets_uploads_of_surface hfits (by simpa [hfilter] using hn)))
  | lightColor i | lightDir i | lightPos i | lightAttenuation i | lightCutoff i | shadowMap i
  | shadowViewMatrix i | shadowProjMatrix i =>
    obtain ⟨slot, hslot, hreads⟩ := exists_slot_of_declared hfilter rfl hdeclared
    exact .inl (FrameGlobals.sets_uploads_of_slot hserves hslot hreads)
  | clipActive i | clipPos i | clipDir i =>
    obtain ⟨_, j, hj, rfl⟩ : 0 < c.clipCount ∧ ∃ j < c.clipCount.toNat, UInt32.ofNat j = i := by
      simpa [hfilter] using hn
    exact .inl (FrameGlobals.sets_uploads_of_clip hserves hj (by simp))
  | textureMap channel =>
    obtain ⟨_, feature, hsampled⟩ : c.usesUv = true ∧ ∃ feature,
        (channel, feature) ∈ c.sampledTextures := by simpa [hfilter] using hn
    exact .inr (.inl (Material.sets_uploads_of_texture hfits hsampled (.inl rfl)))
  | textureMatrix channel =>
    obtain ⟨_, feature, hsampled, hmatrix⟩ : c.usesUv = true ∧ ∃ feature,
        (channel, feature) ∈ c.sampledTextures ∧ feature.hasMatrix = true := by
      simpa [hfilter] using hn
    exact .inr (.inl (Material.sets_uploads_of_texture hfits hsampled (.inr ⟨rfl, hmatrix⟩)))
  | fresnelEdgeBias channel | fresnelCenterBias channel | fresnelPower channel
  | fresnelEdgeColor channel | fresnelCenterColor channel =>
    exact .inr (.inl (Material.sets_uploads_of_fresnel hfits (by simpa [hfilter] using hn)
      (by simp)))
  | vertexInput a => cases a <;> cases huniform
  | _ => cases huniform

/-- A depth program declares matrices and the size of points, all of which are uploaded. -/
theorem sets_of_declared_depth {d : DepthFeatures} (light : Light) (t : Transform Float32)
    (size : Float32) (huniform : n.signature d.quantized = some (.uniform, type))
    (hn : n ∈ globals (depthVertexRecords d o)) :
    Sets (light.shadowUploads ++ t.uploads false ++ [.uniform .pointSize (.float size)]) n ∨
      d.quantized ∧ n = .positionsDecodeMatrix := by
  have hcases : n = .vertexInput .position ∨ n = .modelMatrix ∨ n = .viewMatrix ∨ n = .projMatrix ∨
      d.quantized ∧ n = .positionsDecodeMatrix ∨ d.isPoints ∧ n = .pointSize := by
    simpa [depthVertexRecords, precisionRecord, outputPositionRecord, pointSizeRecords] using hn
  rcases hcases with rfl | rfl | rfl | rfl | hdecode | ⟨_, rfl⟩
  · cases huniform
  · exact .inl (by simp [Transform.uploads])
  · exact .inl (by simp [Light.shadowUploads])
  · exact .inl (by simp [Light.shadowUploads])
  · exact .inr hdecode
  · exact .inl (by simp)

end Program

/-! ### What nothing uploads -/

/-- A uniform among uploads of one level has this level. -/
theorem Sets.level_eq {l : Level} {uploads : List Upload} {n : Name} (hsets : Sets uploads n)
    (hlevel : ∀ upload ∈ uploads, upload.slot.level = l) : n.level = l := by
  obtain ⟨value, hmem⟩ := hsets
  exact hlevel _ hmem

/-- Uploads leave the places of other uniforms alone. -/
theorem ProgramBindings.Distinct.effect_uploadAll_eq_none {b : ProgramBindings} (hb : b.Distinct)
    {uploads : List Upload} {n : Name} (hother : ¬ Sets uploads n) {location : UniformLocation}
    (hlocation : b.uniform? n.text = some location) :
    effect (b.uploadAll uploads) (.uniform location) = none := by
  rw [← Option.not_isSome_iff_eq_none]
  intro hset
  obtain ⟨m, value, hmem, hplace, _⟩ := exists_value_of_effect hset
  obtain rfl : m = n := Name.text_injective (hb _ _ location hplace hlocation)
  exact hother ⟨value, hmem⟩

/-- Binding buffers sets no uniform. -/
theorem GeometryBuffers.effect_bind_uniform (buffers : GeometryBuffers) (b : ProgramBindings)
    (location : UniformLocation) : effect (buffers.bind b) (.uniform location) = none := by
  refine effect_eq_none fun c hc ↦ ?_
  rcases List.mem_append.mp hc with hc | hc
  · obtain ⟨a, _, rfl⟩ := List.mem_map.mp hc
    unfold bindAttribute
    split <;> rfl
  · obtain ⟨i, _, rfl⟩ := List.mem_map.mp hc
    rfl

namespace ReadyDraw

variable {maxTextureUnits : UInt32} {g : FrameGlobals} {d : ReadyDraw} {n : Name}
  {location : UniformLocation}

/-- The whole setup of a draw leaves a uniform unset that is not among what the draw uploads. -/
theorem effect_setup_eq_none (hd : d.program.bindings.Distinct)
    (hother : ¬ Sets (d.uploads maxTextureUnits g) n)
    (hlocation : d.program.bindings.uniform? n.text = some location) :
    effect (d.setup maxTextureUnits g) (.uniform location) = none := by
  unfold uploads at hother
  rw [sets_append, sets_append, sets_append, not_or, not_or, not_or] at hother
  obtain ⟨⟨⟨hglobals, hmaterial⟩, htransform⟩, hgeometry⟩ := hother
  have huse : effect (d.bindProgram g) (.uniform location) = none := by
    show (effect (d.program.bindings.uploadAll _) _).or none = none
    rw [hd.effect_uploadAll_eq_none hglobals hlocation, Option.none_or]
  have hbind : effect d.bindGeometry (.uniform location) = none := by
    show effect (d.buffers.bind d.program.bindings ++
      d.program.bindings.uploadAll d.buffers.decodeUploads) _ = none
    rw [effect_append, hd.effect_uploadAll_eq_none hgeometry hlocation,
      d.buffers.effect_bind_uniform, Option.none_or]
  rw [setup, effect_append, effect_append, effect_append, huse, hbind, bindMaterial, bindTransform,
    hd.effect_uploadAll_eq_none hmaterial hlocation,
    hd.effect_uploadAll_eq_none htransform hlocation]
  rfl

/-- A draw has the matrices of geometries from its buffers only. -/
theorem not_sets_of_level_geometry (hdecode : ¬ Sets d.buffers.decodeUploads n)
    (hn : n.level = .geometry) : ¬ Sets (d.uploads maxTextureUnits g) n := by
  unfold uploads
  rw [sets_append, sets_append, sets_append]
  rintro (((hsets | hsets) | hsets) | hsets)
  · exact absurd (hn.symm.trans (hsets.level_eq (g.level_uploads _))) nofun
  · exact absurd (hn.symm.trans (hsets.level_eq (d.material.level_uploads _ _))) nofun
  · exact absurd (hn.symm.trans (hsets.level_eq (d.transform.level_uploads _))) nofun
  · exact hdecode hsets

end ReadyDraw

end SceneRenderer
