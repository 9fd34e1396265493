import Mathlib.Algebra.GroupWithZero.Nat
import Mathlib.Data.List.Pairwise
import SceneRenderer.Shader.Classify

/-!
What classification promises about features: every flag that is left has a trace in the text of the
program, and the slots of the lights are in the order of the scene.
-/

set_option autoImplicit false
set_option relaxedAutoImplicit false

namespace SceneRenderer.Shader

/-! ### Texture flags -/

namespace TextureFlags

variable {t : TextureFlags}

theorem mem_toList {channel : TextureChannel} {feature : TextureFeature} :
    (channel, feature) ∈ t.toList ↔ t.get channel = some feature := by
  have hall : channel ∈ TextureChannel.all := by cases channel <;> decide
  rw [toList, List.mem_filterMap]
  constructor
  · rintro ⟨channel', _, hmap⟩
    obtain ⟨feature', hget, hpair⟩ := Option.map_eq_some_iff.mp hmap
    obtain ⟨rfl, rfl⟩ := Prod.mk.inj hpair
    exact hget
  · intro hget
    exact ⟨channel, hall, by rw [hget]; rfl⟩

theorem isEmpty_iff : t.isEmpty = true ↔ ∀ channel, t.get channel = none := by
  have hall (channel : TextureChannel) : channel ∈ TextureChannel.all := by
    cases channel <;> decide
  simp [isEmpty, hall]

theorem isEmpty_toList : t.toList.isEmpty = t.isEmpty := by
  rw [Bool.eq_iff_iff, isEmpty_iff, List.isEmpty_iff, List.eq_nil_iff_forall_not_mem]
  constructor
  · intro hnil channel
    cases hget : t.get channel with
    | none => rfl
    | some feature => exact absurd (mem_toList.mpr hget) (hnil _)
  · rintro hnone ⟨channel, feature⟩ hmem
    rw [mem_toList, hnone channel] at hmem
    exact Option.some_ne_none _ hmem.symm

end TextureFlags

/-! ### Classified features -/

/-- Features in which nothing is left that has no trace in the text of a program. -/
structure Features.Classified (c : Features) : Prop where
  hasNormals : c.hasNormals = c.isShaded
  hasUv : c.hasUv = !c.textures.isEmpty
  hasNormalMap : c.hasNormalMap = c.textures.contains .normal
  receivesShadow : c.receivesShadow = c.lightSlots.any (·.castsShadow)
  gammaInput : c.gammaInput = true → c.hasColors = true
  lightSlots : c.lightSlots ≠ [] → c.isShaded = true
  lightMap : c.hasLightMap = true → c.isShaded = true
  reflectionMap : c.hasReflectionMap = true → c.isShaded = true
  /-- Slots are listed in the order of the lights. -/
  indices : c.lightSlots.Pairwise fun s t ↦ s.index < t.index
  types : ∀ slot ∈ c.lightSlots, slot.type ≠ .ambient
  sampled : ∀ channel, c.textures.contains channel = true → c.samples channel = true

theorem lightSlots_pairwise (lights : List Light) (receivesShadow : Bool)
    (hlights : lights.length < 2 ^ 32) :
    (lightSlots lights receivesShadow).Pairwise fun s t ↦ s.index < t.index := by
  have hpositions : lights.zipIdx.Pairwise fun l m ↦ l.2 < m.2 := by
    rw [← List.pairwise_map, List.zipIdx_map_snd]
    exact List.pairwise_lt_range'
  rw [lightSlots, List.pairwise_map]
  refine (hpositions.imp_of_mem ?_).filter _
  intro l m hl hm hlt
  have hl' : l.2 < 2 ^ 32 := Nat.lt_trans (List.snd_lt_of_mem_zipIdx hl) hlights
  have hm' : m.2 < 2 ^ 32 := Nat.lt_trans (List.snd_lt_of_mem_zipIdx hm) hlights
  rwa [UInt32.lt_iff_toNat_lt, UInt32.toNat_ofNat_of_lt' hl', UInt32.toNat_ofNat_of_lt' hm']

theorem lightSlots_type {lights : List Light} {receivesShadow : Bool} {slot : LightSlot}
    (hslot : slot ∈ lightSlots lights receivesShadow) : slot.type ≠ .ambient := by
  obtain ⟨l, hl, rfl⟩ := List.mem_map.mp hslot
  simpa [Light.isAmbient] using (List.mem_filter.mp hl).2

namespace Features

variable (c : Features)

theorem isShaded_normalize : c.normalize.isShaded = c.isShaded := by
  simp only [isShaded, normalize]
  cases c.hasNormals <;> simp

theorem samples_normalize (channel : TextureChannel) :
    c.normalize.samples channel = c.samples channel := by
  have hget : c.normalize.textures.get channel =
      if c.samples channel then c.textures.get channel else none :=
    TextureFlags.get_ofFn _ _
  rw [samples, TextureFlags.contains, hget, isShaded_normalize]
  cases hsamples : c.samples channel with
  | false => rfl
  | true => simpa [samples, TextureFlags.contains] using hsamples

theorem contains_normalize (channel : TextureChannel) :
    c.normalize.textures.contains channel = c.samples channel := by
  have hget : c.normalize.textures.get channel =
      if c.samples channel then c.textures.get channel else none :=
    TextureFlags.get_ofFn _ _
  rw [TextureFlags.contains, hget]
  cases hsamples : c.samples channel with
  | false => rfl
  | true => exact (Bool.and_eq_true_iff.mp hsamples).1

end Features

section Classify

variable (geometry : Geometry) (material : Material) (lights : List Light) (clips : List ClipPlane)
  (modes : DrawModes) (scene : SceneFlags)

theorem isShaded_requestedFeatures :
    let c := requestedFeatures geometry material lights clips modes scene
    c.lightSlots ≠ [] ∨ c.hasLightMap = true ∨ c.hasReflectionMap = true → c.isShaded = true := by
  intro c hsome
  have hnormals : c.hasNormals = true := by
    rcases hsome with hslots | hlight | hreflection
    · by_contra hnone
      exact hslots (if_neg hnone)
    · exact (Bool.and_eq_true_iff.mp hlight).1
    · exact (Bool.and_eq_true_iff.mp (Bool.and_eq_true_iff.mp hreflection).1).1
  rw [Features.isShaded, hnormals, Bool.true_and]
  rcases hsome with hslots | hlight | hreflection
  · simp [hslots]
  · simp [hlight]
  · simp [hreflection]

theorem hasUv_requestedFeatures (channel : TextureChannel) :
    let c := requestedFeatures geometry material lights clips modes scene
    c.textures.contains channel = true → c.hasUv = true := by
  intro c hcontains
  by_contra huv
  have hget : c.textures.get channel = none := by
    have hgeometry : geometry.hasUv = false := Bool.not_eq_true _ ▸ huv
    simp [c, requestedFeatures, textureFlags, hgeometry]
  rw [TextureFlags.contains, hget] at hcontains
  exact Bool.false_ne_true hcontains

/-- Ambient lights have no slots. -/
theorem type_of_mem_classify :
    ∀ slot ∈ (classify geometry material lights clips modes scene).lightSlots,
      slot.type ≠ .ambient := by
  intro slot hslot
  change slot ∈ if usableNormals geometry then _ else [] at hslot
  split at hslot
  · exact lightSlots_type hslot
  · exact absurd hslot List.not_mem_nil

/-- Classification leaves only features that shape the text. -/
theorem classify_classified (hlights : lights.length < 2 ^ 32) :
    (classify geometry material lights clips modes scene).Classified := by
  rw [classify]
  have hshaded := isShaded_requestedFeatures geometry material lights clips modes scene
  have huv := hasUv_requestedFeatures geometry material lights clips modes scene
  have htypes := type_of_mem_classify geometry material lights clips modes scene
  have hslots : (requestedFeatures geometry material lights clips modes scene).lightSlots =
      if usableNormals geometry then
        lightSlots lights (modes.receiveShadow && lights.any Light.castsShadow) else [] :=
    rfl
  rw [classify] at htypes
  generalize requestedFeatures geometry material lights clips modes scene = c at *
  refine
    { hasNormals := ?_
      hasUv := ?_
      hasNormalMap := rfl
      receivesShadow := rfl
      gammaInput := fun h ↦ (Bool.and_eq_true_iff.mp h).2
      lightSlots := fun h ↦ (Features.isShaded_normalize c).trans (hshaded (.inl h))
      lightMap := fun h ↦ (Features.isShaded_normalize c).trans (hshaded (.inr (.inl h)))
      reflectionMap := fun h ↦ (Features.isShaded_normalize c).trans (hshaded (.inr (.inr h)))
      indices := ?_
      types := ?_
      sampled := ?_ }
  · rw [Features.isShaded_normalize]
    simp [Features.normalize, Features.isShaded]
  · have hdef : c.normalize.hasUv = (c.hasUv && !c.normalize.textures.isEmpty) := rfl
    rw [hdef]
    cases hempty : c.normalize.textures.isEmpty with
    | true => exact Bool.and_false _
    | false =>
      obtain ⟨channel, hchannel⟩ : ∃ channel, c.samples channel = true := by
        by_contra hnone
        rw [← Bool.not_eq_true, TextureFlags.isEmpty_iff] at hempty
        refine hempty fun channel ↦ Option.isNone_iff_eq_none.mp ?_
        have hcontains := c.contains_normalize channel
        rw [Bool.eq_false_iff.mpr fun h ↦ hnone ⟨channel, h⟩] at hcontains
        simpa [TextureFlags.contains] using hcontains
      rw [huv channel (Bool.and_eq_true_iff.mp hchannel).1, Bool.true_and]
  · change c.lightSlots.Pairwise _
    rw [hslots]
    split
    · exact lightSlots_pairwise lights _ hlights
    · exact List.Pairwise.nil
  · exact htypes
  · intro channel hcontains
    rw [Features.samples_normalize, ← Features.contains_normalize]
    exact hcontains

end Classify

end SceneRenderer.Shader
