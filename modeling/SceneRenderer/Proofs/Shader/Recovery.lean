import Mathlib.Data.List.Sort
import SceneRenderer.Proofs.Shader.Body
import SceneRenderer.Proofs.Shader.Classified
import SceneRenderer.Proofs.Shader.Globals

/-!
Classified features recovered from the text of their program. Most of them own a global; what is
left shows in the lines of the main functions and in the definition of a billboard.
-/

set_option autoImplicit false
set_option relaxedAutoImplicit false

namespace SceneRenderer.Shader

open Shader.Record Name

/-- The filter over shadow maps is a pair of definitions, where the program has one. -/
theorem shadowFilterRecords_cases {c : Features} {o : ShaderOptions} {filter : List Record}
    (hfilter : shadowFilterRecords c o = .ok filter) :
    filter = [] ∨ ∃ f, filter = [define .unpackDepth, define (.computeShadow f)] := by
  unfold shadowFilterRecords at hfilter
  split at hfilter
  · cases hoptions : ShadowFilter.ofOptions o with
    | error fault => rw [hoptions] at hfilter; cases hfilter
    | ok f => rw [hoptions] at hfilter; cases hfilter; exact .inr ⟨f, rfl⟩
  · cases hfilter
    exact .inl rfl

/-- The filter over shadow maps declares nothing. -/
theorem globals_shadowFilterRecords {c : Features} {o : ShaderOptions} {filter : List Record}
    (hfilter : shadowFilterRecords c o = .ok filter) : globals filter = [] := by
  obtain rfl | ⟨f, rfl⟩ := shadowFilterRecords_cases hfilter <;> rfl

/-- Two programs with the same globals in both stages and the same main functions. -/
structure SameText (c d : Features) (o : ShaderOptions) (fc fd : List Record) : Prop where
  filter : shadowFilterRecords c o = .ok fc
  filter' : shadowFilterRecords d o = .ok fd
  vertexGlobals : ∀ n, n ∈ globals (vertexRecords c o) ↔ n ∈ globals (vertexRecords d o)
  fragmentGlobals : ∀ n, n ∈ globals (filteredFragmentRecords c o fc) ↔
    n ∈ globals (filteredFragmentRecords d o fd)
  vertexBody : bodyLines 1 (vertexRecords c o) = bodyLines 1 (vertexRecords d o)
  fragmentBody : bodyLines 1 (filteredFragmentRecords c o fc) =
    bodyLines 1 (filteredFragmentRecords d o fd)

namespace Features.Classified

variable {c : Features}

/-- A light has one slot. -/
theorem slot_eq (hc : c.Classified) {s t : LightSlot} (hs : s ∈ c.lightSlots)
    (ht : t ∈ c.lightSlots) (hindex : s.index = t.index) : s = t := by
  have hnodup : (c.lightSlots.map LightSlot.index).Nodup :=
    List.pairwise_map.mpr (hc.indices.imp fun hlt heq ↦ by simp [heq] at hlt)
  exact List.inj_on_of_nodup_map hnodup hs ht hindex

theorem exists_slot_iff (hc : c.Classified) {slot : LightSlot} (hslot : slot ∈ c.lightSlots)
    (p : LightSlot → Prop) : (∃ s ∈ c.lightSlots, p s ∧ slot.index = s.index) ↔ p slot := by
  constructor
  · rintro ⟨s, hs, hp, hindex⟩
    exact hc.slot_eq hslot hs hindex ▸ hp
  · exact fun hp ↦ ⟨slot, hslot, hp, rfl⟩

theorem sampledTextures_eq (hc : c.Classified) : c.sampledTextures = c.textures.toList := by
  rw [sampledTextures, List.filter_eq_self]
  rintro ⟨channel, feature⟩ hmem
  rw [TextureFlags.mem_toList] at hmem
  refine hc.sampled channel ?_
  rw [TextureFlags.contains, hmem]
  rfl

theorem mem_sampledTextures (hc : c.Classified) {channel : TextureChannel}
    {feature : TextureFeature} :
    (channel, feature) ∈ c.sampledTextures ↔ c.textures.get channel = some feature := by
  rw [hc.sampledTextures_eq, TextureFlags.mem_toList]

theorem usesUv_eq (hc : c.Classified) : c.usesUv = c.hasUv := by
  rw [usesUv, hc.sampledTextures_eq, TextureFlags.isEmpty_toList, hc.hasUv, Bool.and_self]

theorem usesUv_of_get (hc : c.Classified) {channel : TextureChannel} {feature : TextureFeature}
    (hget : c.textures.get channel = some feature) : c.usesUv = true := by
  rw [hc.usesUv_eq, hc.hasUv, Bool.not_eq_true', Bool.eq_false_iff]
  intro hempty
  rw [TextureFlags.isEmpty_iff.mp hempty channel] at hget
  exact Option.some_ne_none _ hget.symm

end Features.Classified

namespace SameText

variable {c d : Features} {o : ShaderOptions} {fc fd : List Record} (h : SameText c d o fc fd)

include h

theorem symm : SameText d c o fd fc where
  filter := h.filter'
  filter' := h.filter
  vertexGlobals n := (h.vertexGlobals n).symm
  fragmentGlobals n := (h.fragmentGlobals n).symm
  vertexBody := h.vertexBody.symm
  fragmentBody := h.fragmentBody.symm

theorem quantized : c.quantized = d.quantized := by
  rw [Bool.eq_iff_iff, ← positionsDecodeMatrix_mem_vertex c o, h.vertexGlobals,
    positionsDecodeMatrix_mem_vertex]

theorem isPoints : c.isPoints = d.isPoints := by
  rw [Bool.eq_iff_iff, ← pointSize_mem_vertex c o, h.vertexGlobals, pointSize_mem_vertex]

theorem hasColors : c.hasColors = d.hasColors := by
  rw [Bool.eq_iff_iff, ← color_mem_vertex c o, h.vertexGlobals, color_mem_vertex]

theorem isShaded : c.isShaded = d.isShaded := by
  rw [Bool.eq_iff_iff, ← vViewNormal_mem_vertex c o, h.vertexGlobals, vViewNormal_mem_vertex]

theorem fragment_iff {n : Name} {p q : Prop}
    (hc : globals fc = [] → (n ∈ globals (filteredFragmentRecords c o fc) ↔ p))
    (hd : globals fd = [] → (n ∈ globals (filteredFragmentRecords d o fd) ↔ q)) : p ↔ q := by
  rw [← hc (globals_shadowFilterRecords h.filter), h.fragmentGlobals,
    hd (globals_shadowFilterRecords h.filter')]

theorem model : c.model = d.model := by
  have hlambert := h.fragment_iff (materialColor_mem_fragment c o) (materialColor_mem_fragment d o)
  have hphong := h.fragment_iff (materialShininess_mem_fragment c o)
    (materialShininess_mem_fragment d o)
  have hmetallic := h.fragment_iff (materialMetallic_mem_fragment c o)
    (materialMetallic_mem_fragment d o)
  have hglossiness := h.fragment_iff (materialGlossiness_mem_fragment c o)
    (materialGlossiness_mem_fragment d o)
  cases hmodel : c.model
  · exact (hlambert.mp hmodel).symm
  · exact (hphong.mp hmodel).symm
  · exact (hmetallic.mp hmodel).symm
  · exact (hglossiness.mp hmodel).symm

theorem clipCount : c.clipCount = d.clipCount := by
  have hlt (i : UInt32) : i < c.clipCount ↔ i < d.clipCount :=
    h.fragment_iff (fun hf ↦ clipActive_mem_fragment c o hf i)
      fun hf ↦ clipActive_mem_fragment d o hf i
  exact UInt32.le_antisymm (UInt32.not_lt.mp fun hdc ↦ UInt32.lt_irrefl _ ((hlt _).mp hdc))
    (UInt32.not_lt.mp fun hcd ↦ UInt32.lt_irrefl _ ((hlt _).mpr hcd))

theorem fresnel : c.fresnel = d.fresnel := by
  refine FresnelFlags.ext_contains fun channel ↦ ?_
  rw [Bool.eq_iff_iff]
  exact h.fragment_iff (fun hf ↦ fresnelEdgeBias_mem_fragment c o hf channel)
    fun hf ↦ fresnelEdgeBias_mem_fragment d o hf channel

section Classified

variable (hc : c.Classified) (hd : d.Classified)

include hc hd

theorem hasLightMap : c.hasLightMap = d.hasLightMap := by
  have hiff := h.fragment_iff (lightMap_mem_fragment c o) (lightMap_mem_fragment d o)
  rw [Bool.eq_iff_iff]
  exact ⟨fun hmap ↦ (hiff.mp ⟨hc.lightMap hmap, hmap⟩).2,
    fun hmap ↦ (hiff.mpr ⟨hd.lightMap hmap, hmap⟩).2⟩

theorem hasReflectionMap : c.hasReflectionMap = d.hasReflectionMap := by
  have hiff := h.fragment_iff (reflectionMap_mem_fragment c o) (reflectionMap_mem_fragment d o)
  rw [Bool.eq_iff_iff]
  exact ⟨fun hmap ↦ (hiff.mp ⟨hc.reflectionMap hmap, hmap⟩).2,
    fun hmap ↦ (hiff.mpr ⟨hd.reflectionMap hmap, hmap⟩).2⟩

/-- A slot of one program is a slot of the other. -/
theorem slot_mem {slot : LightSlot} (hslot : slot ∈ c.lightSlots) : slot ∈ d.lightSlots := by
  have hshaded : c.isShaded = true := hc.lightSlots (List.ne_nil_of_mem hslot)
  have hshaded' : d.isShaded = true := h.isShaded ▸ hshaded
  obtain ⟨slot', hslot', hindex⟩ := ((h.fragment_iff
    (fun hf ↦ lightColor_mem_fragment c o hf slot.index)
    (fun hf ↦ lightColor_mem_fragment d o hf slot.index)).mp ⟨hshaded, slot, hslot, rfl⟩).2
  have htransfer (p : LightSlot → Prop)
      (hiff : (c.isShaded = true ∧ ∃ s ∈ c.lightSlots, p s ∧ slot.index = s.index) ↔
        (d.isShaded = true ∧ ∃ s ∈ d.lightSlots, p s ∧ slot.index = s.index)) :
      p slot ↔ p slot' := by
    rw [hc.exists_slot_iff hslot, hindex, hd.exists_slot_iff hslot'] at hiff
    simpa [hshaded, hshaded'] using hiff
  have hpositional := htransfer (·.isPositional = true) (h.fragment_iff
    (fun hf ↦ lightAttenuation_mem_fragment c o hf slot.index)
    fun hf ↦ lightAttenuation_mem_fragment d o hf slot.index)
  have hspot := htransfer (·.type = .spot) (h.fragment_iff
    (fun hf ↦ lightCutoff_mem_fragment c o hf slot.index)
    fun hf ↦ lightCutoff_mem_fragment d o hf slot.index)
  have hcasts := htransfer (·.castsShadow = true) (h.fragment_iff
    (fun hf ↦ shadowMap_mem_fragment c o hf slot.index)
    fun hf ↦ shadowMap_mem_fragment d o hf slot.index)
  have hworld := htransfer (·.isWorldSpace = true) (by
    rw [← vLight_mem_vertex c o, h.vertexGlobals, vLight_mem_vertex])
  have htype := hc.types slot hslot
  have htype' := hd.types slot' hslot'
  have heq : slot = slot' := by
    obtain ⟨index, type, space, castsShadow⟩ := slot
    obtain ⟨index', type', space', castsShadow'⟩ := slot'
    simp only [LightSlot.isPositional, LightSlot.isWorldSpace] at *
    cases type <;> cases type' <;> cases space <;> cases space' <;> simp_all
  exact heq ▸ hslot'

theorem lightSlots : c.lightSlots = d.lightSlots := by
  have : Std.Irrefl fun s t : LightSlot ↦ s.index < t.index := ⟨fun s ↦ UInt32.lt_irrefl s.index⟩
  have : Std.Antisymm fun s t : LightSlot ↦ s.index < t.index :=
    ⟨fun s t hst hts ↦ absurd hts (UInt32.lt_asymm hst)⟩
  exact hc.indices.eq_of_mem_iff hd.indices fun slot ↦
    ⟨h.slot_mem hc hd, h.symm.slot_mem hd hc⟩

/-- A texture on a channel of one program is on the channel of the other, with a matrix if it had
one. -/
theorem get_textures {channel : TextureChannel} {feature : TextureFeature}
    (hget : c.textures.get channel = some feature) :
    ∃ feature', d.textures.get channel = some feature' ∧
      feature'.hasMatrix = feature.hasMatrix := by
  have hmap := h.fragment_iff (fun hf ↦ textureMap_mem_fragment c o hf channel)
    fun hf ↦ textureMap_mem_fragment d o hf channel
  have hmatrix := h.fragment_iff (fun hf ↦ textureMatrix_mem_fragment c o hf channel)
    fun hf ↦ textureMatrix_mem_fragment d o hf channel
  simp only [hc.mem_sampledTextures, hd.mem_sampledTextures, hget, hc.usesUv_of_get hget,
    Option.some_inj, exists_eq', exists_eq_left', true_and] at hmap hmatrix
  obtain ⟨huv, feature', hget'⟩ := hmap.mp trivial
  refine ⟨feature', hget', ?_⟩
  rw [Bool.eq_iff_iff, hmatrix]
  simp [huv, hget']

theorem contains_textures (channel : TextureChannel) :
    c.textures.contains channel = d.textures.contains channel := by
  rw [Bool.eq_iff_iff, TextureFlags.contains, TextureFlags.contains, Option.isSome_iff_exists,
    Option.isSome_iff_exists]
  constructor
  · rintro ⟨feature, hget⟩
    obtain ⟨feature', hget', _⟩ := h.get_textures hc hd hget
    exact ⟨feature', hget'⟩
  · rintro ⟨feature, hget⟩
    obtain ⟨feature', hget', _⟩ := h.symm.get_textures hd hc hget
    exact ⟨feature', hget'⟩

theorem hasUv : c.hasUv = d.hasUv := by
  rw [hc.hasUv, hd.hasUv, Bool.not_inj_iff, Bool.eq_iff_iff, TextureFlags.isEmpty_iff,
    TextureFlags.isEmpty_iff]
  refine forall_congr' fun channel ↦ ?_
  have hcontains := h.contains_textures hc hd channel
  rw [TextureFlags.contains, TextureFlags.contains] at hcontains
  rw [← Option.isNone_iff_eq_none, ← Option.isNone_iff_eq_none, ← Option.not_isSome,
    ← Option.not_isSome, hcontains]

end Classified

theorem stationary_billboard :
    c.stationary = d.stationary ∧ (c.billboard = .none ↔ d.billboard = .none) := by
  obtain ⟨rest, hrest⟩ := bodyLines_vertexRecords c o
  obtain ⟨rest', hrest'⟩ := bodyLines_vertexRecords d o
  have hbody := h.vertexBody
  rw [hrest, hrest', ← h.quantized] at hbody
  exact bodyLines_positionRecords_inj hbody

section Fields

variable (hc : c.Classified) (hd : d.Classified)

include hc hd

theorem openingRecords_eq : openingRecords c o = openingRecords d o := by
  have hsamples : c.samples .normal = d.samples .normal := by
    rw [Features.samples, Features.samples, h.contains_textures hc hd, h.isShaded]
  have hclip : clipRecords c = clipRecords d := by rw [clipRecords, clipRecords, h.clipCount]
  have hmaterial : materialRecords c = materialRecords d := by
    rw [materialRecords, materialRecords, h.model, h.hasReflectionMap hc hd]
  rw [openingRecords, openingRecords, hsamples, h.isShaded, h.isPoints, hclip, hmaterial]

theorem filter_eq : fc = fd := by
  have hslots : c.shadowSlots = d.shadowSlots := by
    rw [Features.shadowSlots, Features.shadowSlots, h.lightSlots hc hd]
  have hsame : shadowFilterRecords c o = shadowFilterRecords d o := by
    rw [shadowFilterRecords, shadowFilterRecords, h.isShaded, hslots]
  rw [h.filter, h.filter'] at hsame
  exact Except.ok.inj hsame

theorem closingRecords_eq : closingRecords c fc = closingRecords d fd := by
  have hlights : lightsRecords c fc = lightsRecords d fd := by
    rw [lightsRecords, lightsRecords, h.lightSlots hc hd, h.model, h.filter_eq hc hd]
  have henvironment : environmentRecords c = environmentRecords d := by
    rw [environmentRecords, environmentRecords, h.hasLightMap hc hd, h.hasReflectionMap hc hd,
      h.model]
  rw [closingRecords, closingRecords, fresnelRecords, fresnelRecords, outgoingRecords,
    outgoingRecords, h.fresnel, h.model, h.isShaded, hlights, henvironment]

/-- The decoding of colors, the encoding of the output and the encodings of the textures show in the
lines of the fragment stage. -/
theorem colors_output_textures :
    (c.hasColors = true → c.gammaInput = d.gammaInput) ∧ c.gammaOutput = d.gammaOutput ∧
      ∀ channel feature feature', c.textures.get channel = some feature →
        d.textures.get channel = some feature' → feature.encoding = feature'.encoding := by
  have huv : c.usesUv = d.usesUv := by rw [hc.usesUv_eq, hd.usesUv_eq, h.hasUv hc hd]
  have hbody := h.fragmentBody
  rw [filteredFragmentRecords_eq, filteredFragmentRecords_eq, h.openingRecords_eq hc hd,
    h.closingRecords_eq hc hd, h.hasColors, h.isShaded] at hbody
  simp only [bodyLines_append, bodyDepth_onlyIf (bodyDepth_vertexColorRecords _ _),
    bodyDepth_texturesRecords hc.sampledTextures_eq,
    bodyDepth_texturesRecords hd.sampledTextures_eq] at hbody
  have hcolorsLength (depth : Nat) :
      (bodyLines depth (onlyIf d.hasColors (vertexColorRecords c))).length =
        (bodyLines depth (onlyIf d.hasColors (vertexColorRecords d))).length := by
    cases d.hasColors
    · rfl
    · exact (length_bodyLines_vertexColorRecords _ c).trans
        (length_bodyLines_vertexColorRecords _ d).symm
  obtain ⟨hcolors, hrest⟩ := List.append_inj (List.append_cancel_left hbody) (hcolorsLength _)
  obtain ⟨htextures, hrest⟩ := List.append_inj (List.append_cancel_left hrest)
    (length_bodyLines_texturesRecords hc.sampledTextures_eq hd.sampledTextures_eq huv h.model
      (h.contains_textures hc hd))
  refine ⟨fun hsome ↦ ?_, bodyLines_outputRecords_inj (List.append_cancel_left hrest), ?_⟩
  · rw [← h.hasColors, hsome] at hcolors
    exact bodyLines_vertexColorRecords_inj hcolors
  · intro channel feature feature' hget hget'
    exact bodyLines_texturesRecords_inj hc.sampledTextures_eq hd.sampledTextures_eq huv h.model
      (h.contains_textures hc hd) htextures (hc.usesUv_of_get hget) hget hget'

theorem gammaInput : c.gammaInput = d.gammaInput := by
  cases hcolors : c.hasColors with
  | true => exact (h.colors_output_textures hc hd).1 hcolors
  | false =>
    have hoff {e : Features} (he : e.Classified) (hnone : e.hasColors = false) :
        e.gammaInput = false :=
      Bool.eq_false_iff.mpr fun hgamma ↦ by simp [he.gammaInput hgamma] at hnone
    rw [hoff hc hcolors, hoff hd (h.hasColors ▸ hcolors)]

theorem textures : c.textures = d.textures := by
  refine TextureFlags.ext_get fun channel ↦ ?_
  cases hget : c.textures.get channel with
  | none =>
    have hcontains := h.contains_textures hc hd channel
    rw [TextureFlags.contains, hget] at hcontains
    exact (Option.isSome_eq_false_iff.mp hcontains.symm |> Option.isNone_iff_eq_none.mp).symm
  | some feature =>
    obtain ⟨feature', hget', hmatrix⟩ := h.get_textures hc hd hget
    have hencoding := (h.colors_output_textures hc hd).2.2 channel feature feature' hget hget'
    rw [hget']
    cases feature
    cases feature'
    simp_all

/-- Only the two kinds of billboards are left to tell apart. -/
theorem eq_of_billboard (hbillboard : c.billboard = d.billboard) : c = d := by
  have hnormals : c.hasNormals = d.hasNormals := by rw [hc.hasNormals, hd.hasNormals, h.isShaded]
  have htextures := h.textures hc hd
  have hnormalMap : c.hasNormalMap = d.hasNormalMap := by
    rw [hc.hasNormalMap, hd.hasNormalMap, htextures]
  have hslots := h.lightSlots hc hd
  have hshadow : c.receivesShadow = d.receivesShadow := by
    rw [hc.receivesShadow, hd.receivesShadow, hslots]
  have huv := h.hasUv hc hd
  have hcolors := h.hasColors
  have hclip := h.clipCount
  have hmodel := h.model
  have hquantized := h.quantized
  have hgammaInput := h.gammaInput hc hd
  have hgammaOutput := (h.colors_output_textures hc hd).2.1
  have hpoints := h.isPoints
  have hstationary := h.stationary_billboard.1
  have hfresnel := h.fresnel
  have hlight := h.hasLightMap hc hd
  have hreflection := h.hasReflectionMap hc hd
  clear h hc hd
  cases c
  cases d
  simp_all

end Fields

end SameText

end SceneRenderer.Shader
