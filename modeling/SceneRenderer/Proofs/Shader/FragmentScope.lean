import SceneRenderer.Proofs.Frame.MaterialShape
import SceneRenderer.Proofs.Shader.VertexScope

/-!
The fragment stages of draw programs are well scoped. Parts of the stage hand each other locals,
macros and structs; what one part provides under a feature, others only read under that feature or
where it follows from others.
-/

set_option autoImplicit false
set_option relaxedAutoImplicit false

namespace SceneRenderer.Shader

open Shader.Record Name

/-! ### What parts of the stage provide -/

/-- The macros of lighting. -/
def mathMacros : Known where
  file := ["PI", "RECIPROCAL_PI", "EPSILON", "saturate"]

/-- The locals of a shading model. -/
def modelLocals : ShadingModel → List Symbol
  | .lambert => ["ambientColor", "diffuseColor"]
  | .phong => ["ambientColor", "diffuseColor", "specular", "shininess"]
  | .metallicRoughness => ["baseColor", "metallic", "roughness", "specularF0"]
  | .specularGlossiness => ["diffuseColor", "specularColor", "glossiness"]

/-- The local that scales reflections, where there are any. -/
def reflectionLocals : ShadingModel → Bool → List Symbol
  | .phong, true => ["reflectivity"]
  | _, _ => []

/-- The locals of all shading models. -/
def commonLocals : List Symbol := ["emissiveColor", "alpha", "occlusion"]

/-- The locals that hold a material. -/
def described (model : ShadingModel) (reflects : Bool) : Known where
  main := modelLocals model ++ reflectionLocals model reflects ++ commonLocals

/-- What depends on the eye. -/
def viewed : Known where
  file := [.name vViewPosition]
  main := ["viewNormal", "viewEyeDir"]

/-- What lighting reads of the surface. -/
def surfaced : Known where
  structs := ["Material".toList]
  main := ["material", "ambientAlbedo"]

/-- What light is added up in. -/
def collected : Known where
  structs := ["ReflectedLight".toList, "Geometry".toList]
  main := ["geometry", "reflectedLight"]

/-! ### Parts without lighting -/

theorem scoped_extension : Scoped {}
    [directive "#extension GL_OES_standard_derivatives : enable"] {} [] := by
  refine .of_leaves rfl ?_
  simp only [Record.request, List.map_cons, List.map_nil]
  repeat rw [String.toList_ofList]
  decide

theorem scoped_mathDirectives : Scoped {} mathDirectives mathMacros [] := by
  refine .of_leaves rfl ?_
  simp only [mathDirectives, Record.request, List.map_cons, List.map_nil, mathMacros]
  repeat rw [String.toList_ofList]
  decide

/-- What clip planes add up. -/
def clipped : Known where
  file := [.name vWorldPosition]
  main := ["dist"]

theorem scoped_clipPlaneRecords (i : UInt32) : Scoped clipped (clipPlaneRecords i) {} [] := by
  have hrecords : (clipPlaneRecords i).map Record.request =
      ((clipPlaneRecords 0).map Record.request).map (Request.rename (·.withIndex i)) := rfl
  refine Scoped.of_leaves_rename (·.withIndex i) {} [] rfl rfl ?_ hrecords
  simp only [clipPlaneRecords, uniform, Record.request, Piece.chunk, List.map_cons, List.map_nil,
    clipped]
  repeat rw [String.toList_ofList]
  decide

theorem scoped_clipRecords (c : Features) : Scoped {} (clipRecords c) {} ["dist"] := by
  have hhead : Scoped {} [varying .vec4 vWorldPosition, statement ["float dist = 0.0;"]] clipped
      ["dist"] := by
    refine .of_leaves rfl ?_
    simp only [varying, Record.request, Piece.chunk, List.map_cons, List.map_nil, clipped]
    repeat rw [String.toList_ofList]
    decide
  have hdiscard : Scoped clipped (discardIf ["dist > 0.0"]) {} [] := by
    refine .of_leaves rfl ?_
    simp only [discardIf, Record.request, Piece.chunk, List.map_cons, List.map_nil,
      List.cons_append, List.nil_append, clipped]
    repeat rw [String.toList_ofList]
    decide
  have hplanes (l : List UInt32) : Scoped clipped (l.flatMap clipPlaneRecords) {} [] :=
    (Scoped.flatMap fun i _ ↦ scoped_clipPlaneRecords i).weaken (Known.Le.refl _) (Known.Le.refl _)
      (by simp)
  have hclipped : clipped.Le ({} ++ clipped) := Known.le_append_right _ _
  refine .onlyIf fun _ ↦ ((hhead.also (hplanes _) hclipped).also hdiscard hclipped).weaken
    (Known.Le.refl _) (Known.empty_le _) (List.Sublist.refl _)

theorem scoped_roundPointRecords : Scoped {} roundPointRecords {} ["cxy"] := by
  refine .of_leaves rfl ?_
  simp only [roundPointRecords, discardIf, Record.request, Piece.chunk, List.map_cons, List.map_nil,
    List.cons_append, List.nil_append]
  repeat rw [String.toList_ofList]
  decide

/-- The locals of any material, each at its place. -/
def materialLocals : List Symbol :=
  ["ambientColor", "baseColor", "metallic", "roughness", "specularF0", "diffuseColor", "specular",
    "specularColor", "shininess", "glossiness", "reflectivity", "emissiveColor", "alpha",
    "occlusion"]

theorem scoped_materialRecords (c : Features) :
    Scoped {} (materialRecords c) (described c.model c.hasReflectionMap) materialLocals := by
  refine .of_leaves rfl ?_
  cases hmodel : c.model <;> cases hreflects : c.hasReflectionMap
  all_goals
    simp only [materialRecords, hmodel, hreflects, uniform, onlyIf, Record.request, Piece.chunk,
      if_true, if_false, Bool.false_eq_true, List.map_cons, List.map_nil, List.cons_append,
      List.nil_append, List.append_nil, described, modelLocals, reflectionLocals, commonLocals,
      materialLocals]
    repeat rw [String.toList_ofList]
    decide

theorem described_le (model : ShadingModel) (reflects : Bool) :
    (described model false).Le (described model reflects) := by
  refine ⟨List.nil_subset _, List.nil_subset _, ?_⟩
  intro w hw
  cases model <;> simp only [described, reflectionLocals, List.append_nil] at hw ⊢
  all_goals simp only [List.mem_append] at hw ⊢
  all_goals tauto

theorem scoped_vertexColorRecords (c : Features) :
    Scoped (described c.model false) (vertexColorRecords c) {} ["vertexColor"] := by
  refine .of_leaves rfl ?_
  cases hmodel : c.model <;> cases hgamma : c.gammaInput
  all_goals
    simp only [vertexColorRecords, gammaFactorRecord, albedoLocal, hmodel, hgamma, varying, uniform,
      Record.request, Piece.chunk, PreludeItem.outline, PreludeItem.isStruct, PreludeItem.name,
      PreludeItem.usedStructs, PreludeItem.usedWords, if_true, if_false, Bool.false_eq_true,
      List.map_cons, List.map_nil, List.cons_append, List.nil_append, List.append_nil, described,
      modelLocals, reflectionLocals, commonLocals]
    repeat rw [String.toList_ofList]
    decide

theorem scoped_viewRecords : Scoped {} viewRecords viewed ["viewNormal", "viewEyeDir"] := by
  refine .of_leaves rfl ?_
  simp only [viewRecords, varying, Record.request, Piece.chunk, List.map_cons, List.map_nil, viewed]
  repeat rw [String.toList_ofList]
  decide

/-! ### Textures -/

/-- The name on another channel. -/
def onChannel (channel : TextureChannel) : Name → Name
  | textureMap _ => textureMap channel
  | textureMatrix _ => textureMatrix channel
  | textureUv _ => textureUv channel
  | texel _ => texel channel
  | n => n

/-- The locals of a texture. -/
def textureLocals (channel : TextureChannel) : List Symbol :=
  [.name (textureUv channel), .name (texel channel)]

/-- Where textures are placed. -/
def texturePlace : Known where
  main := ["texturePos"]

/-- The records that read a texel. -/
def texelSetupRecords (channel : TextureChannel) (feature : TextureFeature) : List Record :=
  uniform .sampler2D (textureMap channel) ::
  (if feature.hasMatrix then
    [uniform .mat4 (textureMatrix channel),
      statement ["vec2 ", textureUv channel, " = (", textureMatrix channel, " * texturePos).xy;"]]
  else [statement ["vec2 ", textureUv channel, " = texturePos.xy;"]]) ++
  texelRecords channel feature.encoding

/-- The coordinates and the texel of a channel. -/
theorem scoped_texel (channel : TextureChannel) (feature : TextureFeature) :
    Scoped texturePlace (texelSetupRecords channel feature) { main := textureLocals channel }
      (textureLocals channel) := by
  obtain ⟨encoding, hasMatrix⟩ := feature
  have hrecords : (texelSetupRecords channel ⟨encoding, hasMatrix⟩).map Record.request =
      ((texelSetupRecords .ambient ⟨encoding, hasMatrix⟩).map Record.request).map
        (Request.rename (onChannel channel)) := by
    cases hasMatrix <;> cases encoding <;> rfl
  refine Scoped.of_leaves_rename (onChannel channel) { main := textureLocals .ambient }
    (textureLocals .ambient) rfl rfl ?_ hrecords
  cases hasMatrix <;> cases encoding
  all_goals
    simp only [texelSetupRecords, texelRecords, gammaFactorRecord, uniform, Record.request,
      Piece.chunk, PreludeItem.outline, PreludeItem.isStruct, PreludeItem.name,
      PreludeItem.usedStructs, PreludeItem.usedWords, if_true, if_false, Bool.false_eq_true,
      List.map_cons, List.map_nil, List.cons_append, List.nil_append, texturePlace, textureLocals]
    repeat rw [String.toList_ofList]
    decide

/-- What the texel of a channel is applied to. -/
def textureTarget (model : ShadingModel) (channel : TextureChannel) : Known :=
  described model (channel == .reflectivity) ++ if channel = .normal then viewed else {}

theorem scoped_texelEffectRecords {model : ShadingModel} {channel : TextureChannel}
    (hchannel : channel ∈ textureChannels model) :
    Scoped (textureTarget model channel ++ { main := textureLocals channel })
      (texelEffectRecords model channel) {} [] := by
  refine .of_leaves ?_ ?_
  · rfl
  cases model <;> cases channel <;> try exact absurd hchannel (by decide)
  all_goals
    simp only [texelEffectRecords, albedoLocal, specularLocal, Record.request, Piece.chunk,
      PreludeItem.outline, PreludeItem.isStruct, PreludeItem.name, PreludeItem.usedStructs,
      PreludeItem.usedWords, List.map_cons, List.map_nil, textureTarget, textureLocals, described,
      modelLocals, reflectionLocals, commonLocals, viewed]
    repeat rw [String.toList_ofList]
    decide

/-- What textures and blends are applied to. -/
def surroundings (c : Features) : Known :=
  described c.model c.hasReflectionMap ++ if c.isShaded then viewed else {}

theorem textureTarget_le {c : Features} {channel : TextureChannel}
    (hnormal : channel = .normal → c.isShaded = true)
    (hreflectivity : channel = .reflectivity → c.hasReflectionMap = true) :
    (textureTarget c.model channel).Le (surroundings c) := by
  refine Known.append_le ?_ ?_
  · refine Known.le_append_of_left ?_ _
    by_cases hchannel : channel = .reflectivity
    · rw [hreflectivity hchannel, hchannel]
      exact Known.Le.refl _
    · rw [beq_eq_false_iff_ne.mpr hchannel]
      exact described_le _ _
  · split
    · rename_i hchannel
      rw [surroundings, hnormal hchannel]
      exact Known.le_append_right _ _
    · exact Known.empty_le _

theorem scoped_textureRecords {c : Features} (hc : c.Coherent)
    {t : TextureChannel × TextureFeature} (ht : t ∈ c.sampledTextures) :
    Scoped (surroundings c ++ texturePlace) (textureRecords c.model t.1 t.2) {}
      (textureLocals t.1) := by
  have hsetup := (scoped_texel t.1 t.2).weaken (Known.le_append_right (surroundings c) _)
    (Known.Le.refl _) (List.Sublist.refl _)
  have htarget := textureTarget_le (hc.normal t ht) (hc.reflectivity t ht)
  refine (hsetup.append (scoped_texelEffectRecords (hc.channels t ht)) ?_).weaken
    (Known.Le.refl _) (Known.empty_le _) (by simp)
  exact Known.append_le (Known.le_append_of_left (Known.le_append_of_left htarget _) _)
    (Known.le_append_right _ _)

/-- The locals of the textures that are read. -/
def sampledLocals (c : Features) : List Symbol :=
  c.sampledTextures.flatMap fun t ↦ textureLocals t.1

theorem scoped_texturesRecords {c : Features} (hc : c.Coherent) :
    Scoped (surroundings c) (texturesRecords c) {} ("texturePos" :: sampledLocals c) := by
  have hplace : Scoped {} [varying .vec2 vUV,
      statement ["vec4 texturePos = vec4(", vUV, ".s, ", vUV, ".t, 1.0, 1.0);"]] texturePlace
      ["texturePos"] := by
    refine .of_leaves rfl ?_
    simp only [varying, Record.request, Piece.chunk, List.map_cons, List.map_nil, texturePlace]
    repeat rw [String.toList_ofList]
    decide
  have htextures := Scoped.flatMap (l := c.sampledTextures) fun t ht ↦ scoped_textureRecords hc ht
  exact .onlyIf fun _ ↦ hplace.within htextures

/-! ### View-dependent blends -/

/-- What the blend of a channel is applied to. -/
def blendTarget (channel : FresnelChannel) : Known :=
  described .phong (channel == .reflectivity) ++ viewed ++ { file := ["fresnel"] }

theorem scoped_fresnelChannelRecords (channel : FresnelChannel) :
    Scoped (blendTarget channel) (fresnelChannelRecords channel) {} [] := by
  refine .of_leaves ?_ ?_
  · rfl
  cases channel
  all_goals
    simp only [fresnelChannelRecords, uniform, Record.request, Piece.chunk, List.map_cons,
      List.map_nil, String.toList_append, blendTarget, described, modelLocals, reflectionLocals,
      commonLocals, viewed]
    repeat rw [String.toList_ofList]
    decide

theorem scoped_fresnelRecords {c : Features} (hc : c.Coherent) :
    Scoped (surroundings c) (fresnelRecords c) {} [] := by
  have hdefinition : Scoped {} [define .fresnel] { file := ["fresnel"] } [] := by
    refine .of_leaves rfl ?_
    simp only [Record.request, PreludeItem.outline, PreludeItem.isStruct, PreludeItem.name,
      PreludeItem.usedStructs, PreludeItem.usedWords, List.map_cons, List.map_nil]
    repeat rw [String.toList_ofList]
    decide
  have htarget (channel : FresnelChannel) (hchannel : channel ∈ c.fresnel.toList) :
      (blendTarget channel).Le (surroundings c ++ { file := ["fresnel"] }) := by
    obtain ⟨hshaded, hmodel, hreflectivity⟩ := hc.blends channel hchannel
    refine Known.append_le (Known.le_append_of_left (Known.append_le ?_ ?_) _)
      (Known.le_append_right _ _)
    · rw [surroundings, hmodel]
      refine Known.le_append_of_left ?_ _
      by_cases hblend : channel = .reflectivity
      · rw [hreflectivity hblend, hblend]
        exact Known.Le.refl _
      · rw [beq_eq_false_iff_ne.mpr hblend]
        exact described_le _ _
    · rw [surroundings, hshaded]
      exact Known.le_append_right _ _
  have hblends : Scoped (surroundings c ++ { file := ["fresnel"] })
      (c.fresnel.toList.flatMap fresnelChannelRecords) {} (c.fresnel.toList.flatMap fun _ ↦ []) :=
    Scoped.flatMap fun channel hchannel ↦ (scoped_fresnelChannelRecords channel).weaken
      (htarget channel hchannel) (Known.Le.refl _) (List.Sublist.refl _)
  exact .onlyIf fun _ ↦ (hdefinition.within hblends).weaken (Known.Le.refl _) (Known.Le.refl _)
    (by simp)

end SceneRenderer.Shader
