import Mathlib.Data.List.Nodup
import SceneRenderer.Proofs.Text.Cut
import SceneRenderer.Shader.Name

/-!
Names are told apart by their text. The text of a name ends in the digits of its index, if it has
one, and `splitIndex` reads the index back together with the text that the name has at index zero.
What is left is one name from each family, and `families` lists these in the order of their texts.
The main statement is `Name.text_injective`.
-/

set_option autoImplicit false
set_option relaxedAutoImplicit false

namespace SceneRenderer.Shader

namespace Name

/-- The name with its index, if it has one, set to zero. -/
def family : Name → Name
  | lightColor _ => lightColor 0
  | lightDir _ => lightDir 0
  | lightPos _ => lightPos 0
  | lightAttenuation _ => lightAttenuation 0
  | lightCutoff _ => lightCutoff 0
  | vLight _ => vLight 0
  | vSpotDir _ => vSpotDir 0
  | shadowMap _ => shadowMap 0
  | shadowViewMatrix _ => shadowViewMatrix 0
  | shadowProjMatrix _ => shadowProjMatrix 0
  | vShadowPos _ => vShadowPos 0
  | clipActive _ => clipActive 0
  | clipPos _ => clipPos 0
  | clipDir _ => clipDir 0
  | n => n

/-- The index of a name; a name without one counts as the first. -/
def index : Name → UInt32
  | lightColor i | lightDir i | lightPos i | lightAttenuation i | lightCutoff i | vLight i
  | vSpotDir i | shadowMap i | shadowViewMatrix i | shadowProjMatrix i | vShadowPos i
  | clipActive i | clipPos i | clipDir i => i
  | _ => 0

/-- The name of a family at an index. -/
def withIndex : Name → UInt32 → Name
  | lightColor _, i => lightColor i
  | lightDir _, i => lightDir i
  | lightPos _, i => lightPos i
  | lightAttenuation _, i => lightAttenuation i
  | lightCutoff _, i => lightCutoff i
  | vLight _, i => vLight i
  | vSpotDir _, i => vSpotDir i
  | shadowMap _, i => shadowMap i
  | shadowViewMatrix _, i => shadowViewMatrix i
  | shadowProjMatrix _, i => shadowProjMatrix i
  | vShadowPos _, i => vShadowPos i
  | clipActive _, i => clipActive i
  | clipPos _, i => clipPos i
  | clipDir _, i => clipDir i
  | n, _ => n

theorem withIndex_family_index (n : Name) : n.family.withIndex n.index = n := by
  cases n <;> rfl

/-- One name of every family, in the order of their texts. -/
def families : List Name :=
  [fresnelCenterBias .alpha, fresnelCenterColor .alpha, fresnelEdgeBias .alpha,
    fresnelEdgeColor .alpha, fresnelPower .alpha, textureMap .alpha, textureMatrix .alpha,
    texel .alpha, textureUv .alpha, textureMap .ambient, textureMatrix .ambient, texel .ambient,
    textureUv .ambient, textureMap .baseColor, textureMatrix .baseColor, texel .baseColor,
    textureUv .baseColor, clipActive 0, clipDir 0, clipPos 0, vertexInput .color,
    fresnelCenterBias .diffuse, fresnelCenterColor .diffuse, fresnelEdgeBias .diffuse,
    fresnelEdgeColor .diffuse, fresnelPower .diffuse, textureMap .diffuse,
    textureMatrix .diffuse, texel .diffuse, textureUv .diffuse, fresnelCenterBias .emissive,
    fresnelCenterColor .emissive, fresnelEdgeBias .emissive, fresnelEdgeColor .emissive,
    fresnelPower .emissive, textureMap .emissive, textureMatrix .emissive, texel .emissive,
    textureUv .emissive, gammaFactor, textureMap .glossiness, textureMatrix .glossiness,
    texel .glossiness, textureUv .glossiness, lightAmbient, lightAttenuation 0, lightColor 0,
    lightCutoff 0, lightDir 0, lightMap, lightPos 0, materialAlpha, materialAlphaModeCutoff,
    materialAmbient, materialBaseColor, materialColor, materialDiffuse, materialEmissive,
    materialGlossiness, materialMetallic, materialReflectivity, materialRoughness,
    materialShininess, materialSpecular, materialSpecularF0, textureMap .metallic,
    textureMatrix .metallic, textureMap .metallicRoughness, textureMatrix .metallicRoughness,
    texel .metallicRoughness, textureUv .metallicRoughness, texel .metallic, textureUv .metallic,
    modelMatrix, modelNormalMatrix, vertexInput .normal, textureMap .normal,
    textureMatrix .normal, texel .normal, textureUv .normal, textureMap .occlusion,
    textureMatrix .occlusion, texel .occlusion, textureUv .occlusion, pointSize,
    vertexInput .position, positionsDecodeMatrix, projMatrix, reflectionMap,
    fresnelCenterBias .reflectivity, fresnelCenterColor .reflectivity,
    fresnelEdgeBias .reflectivity, fresnelEdgeColor .reflectivity, fresnelPower .reflectivity,
    textureMap .reflectivity, textureMatrix .reflectivity, texel .reflectivity,
    textureUv .reflectivity, textureMap .roughness, textureMatrix .roughness, texel .roughness,
    textureUv .roughness, shadowMap 0, shadowProjMatrix 0, shadowViewMatrix 0,
    fresnelCenterBias .specular, fresnelCenterColor .specular, fresnelEdgeBias .specular,
    fresnelEdgeColor .specular, fresnelPower .specular, textureMap .specularGlossiness,
    textureMatrix .specularGlossiness, texel .specularGlossiness, textureUv .specularGlossiness,
    textureMap .specular, textureMatrix .specular, texel .specular, textureUv .specular,
    vertexInput .uv, uvDecodeMatrix, vColor, vShadowPos 0, vUV, vLight 0, vViewNormal,
    vViewPosition, vSpotDir 0, vWorldPosition, viewMatrix, viewNormalMatrix]

theorem family_mem_families (n : Name) : n.family ∈ families := by
  cases n with
  | vertexInput a => cases a <;> decide
  | textureMap c => cases c <;> decide
  | textureMatrix c => cases c <;> decide
  | textureUv c => cases c <;> decide
  | texel c => cases c <;> decide
  | fresnelEdgeBias c => cases c <;> decide
  | fresnelCenterBias c => cases c <;> decide
  | fresnelPower c => cases c <;> decide
  | fresnelEdgeColor c => cases c <;> decide
  | fresnelCenterColor c => cases c <;> decide
  | _ => exact List.elem_iff.1 rfl

/-- No two families share a text. -/
theorem nodup_text_families : (families.map text).Nodup := by
  decide +kernel

end Name

/-- The text with the digits at its end replaced by a single zero, and the number that these digits
stand for. A text that ends in no digit is left as it is, at index zero. -/
def splitIndex (text : String) : List Char × Nat :=
  (text.toList.rdropWhile Char.isDigit ++
    (if text.toList.rtakeWhile Char.isDigit = [] then [] else ['0']),
    Nat.ofDigitChars 10 (text.toList.rtakeWhile Char.isDigit) 0)

theorem splitIndex_indexedName (stem : String) (i : UInt32)
    (hstem : stem.toList.getLast?.all (!·.isDigit)) :
    splitIndex (indexedName stem i) = ((indexedName stem 0).toList, i.toNat) := by
  have hlast : ∀ h : stem.toList ≠ [], ¬ (stem.toList.getLast h).isDigit := by
    intro h
    simpa [List.getLast?_eq_some_getLast h] using hstem
  have hdigits : ∀ c ∈ Nat.toDigits 10 i.toNat, c.isDigit := fun c hc ↦
    Nat.isDigit_of_mem_toDigits (by decide) (by decide) hc
  obtain ⟨hdrop, htake⟩ := Text.rcut_append hlast hdigits
  have htext (j : UInt32) :
      (indexedName stem j).toList = stem.toList ++ Nat.toDigits 10 j.toNat := by
    simp [indexedName, Nat.toString_eq_repr]
  have hne : Nat.toDigits 10 i.toNat ≠ [] := List.ne_nil_of_length_pos Nat.length_toDigits_pos
  rw [splitIndex, htext i, htext 0, hdrop, htake, if_neg hne, Nat.ofDigitChars_ten_toDigits]
  rfl

theorem splitIndex_append (stem ending : String)
    (hending : (ending.toList.getLast?.any fun c ↦ !c.isDigit) = true) :
    splitIndex (stem ++ ending) = ((stem ++ ending).toList, 0) := by
  obtain ⟨last, hlast⟩ : ∃ last, ending.toList.getLast? = some last := by
    cases h : ending.toList.getLast? with
    | none => simp [h] at hending
    | some last => exact ⟨last, rfl⟩
  have hdigit : last.isDigit = false := by simpa [hlast] using hending
  have hsome : (stem ++ ending).toList.getLast? = some last := by
    rw [String.toList_append, List.getLast?_append, hlast, Option.some_or]
  have hstop (h : (stem ++ ending).toList ≠ []) :
      ¬ ((stem ++ ending).toList.getLast h).isDigit := by
    rw [List.getLast?_eq_some_getLast h, Option.some_inj] at hsome
    rw [hsome, hdigit]
    exact Bool.false_ne_true
  rw [splitIndex, List.rdropWhile_eq_self_iff.mpr hstop, List.rtakeWhile_eq_nil_iff.mpr hstop,
    if_pos rfl, List.append_nil]
  rfl

namespace Name

/-- The text of a name tells its index and the text of its family. -/
theorem splitIndex_text (n : Name) : splitIndex n.text = (n.family.text.toList, n.index.toNat) := by
  have hplain (text : String) (htext : (text.toList.getLast?.any fun c ↦ !c.isDigit) = true) :
      splitIndex text = (text.toList, 0) := by
    simpa using splitIndex_append "" text htext
  cases n with
  | lightColor i => exact splitIndex_indexedName "lightColor" i rfl
  | lightDir i => exact splitIndex_indexedName "lightDir" i rfl
  | lightPos i => exact splitIndex_indexedName "lightPos" i rfl
  | lightAttenuation i => exact splitIndex_indexedName "lightAttenuation" i rfl
  | lightCutoff i => exact splitIndex_indexedName "lightCutoff" i rfl
  | vLight i => exact splitIndex_indexedName "vViewLightReverseDirAndDist" i rfl
  | vSpotDir i => exact splitIndex_indexedName "vViewSpotDir" i rfl
  | shadowMap i => exact splitIndex_indexedName "shadowMap" i rfl
  | shadowViewMatrix i => exact splitIndex_indexedName "shadowViewMatrix" i rfl
  | shadowProjMatrix i => exact splitIndex_indexedName "shadowProjMatrix" i rfl
  | vShadowPos i => exact splitIndex_indexedName "vShadowPosFromLight" i rfl
  | clipActive i => exact splitIndex_indexedName "clipActive" i rfl
  | clipPos i => exact splitIndex_indexedName "clipPos" i rfl
  | clipDir i => exact splitIndex_indexedName "clipDir" i rfl
  | vertexInput a => cases a <;> exact hplain _ (by decide)
  | textureMap c => exact splitIndex_append c.stem "Map" (by decide)
  | textureMatrix c => exact splitIndex_append c.stem "MapMatrix" (by decide)
  | textureUv c => exact splitIndex_append c.stem "UV" (by decide)
  | texel c => exact splitIndex_append c.stem "Texel" (by decide)
  | fresnelEdgeBias c => exact splitIndex_append c.stem "FresnelEdgeBias" (by decide)
  | fresnelCenterBias c => exact splitIndex_append c.stem "FresnelCenterBias" (by decide)
  | fresnelPower c => exact splitIndex_append c.stem "FresnelPower" (by decide)
  | fresnelEdgeColor c => exact splitIndex_append c.stem "FresnelEdgeColor" (by decide)
  | fresnelCenterColor c => exact splitIndex_append c.stem "FresnelCenterColor" (by decide)
  | materialSpecularF0 => decide
  | _ => exact hplain _ (by decide)

/-- Distinct names have distinct texts. -/
theorem text_injective : Function.Injective text := by
  intro n m h
  have hsplit : (n.family.text.toList, n.index.toNat) = (m.family.text.toList, m.index.toNat) := by
    rw [← splitIndex_text, ← splitIndex_text, h]
  obtain ⟨hfamily, hindex⟩ := Prod.mk.inj hsplit
  have hsame : n.family = m.family :=
    List.inj_on_of_nodup_map nodup_text_families (family_mem_families n) (family_mem_families m)
      (String.toList_inj.mp hfamily)
  rw [← withIndex_family_index n, ← withIndex_family_index m, hsame, UInt32.toNat_inj.mp hindex]

/-- Names collide only with themselves: names of one family by their index, and those of channels by
the channel and by what they name of it; fixed names stand apart from all families. -/
theorem text_eq_text_iff (n m : Name) : n.text = m.text ↔ n = m := text_injective.eq_iff

end Name

end SceneRenderer.Shader
