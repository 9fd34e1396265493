import SceneRenderer.Json.Codec
import SceneRenderer.Scene.Material

/-!
Materials in JSON. The shading model of a surface is named under `kind`, beside its channel values.
-/

set_option autoImplicit false
set_option relaxedAutoImplicit false

namespace SceneRenderer

open Codec

def ShadingModel.jsonName : ShadingModel → String
  | lambert => "lambert"
  | phong => "phong"
  | metallicRoughness => "metallic_roughness"
  | specularGlossiness => "specular_glossiness"

def ShadingModel.all : List ShadingModel := [lambert, phong, metallicRoughness, specularGlossiness]

instance : Codec ShadingModel where
  write m := .string m.jsonName
  read := readChoice (ShadingModel.all.map fun m => (m.jsonName, m))

def TextureEncoding.jsonName : TextureEncoding → String
  | linear => "linear"
  | srgb => "srgb"
  | gamma => "gamma"

def TextureEncoding.table : List (String × TextureEncoding) :=
  [.linear, .srgb, .gamma].map fun e => (e.jsonName, e)

instance : Codec TextureEncoding where
  write e := .string e.jsonName
  read := readChoice TextureEncoding.table

def AlphaMode.jsonName : AlphaMode → String
  | solid => "opaque"
  | mask => "mask"
  | blend => "blend"

instance : Codec AlphaMode where
  write m := .string m.jsonName
  read := readChoice ([.solid, .mask, .blend].map fun m => (AlphaMode.jsonName m, m))

def TextureChannel.jsonName : TextureChannel → String
  | ambient => "ambient"
  | diffuse => "diffuse"
  | baseColor => "base_color"
  | specular => "specular"
  | glossiness => "glossiness"
  | specularGlossiness => "specular_glossiness"
  | metallic => "metallic"
  | roughness => "roughness"
  | metallicRoughness => "metallic_roughness"
  | emissive => "emissive"
  | alpha => "alpha"
  | occlusion => "occlusion"
  | normal => "normal"
  | reflectivity => "reflectivity"

instance : Codec TextureChannel where
  write c := .string c.jsonName
  read := readChoice (TextureChannel.all.map fun c => (c.jsonName, c))

instance : Codec FresnelChannel where
  write c := .string c.stem
  read := readChoice (FresnelChannel.all.map fun c => (c.stem, c))

/-- A use of a texture, its encoding read by `encoding`. -/
def TextureUse.readWith (encoding : Json → Option TextureEncoding) (j : Json) :
    Option TextureUse :=
  match fields? ["texture", "matrix", "encoding"] j with
  | some [texture, matrix, name] => do
    return ⟨← required texture, ← orElse none matrix, ← orElseBy encoding .linear name⟩
  | _ => none

instance : Codec TextureUse where
  write t := .object
    [("texture", write t.texture), ("matrix", write t.matrix), ("encoding", write t.encoding)]
  read := TextureUse.readWith read

/-- A texture of a surface, which is gathered before its channels are read. -/
def surfaceTexture : Option Json → Option (Option TextureUse) :=
  orElseBy (readNullable (TextureUse.readWith (readGatheredChoice TextureEncoding.table))) none

instance : Codec Fresnel where
  write f := .object
    [("edge_color", write f.edgeColor), ("center_color", write f.centerColor),
      ("edge_bias", write f.edgeBias), ("center_bias", write f.centerBias),
      ("power", write f.power)]
  read j :=
    match fields? ["edge_color", "center_color", "edge_bias", "center_bias", "power"] j with
    | some [edgeColor, centerColor, edgeBias, centerBias, power] => do
      return ⟨← required edgeColor, ← required centerColor, ← required edgeBias,
        ← required centerBias, ← required power⟩
    | _ => none

namespace LambertSurface

def writeFields (s : LambertSurface) : List (String × Json) :=
  [("ambient", write s.ambient), ("color", write s.color), ("emissive", write s.emissive),
    ("alpha", write s.alpha)]

def read? (j : Json) : Option LambertSurface :=
  match fields? ["ambient", "color", "emissive", "alpha"] j with
  | some [ambient, color, emissive, alpha] => do
    return ⟨← orElse standard.ambient ambient, ← orElse standard.color color,
      ← orElse standard.emissive emissive, ← orElse standard.alpha alpha⟩
  | _ => none

end LambertSurface

namespace PhongSurface

def writeFields (s : PhongSurface) : List (String × Json) :=
  [("ambient", write s.ambient), ("diffuse", write s.diffuse), ("specular", write s.specular),
    ("emissive", write s.emissive), ("alpha", write s.alpha), ("shininess", write s.shininess),
    ("reflectivity", write s.reflectivity), ("ambient_map", write s.ambientMap),
    ("diffuse_map", write s.diffuseMap), ("specular_map", write s.specularMap),
    ("emissive_map", write s.emissiveMap), ("alpha_map", write s.alphaMap),
    ("occlusion_map", write s.occlusionMap), ("normal_map", write s.normalMap),
    ("reflectivity_map", write s.reflectivityMap), ("diffuse_fresnel", write s.diffuseFresnel),
    ("specular_fresnel", write s.specularFresnel), ("alpha_fresnel", write s.alphaFresnel),
    ("emissive_fresnel", write s.emissiveFresnel),
    ("reflectivity_fresnel", write s.reflectivityFresnel)]

def read? (j : Json) : Option PhongSurface :=
  match fields? ["ambient", "diffuse", "specular", "emissive", "alpha", "shininess", "reflectivity",
    "ambient_map", "diffuse_map", "specular_map", "emissive_map", "alpha_map", "occlusion_map",
    "normal_map", "reflectivity_map", "diffuse_fresnel", "specular_fresnel", "alpha_fresnel",
    "emissive_fresnel", "reflectivity_fresnel"] j with
  | some [ambient, diffuse, specular, emissive, alpha, shininess, reflectivity, ambientMap,
      diffuseMap, specularMap, emissiveMap, alphaMap, occlusionMap, normalMap, reflectivityMap,
      diffuseFresnel, specularFresnel, alphaFresnel, emissiveFresnel, reflectivityFresnel] => do
    return {
      ambient := ← orElse standard.ambient ambient
      diffuse := ← orElse standard.diffuse diffuse
      specular := ← orElse standard.specular specular
      emissive := ← orElse standard.emissive emissive
      alpha := ← orElse standard.alpha alpha
      shininess := ← orElse standard.shininess shininess
      reflectivity := ← orElse standard.reflectivity reflectivity
      ambientMap := ← surfaceTexture ambientMap
      diffuseMap := ← surfaceTexture diffuseMap
      specularMap := ← surfaceTexture specularMap
      emissiveMap := ← surfaceTexture emissiveMap
      alphaMap := ← surfaceTexture alphaMap
      occlusionMap := ← surfaceTexture occlusionMap
      normalMap := ← surfaceTexture normalMap
      reflectivityMap := ← surfaceTexture reflectivityMap
      diffuseFresnel := ← orElse none diffuseFresnel
      specularFresnel := ← orElse none specularFresnel
      alphaFresnel := ← orElse none alphaFresnel
      emissiveFresnel := ← orElse none emissiveFresnel
      reflectivityFresnel := ← orElse none reflectivityFresnel }
  | _ => none

end PhongSurface

namespace MetallicSurface

def writeFields (s : MetallicSurface) : List (String × Json) :=
  [("base_color", write s.baseColor), ("metallic", write s.metallic),
    ("roughness", write s.roughness), ("specular_f0", write s.specularF0),
    ("emissive", write s.emissive), ("alpha", write s.alpha),
    ("base_color_map", write s.baseColorMap), ("metallic_map", write s.metallicMap),
    ("roughness_map", write s.roughnessMap),
    ("metallic_roughness_map", write s.metallicRoughnessMap),
    ("emissive_map", write s.emissiveMap), ("occlusion_map", write s.occlusionMap),
    ("alpha_map", write s.alphaMap), ("normal_map", write s.normalMap)]

def read? (j : Json) : Option MetallicSurface :=
  match fields? ["base_color", "metallic", "roughness", "specular_f0", "emissive", "alpha",
    "base_color_map", "metallic_map", "roughness_map", "metallic_roughness_map", "emissive_map",
    "occlusion_map", "alpha_map", "normal_map"] j with
  | some [baseColor, metallic, roughness, specularF0, emissive, alpha, baseColorMap, metallicMap,
      roughnessMap, metallicRoughnessMap, emissiveMap, occlusionMap, alphaMap, normalMap] => do
    return {
      baseColor := ← orElse standard.baseColor baseColor
      metallic := ← orElse standard.metallic metallic
      roughness := ← orElse standard.roughness roughness
      specularF0 := ← orElse standard.specularF0 specularF0
      emissive := ← orElse standard.emissive emissive
      alpha := ← orElse standard.alpha alpha
      baseColorMap := ← surfaceTexture baseColorMap
      metallicMap := ← surfaceTexture metallicMap
      roughnessMap := ← surfaceTexture roughnessMap
      metallicRoughnessMap := ← surfaceTexture metallicRoughnessMap
      emissiveMap := ← surfaceTexture emissiveMap
      occlusionMap := ← surfaceTexture occlusionMap
      alphaMap := ← surfaceTexture alphaMap
      normalMap := ← surfaceTexture normalMap }
  | _ => none

end MetallicSurface

namespace SpecularSurface

def writeFields (s : SpecularSurface) : List (String × Json) :=
  [("diffuse", write s.diffuse), ("specular", write s.specular),
    ("glossiness", write s.glossiness), ("emissive", write s.emissive), ("alpha", write s.alpha),
    ("diffuse_map", write s.diffuseMap), ("specular_map", write s.specularMap),
    ("glossiness_map", write s.glossinessMap),
    ("specular_glossiness_map", write s.specularGlossinessMap),
    ("emissive_map", write s.emissiveMap), ("occlusion_map", write s.occlusionMap),
    ("alpha_map", write s.alphaMap), ("normal_map", write s.normalMap)]

def read? (j : Json) : Option SpecularSurface :=
  match fields? ["diffuse", "specular", "glossiness", "emissive", "alpha", "diffuse_map",
    "specular_map", "glossiness_map", "specular_glossiness_map", "emissive_map", "occlusion_map",
    "alpha_map", "normal_map"] j with
  | some [diffuse, specular, glossiness, emissive, alpha, diffuseMap, specularMap, glossinessMap,
      specularGlossinessMap, emissiveMap, occlusionMap, alphaMap, normalMap] => do
    return {
      diffuse := ← orElse standard.diffuse diffuse
      specular := ← orElse standard.specular specular
      glossiness := ← orElse standard.glossiness glossiness
      emissive := ← orElse standard.emissive emissive
      alpha := ← orElse standard.alpha alpha
      diffuseMap := ← surfaceTexture diffuseMap
      specularMap := ← surfaceTexture specularMap
      glossinessMap := ← surfaceTexture glossinessMap
      specularGlossinessMap := ← surfaceTexture specularGlossinessMap
      emissiveMap := ← surfaceTexture emissiveMap
      occlusionMap := ← surfaceTexture occlusionMap
      alphaMap := ← surfaceTexture alphaMap
      normalMap := ← surfaceTexture normalMap }
  | _ => none

end SpecularSurface

instance : Codec Surface where
  write
    | .lambert s => tagged "kind" "lambert" s.writeFields
    | .phong s => tagged "kind" "phong" s.writeFields
    | .metallicRoughness s => tagged "kind" "metallic_roughness" s.writeFields
    | .specularGlossiness s => tagged "kind" "specular_glossiness" s.writeFields
  read j :=
    match splitTag "kind" j with
    | some (.string "lambert", rest) => (LambertSurface.read? rest).map .lambert
    | some (.string "phong", rest) => (PhongSurface.read? rest).map .phong
    | some (.string "metallic_roughness", rest) =>
      (MetallicSurface.read? rest).map .metallicRoughness
    | some (.string "specular_glossiness", rest) =>
      (SpecularSurface.read? rest).map .specularGlossiness
    | _ => none

instance : Codec Material where
  write m := .object
    [("id", write m.id), ("alpha_mode", write m.alphaMode), ("alpha_cutoff", write m.alphaCutoff),
      ("point_size", write m.pointSize), ("material", write m.surface)]
  read j :=
    match fields? ["id", "alpha_mode", "alpha_cutoff", "point_size", "material"] j with
    | some [id, alphaMode, alphaCutoff, pointSize, surface] => do
      return ⟨← required id, ← orElse .solid alphaMode,
        ← orElse Material.standardAlphaCutoff alphaCutoff,
        ← orElse Material.standardPointSize pointSize, ← required surface⟩
    | _ => none

end SceneRenderer
