import SceneRenderer.Numeric.Matrix
import SceneRenderer.Scene.Id

/-!
Materials: one of four shading models with its channel values. A channel can be driven by a
texture, and the channels of the Phong model also by a view-dependent blend.
-/

set_option autoImplicit false
set_option relaxedAutoImplicit false

namespace SceneRenderer

/-- The shading model of a material. -/
inductive ShadingModel
  | lambert
  | phong
  | metallicRoughness
  | specularGlossiness
deriving Repr, DecidableEq, Inhabited

namespace ShadingModel

def name : ShadingModel → String
  | lambert => "Lambert"
  | phong => "Phong"
  | metallicRoughness => "MetallicRoughness"
  | specularGlossiness => "SpecularGlossiness"

def isPhysicallyBased : ShadingModel → Bool
  | metallicRoughness | specularGlossiness => true
  | _ => false

end ShadingModel

/-- How texel values are encoded. -/
inductive TextureEncoding
  | linear
  | srgb
  | gamma
deriving Repr, DecidableEq, Inhabited

/-- A texture attached to a channel. -/
structure TextureUse where
  texture : TextureId
  /-- Applied to texture coordinates before sampling. -/
  matrix : Option (Mat4 Float32)
  encoding : TextureEncoding
deriving Inhabited

inductive AlphaMode
  /-- Alpha is one everywhere. -/
  | solid
  /-- Fragments below the cutoff are discarded. -/
  | mask
  | blend
deriving Repr, DecidableEq, Inhabited

/-- The channels a texture can drive, in the order of their samplers. -/
inductive TextureChannel
  | ambient
  | diffuse
  | baseColor
  | specular
  | glossiness
  | specularGlossiness
  | metallic
  | roughness
  | metallicRoughness
  | emissive
  | alpha
  | occlusion
  | normal
  | reflectivity
deriving Repr, DecidableEq, Inhabited

namespace TextureChannel

def all : List TextureChannel :=
  [ambient, diffuse, baseColor, specular, glossiness, specularGlossiness, metallic, roughness,
    metallicRoughness, emissive, alpha, occlusion, normal, reflectivity]

/-- The stem of the channel's names in a shader. -/
def stem : TextureChannel → String
  | ambient => "ambient"
  | diffuse => "diffuse"
  | baseColor => "baseColor"
  | specular => "specular"
  | glossiness => "glossiness"
  | specularGlossiness => "specularGlossiness"
  | metallic => "metallic"
  | roughness => "roughness"
  | metallicRoughness => "metallicRoughness"
  | emissive => "emissive"
  | alpha => "alpha"
  | occlusion => "occlusion"
  | normal => "normal"
  | reflectivity => "reflectivity"

end TextureChannel

/-- The channels a view-dependent blend can drive. -/
inductive FresnelChannel
  | diffuse
  | specular
  | alpha
  | emissive
  | reflectivity
deriving Repr, DecidableEq, Inhabited

namespace FresnelChannel

def all : List FresnelChannel := [diffuse, specular, alpha, emissive, reflectivity]

def stem : FresnelChannel → String
  | diffuse => "diffuse"
  | specular => "specular"
  | alpha => "alpha"
  | emissive => "emissive"
  | reflectivity => "reflectivity"

end FresnelChannel

/-- A blend of two colors by the angle of view. -/
structure Fresnel where
  edgeColor : Vec3 Float32
  centerColor : Vec3 Float32
  edgeBias : Float32
  centerBias : Float32
  power : Float32
deriving Inhabited

def Fresnel.standard : Fresnel := ⟨.zero, .one, 0.0, 1.0, 1.0⟩

structure LambertSurface where
  ambient : Vec3 Float32
  color : Vec3 Float32
  emissive : Vec3 Float32
  alpha : Float32
deriving Inhabited

def LambertSurface.standard : LambertSurface := ⟨.one, .one, .zero, 1.0⟩

structure PhongSurface where
  ambient : Vec3 Float32
  diffuse : Vec3 Float32
  specular : Vec3 Float32
  emissive : Vec3 Float32
  alpha : Float32
  shininess : Float32
  reflectivity : Float32
  ambientMap : Option TextureUse
  diffuseMap : Option TextureUse
  specularMap : Option TextureUse
  emissiveMap : Option TextureUse
  alphaMap : Option TextureUse
  occlusionMap : Option TextureUse
  normalMap : Option TextureUse
  reflectivityMap : Option TextureUse
  diffuseFresnel : Option Fresnel
  specularFresnel : Option Fresnel
  alphaFresnel : Option Fresnel
  emissiveFresnel : Option Fresnel
  reflectivityFresnel : Option Fresnel
deriving Inhabited

def PhongSurface.standard : PhongSurface where
  ambient := .one
  diffuse := .one
  specular := .one
  emissive := .zero
  alpha := 1.0
  shininess := 80.0
  reflectivity := 1.0
  ambientMap := none
  diffuseMap := none
  specularMap := none
  emissiveMap := none
  alphaMap := none
  occlusionMap := none
  normalMap := none
  reflectivityMap := none
  diffuseFresnel := none
  specularFresnel := none
  alphaFresnel := none
  emissiveFresnel := none
  reflectivityFresnel := none

structure MetallicSurface where
  baseColor : Vec3 Float32
  metallic : Float32
  roughness : Float32
  /-- The reflectance of the dielectric part is `0.16` times the square of this factor. -/
  specularF0 : Float32
  emissive : Vec3 Float32
  alpha : Float32
  baseColorMap : Option TextureUse
  metallicMap : Option TextureUse
  roughnessMap : Option TextureUse
  metallicRoughnessMap : Option TextureUse
  emissiveMap : Option TextureUse
  occlusionMap : Option TextureUse
  alphaMap : Option TextureUse
  normalMap : Option TextureUse
deriving Inhabited

def MetallicSurface.standard : MetallicSurface where
  baseColor := .one
  metallic := 1.0
  roughness := 1.0
  specularF0 := 0.0
  emissive := .zero
  alpha := 1.0
  baseColorMap := none
  metallicMap := none
  roughnessMap := none
  metallicRoughnessMap := none
  emissiveMap := none
  occlusionMap := none
  alphaMap := none
  normalMap := none

structure SpecularSurface where
  diffuse : Vec3 Float32
  specular : Vec3 Float32
  glossiness : Float32
  emissive : Vec3 Float32
  alpha : Float32
  diffuseMap : Option TextureUse
  specularMap : Option TextureUse
  glossinessMap : Option TextureUse
  specularGlossinessMap : Option TextureUse
  emissiveMap : Option TextureUse
  occlusionMap : Option TextureUse
  alphaMap : Option TextureUse
  normalMap : Option TextureUse
deriving Inhabited

def SpecularSurface.standard : SpecularSurface where
  diffuse := .one
  specular := .one
  glossiness := 1.0
  emissive := .zero
  alpha := 1.0
  diffuseMap := none
  specularMap := none
  glossinessMap := none
  specularGlossinessMap := none
  emissiveMap := none
  occlusionMap := none
  alphaMap := none
  normalMap := none

/-- A shading model with its channel values. -/
inductive Surface
  | lambert (surface : LambertSurface)
  | phong (surface : PhongSurface)
  | metallicRoughness (surface : MetallicSurface)
  | specularGlossiness (surface : SpecularSurface)
deriving Inhabited

namespace Surface

def model : Surface → ShadingModel
  | lambert _ => .lambert
  | phong _ => .phong
  | metallicRoughness _ => .metallicRoughness
  | specularGlossiness _ => .specularGlossiness

/-- The texture on a channel; a channel outside the shading model has none. -/
def texture : Surface → TextureChannel → Option TextureUse
  | lambert _, _ => none
  | phong s, channel =>
    match channel with
    | .ambient => s.ambientMap
    | .diffuse => s.diffuseMap
    | .specular => s.specularMap
    | .emissive => s.emissiveMap
    | .alpha => s.alphaMap
    | .occlusion => s.occlusionMap
    | .normal => s.normalMap
    | .reflectivity => s.reflectivityMap
    | _ => none
  | metallicRoughness s, channel =>
    match channel with
    | .baseColor => s.baseColorMap
    | .metallic => s.metallicMap
    | .roughness => s.roughnessMap
    | .metallicRoughness => s.metallicRoughnessMap
    | .emissive => s.emissiveMap
    | .occlusion => s.occlusionMap
    | .alpha => s.alphaMap
    | .normal => s.normalMap
    | _ => none
  | specularGlossiness s, channel =>
    match channel with
    | .diffuse => s.diffuseMap
    | .specular => s.specularMap
    | .glossiness => s.glossinessMap
    | .specularGlossiness => s.specularGlossinessMap
    | .emissive => s.emissiveMap
    | .occlusion => s.occlusionMap
    | .alpha => s.alphaMap
    | .normal => s.normalMap
    | _ => none

/-- The view-dependent blend on a channel, of the Phong model only. -/
def fresnel : Surface → FresnelChannel → Option Fresnel
  | phong s, channel =>
    match channel with
    | .diffuse => s.diffuseFresnel
    | .specular => s.specularFresnel
    | .alpha => s.alphaFresnel
    | .emissive => s.emissiveFresnel
    | .reflectivity => s.reflectivityFresnel
  | _, _ => none

end Surface

structure Material where
  id : MaterialId
  alphaMode : AlphaMode
  alphaCutoff : Float32
  /-- The size in pixels of a point sprite. -/
  pointSize : Float32
  surface : Surface
deriving Inhabited

namespace Material

def standardAlphaCutoff : Float32 := 0.5

def standardPointSize : Float32 := 2.0

def ofSurface (id : MaterialId) (surface : Surface) : Material :=
  ⟨id, .solid, standardAlphaCutoff, standardPointSize, surface⟩

def model (m : Material) : ShadingModel := m.surface.model

def texture (m : Material) (channel : TextureChannel) : Option TextureUse :=
  m.surface.texture channel

def fresnel (m : Material) (channel : FresnelChannel) : Option Fresnel :=
  m.surface.fresnel channel

end Material

end SceneRenderer
