import SceneRenderer.Scene.State
import SceneRenderer.Shader.Features

/-!
Classification: what a drawable, the scene's lights and clip planes, and the modes of drawing mean
for the program that draws it. Missing or inconsistent parts switch features off, so every drawable
has a program.
-/

set_option autoImplicit false
set_option relaxedAutoImplicit false

namespace SceneRenderer.Shader

/-- What the whole scene contributes to the features of a drawable. -/
structure SceneFlags where
  gammaInput : Bool
  gammaOutput : Bool
  hasLightMap : Bool
  hasReflectionMap : Bool
deriving Repr, DecidableEq, Inhabited

/-- Shading needs normals, and only triangles have them. -/
def usableNormals (geometry : Geometry) : Bool :=
  geometry.declaresNormals && geometry.topology.isTriangles

/-- A normal map needs normals, texture coordinates and indices. -/
def usableNormalMap (geometry : Geometry) (material : Material) : Bool :=
  usableNormals geometry && geometry.hasUv && geometry.hasIndices &&
    (material.texture .normal).isSome

/-- Reflections need normals and a surface that is not matte. -/
def usableReflectionMap (geometry : Geometry) (material : Material) (scene : SceneFlags) : Bool :=
  usableNormals geometry && scene.hasReflectionMap && material.model != .lambert

/-- The slot of every light but the ambient ones, under its position in the list. -/
def lightSlots (lights : List Light) (receivesShadow : Bool) : List LightSlot :=
  (lights.zipIdx.filter fun l => !l.1.isAmbient).map fun l =>
    ⟨UInt32.ofNat l.2, l.1.type, l.1.space, receivesShadow && l.1.castsShadow⟩

/-- The textures of a material on a geometry with texture coordinates. -/
def textureFlags (geometry : Geometry) (material : Material) (scene : SceneFlags) : TextureFlags :=
  TextureFlags.ofFn fun channel =>
    let allowed :=
      match channel with
      | .normal => usableNormalMap geometry material
      | .reflectivity => usableReflectionMap geometry material scene
      | _ => true
    if geometry.hasUv && allowed then
      (material.texture channel).map fun t => ⟨t.encoding, t.matrix.isSome⟩
    else none

/-- The view-dependent blends of a Phong material. -/
def fresnelFlags (geometry : Geometry) (material : Material) (scene : SceneFlags) : FresnelFlags :=
  FresnelFlags.ofFn fun channel =>
    usableNormals geometry && material.model == .phong &&
      (channel != .reflectivity || usableReflectionMap geometry material scene) &&
      (material.fresnel channel).isSome

/-- The features that the parts ask for, whether or not they change the text of the program. -/
def requestedFeatures (geometry : Geometry) (material : Material) (lights : List Light)
    (clips : List ClipPlane) (modes : DrawModes) (scene : SceneFlags) : Features :=
  let hasNormals := usableNormals geometry
  let receivesShadow := modes.receiveShadow && lights.any Light.castsShadow
  { hasNormals
    hasUv := geometry.hasUv
    hasNormalMap := usableNormalMap geometry material
    hasColors := geometry.hasColors
    clipCount := if modes.clippable then UInt32.ofNat clips.length else 0
    model := material.model
    quantized := geometry.isQuantized
    receivesShadow
    gammaInput := scene.gammaInput
    gammaOutput := scene.gammaOutput
    lightSlots := if hasNormals then lightSlots lights receivesShadow else []
    isPoints := geometry.topology.isPoints
    billboard := modes.billboard
    stationary := modes.stationary
    textures := textureFlags geometry material scene
    fresnel := fresnelFlags geometry material scene
    hasLightMap := hasNormals && scene.hasLightMap
    hasReflectionMap := usableReflectionMap geometry material scene }

def classify (geometry : Geometry) (material : Material) (lights : List Light)
    (clips : List ClipPlane) (modes : DrawModes) (scene : SceneFlags) : Features :=
  (requestedFeatures geometry material lights clips modes scene).normalize

end SceneRenderer.Shader
