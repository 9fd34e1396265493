import SceneRenderer.Scene.Geometry
import SceneRenderer.Scene.Material

/-!
The identifiers that shader text shares with the code that binds its uniforms. Names of lights,
clip planes, texture channels and fresnel channels form families.
-/

set_option autoImplicit false
set_option relaxedAutoImplicit false

namespace SceneRenderer.Shader

inductive Name
  | modelMatrix
  | viewMatrix
  | projMatrix
  | modelNormalMatrix
  | viewNormalMatrix
  | positionsDecodeMatrix
  | uvDecodeMatrix
  | pointSize
  | gammaFactor
  | lightAmbient
  | lightMap
  | reflectionMap
  | materialAmbient
  | materialColor
  | materialDiffuse
  | materialSpecular
  | materialEmissive
  | materialAlpha
  | materialShininess
  | materialReflectivity
  | materialBaseColor
  | materialMetallic
  | materialRoughness
  | materialSpecularF0
  | materialGlossiness
  | materialAlphaModeCutoff
  | vViewPosition
  | vViewNormal
  | vUV
  | vColor
  | vWorldPosition
  | vertexInput (a : VertexAttribute)
  | lightColor (i : UInt32)
  | lightDir (i : UInt32)
  | lightPos (i : UInt32)
  | lightAttenuation (i : UInt32)
  | lightCutoff (i : UInt32)
  /-- The reverse direction of a light in view space, and its distance. -/
  | vLight (i : UInt32)
  /-- The axis of a spot light's cone in view space. -/
  | vSpotDir (i : UInt32)
  | shadowMap (i : UInt32)
  | shadowViewMatrix (i : UInt32)
  | shadowProjMatrix (i : UInt32)
  | vShadowPos (i : UInt32)
  | clipActive (i : UInt32)
  | clipPos (i : UInt32)
  | clipDir (i : UInt32)
  | textureMap (c : TextureChannel)
  | textureMatrix (c : TextureChannel)
  /-- The local that holds a channel's texture coordinates. -/
  | textureUv (c : TextureChannel)
  /-- The local that holds a channel's decoded texel. -/
  | texel (c : TextureChannel)
  | fresnelEdgeBias (c : FresnelChannel)
  | fresnelCenterBias (c : FresnelChannel)
  | fresnelPower (c : FresnelChannel)
  | fresnelEdgeColor (c : FresnelChannel)
  | fresnelCenterColor (c : FresnelChannel)
deriving Repr, DecidableEq, Inhabited

def vertexAttributeName : VertexAttribute → String
  | .position => "position"
  | .normal => "normal"
  | .uv => "uv"
  | .color => "color"

/-- A name of a family with its index in decimal digits. -/
def indexedName (stem : String) (i : UInt32) : String := stem ++ toString i.toNat

namespace Name

/-- The identifier as it stands in shader text. -/
def text : Name → String
  | modelMatrix => "modelMatrix"
  | viewMatrix => "viewMatrix"
  | projMatrix => "projMatrix"
  | modelNormalMatrix => "modelNormalMatrix"
  | viewNormalMatrix => "viewNormalMatrix"
  | positionsDecodeMatrix => "positionsDecodeMatrix"
  | uvDecodeMatrix => "uvDecodeMatrix"
  | pointSize => "pointSize"
  | gammaFactor => "gammaFactor"
  | lightAmbient => "lightAmbient"
  | lightMap => "lightMap"
  | reflectionMap => "reflectionMap"
  | materialAmbient => "materialAmbient"
  | materialColor => "materialColor"
  | materialDiffuse => "materialDiffuse"
  | materialSpecular => "materialSpecular"
  | materialEmissive => "materialEmissive"
  | materialAlpha => "materialAlpha"
  | materialShininess => "materialShininess"
  | materialReflectivity => "materialReflectivity"
  | materialBaseColor => "materialBaseColor"
  | materialMetallic => "materialMetallic"
  | materialRoughness => "materialRoughness"
  | materialSpecularF0 => "materialSpecularF0"
  | materialGlossiness => "materialGlossiness"
  | materialAlphaModeCutoff => "materialAlphaModeCutoff"
  | vViewPosition => "vViewPosition"
  | vViewNormal => "vViewNormal"
  | vUV => "vUV"
  | vColor => "vColor"
  | vWorldPosition => "vWorldPosition"
  | vertexInput a => vertexAttributeName a
  | lightColor i => indexedName "lightColor" i
  | lightDir i => indexedName "lightDir" i
  | lightPos i => indexedName "lightPos" i
  | lightAttenuation i => indexedName "lightAttenuation" i
  | lightCutoff i => indexedName "lightCutoff" i
  | vLight i => indexedName "vViewLightReverseDirAndDist" i
  | vSpotDir i => indexedName "vViewSpotDir" i
  | shadowMap i => indexedName "shadowMap" i
  | shadowViewMatrix i => indexedName "shadowViewMatrix" i
  | shadowProjMatrix i => indexedName "shadowProjMatrix" i
  | vShadowPos i => indexedName "vShadowPosFromLight" i
  | clipActive i => indexedName "clipActive" i
  | clipPos i => indexedName "clipPos" i
  | clipDir i => indexedName "clipDir" i
  | textureMap c => c.stem ++ "Map"
  | textureMatrix c => c.stem ++ "MapMatrix"
  | textureUv c => c.stem ++ "UV"
  | texel c => c.stem ++ "Texel"
  | fresnelEdgeBias c => c.stem ++ "FresnelEdgeBias"
  | fresnelCenterBias c => c.stem ++ "FresnelCenterBias"
  | fresnelPower c => c.stem ++ "FresnelPower"
  | fresnelEdgeColor c => c.stem ++ "FresnelEdgeColor"
  | fresnelCenterColor c => c.stem ++ "FresnelCenterColor"

end Name

end SceneRenderer.Shader
