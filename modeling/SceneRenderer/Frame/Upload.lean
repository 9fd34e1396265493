import SceneRenderer.Frame.TextureUnits
import SceneRenderer.Program.Link
import SceneRenderer.Scene.State
import SceneRenderer.Shader.Features
import SceneRenderer.Shader.Reflectance

/-!
The values that a program is given before it draws, at three levels: what the whole scene shares,
the material, and the transform. Values are told by the names of their uniforms; a program takes
those it reads.
-/

set_option autoImplicit false
set_option relaxedAutoImplicit false

namespace SceneRenderer

open Shader

inductive Upload
  | uniform (name : Name) (value : UniformValue)
  | texture (unit : UInt32) (target : TextureTarget) (texture : TextureId)
deriving Inhabited

namespace ProgramBindings

/-- The commands of an upload. Textures are bound whether or not the program reads them. -/
def upload (b : ProgramBindings) : Upload → List Command
  | .uniform name value => b.set name.text value
  | .texture unit target texture => [.bindTexture unit target texture]

def uploadAll (b : ProgramBindings) (uploads : List Upload) : List Command :=
  uploads.flatMap b.upload

end ProgramBindings

/-- The shadow map that was rendered for a light. -/
structure ShadowMapBinding where
  /-- The position of the light in the scene. -/
  light : UInt32
  texture : TextureId
deriving Repr, DecidableEq, Inhabited

/-- What all drawables of a frame share. -/
structure FrameGlobals where
  camera : Camera Float32
  lights : List Light
  clips : List ClipPlane
  environment : Environment
  shadowMaps : List ShadowMapBinding
  gammaFactor : Float32
deriving Inhabited

/-- Points a sampler at a unit, and binds the texture there if there is one. -/
def samplerUploads (unit : UInt32) (target : TextureTarget) (texture : Option TextureId)
    (name : Name) : List Upload :=
  (texture.toList.map fun t => .texture unit target t) ++ [.uniform name (.sampler unit)]

/-- Lists the uploads of items that take units in turn, and the first unit they leave. -/
def inUnits {α : Type} (uploads : UInt32 → α → List Upload × UInt32) :
    UInt32 → List α → List Upload × UInt32
  | unit, [] => ([], unit)
  | unit, a :: rest =>
    let (now, unit) := uploads unit a
    let (later, unit) := inUnits uploads unit rest
    (now ++ later, unit)

def lightUploads (i : UInt32) (light : Light) : List Upload :=
  .uniform (.lightColor i) (.vec3 light.radiance) ::
    match light.shape with
    | .ambient => []
    | .directional dir => [.uniform (.lightDir i) (.vec3 dir)]
    | .point pos attenuation =>
      [.uniform (.lightPos i) (.vec3 pos),
        .uniform (.lightAttenuation i) (.vec3 attenuation.toVec3)]
    | .spot pos dir attenuation cutoff =>
      [.uniform (.lightPos i) (.vec3 pos), .uniform (.lightDir i) (.vec3 dir),
        .uniform (.lightAttenuation i) (.vec3 attenuation.toVec3),
        .uniform (.lightCutoff i) (.float cutoff)]

namespace FrameGlobals

def shadowMap? (g : FrameGlobals) (light : UInt32) : Option TextureId :=
  (g.shadowMaps.find? (·.light == light)).map (·.texture)

/-- The light of a slot and its shadow; a slot without a light gets nothing. -/
def slotUploads (g : FrameGlobals) (unit : UInt32) (slot : LightSlot) : List Upload × UInt32 :=
  match g.lights[slot.index.toNat]? with
  | none => ([], unit)
  | some light =>
    if slot.castsShadow then
      (lightUploads slot.index light ++
        [.uniform (.shadowViewMatrix slot.index) (.mat4 light.shadowView),
          .uniform (.shadowProjMatrix slot.index) (.mat4 light.shadowProjection)] ++
        samplerUploads unit .plane (g.shadowMap? slot.index) (.shadowMap slot.index),
        unit + 1)
    else (lightUploads slot.index light, unit)

/-- The cube maps that a program reads. -/
def environmentMaps (g : FrameGlobals) (c : Features) : List (Option TextureId × Name) :=
  (if c.hasLightMap then [(g.environment.lightMap, .lightMap)] else []) ++
    if c.hasReflectionMap then [(g.environment.reflectionMap, .reflectionMap)] else []

def clipUploads (g : FrameGlobals) (c : Features) : List Upload :=
  (g.clips.take c.clipCount.toNat).zipIdx.flatMap fun p =>
    let i := UInt32.ofNat p.2
    [.uniform (.clipActive i) (.bool p.1.active), .uniform (.clipPos i) (.vec3 p.1.pos),
      .uniform (.clipDir i) (.vec3 p.1.dir)]

/-- The camera, lights, shadows, cube maps and clip planes, and the first unit that is left for
materials. Shadow maps take the first units in the order of the lights, then come the cube maps. -/
def uploads (g : FrameGlobals) (c : Features) : List Upload × UInt32 :=
  let shared : List Upload :=
    [.uniform .viewMatrix (.mat4 g.camera.view), .uniform .projMatrix (.mat4 g.camera.projection),
      .uniform .viewNormalMatrix (.mat4 g.camera.viewNormalMatrix),
      .uniform .gammaFactor (.float g.gammaFactor),
      .uniform .lightAmbient (.vec3 (Light.ambientRadiance g.lights))]
  let (slots, unit) := inUnits g.slotUploads 0 c.lightSlots
  let (maps, unit) :=
    inUnits (fun unit (map : Option TextureId × Name) =>
      (samplerUploads unit .cube map.1 map.2, unit + 1)) unit (g.environmentMaps c)
  (shared ++ slots ++ maps ++ g.clipUploads c, unit)

end FrameGlobals

def Surface.uploads : Surface → List Upload
  | lambert s =>
    [.uniform .materialAmbient (.vec3 s.ambient), .uniform .materialColor (.vec3 s.color),
      .uniform .materialEmissive (.vec3 s.emissive), .uniform .materialAlpha (.float s.alpha)]
  | phong s =>
    [.uniform .materialAmbient (.vec3 s.ambient), .uniform .materialDiffuse (.vec3 s.diffuse),
      .uniform .materialSpecular (.vec3 s.specular),
      .uniform .materialShininess (.float s.shininess),
      .uniform .materialReflectivity (.float s.reflectivity),
      .uniform .materialEmissive (.vec3 s.emissive), .uniform .materialAlpha (.float s.alpha)]
  | metallicRoughness s =>
    [.uniform .materialBaseColor (.vec3 s.baseColor),
      .uniform .materialMetallic (.float s.metallic),
      .uniform .materialRoughness (.float s.roughness),
      .uniform .materialSpecularF0 (.float s.specularF0),
      .uniform .materialEmissive (.vec3 s.emissive), .uniform .materialAlpha (.float s.alpha)]
  | specularGlossiness s =>
    [.uniform .materialDiffuse (.vec3 s.diffuse), .uniform .materialSpecular (.vec3 s.specular),
      .uniform .materialGlossiness (.float s.glossiness),
      .uniform .materialEmissive (.vec3 s.emissive), .uniform .materialAlpha (.float s.alpha)]

def Fresnel.uploads (f : Fresnel) (c : FresnelChannel) : List Upload :=
  [.uniform (.fresnelEdgeBias c) (.float f.edgeBias),
    .uniform (.fresnelCenterBias c) (.float f.centerBias),
    .uniform (.fresnelPower c) (.float f.power),
    .uniform (.fresnelEdgeColor c) (.vec3 f.edgeColor),
    .uniform (.fresnelCenterColor c) (.vec3 f.centerColor)]

namespace Material

/-- The textures on the given channels, each in the next unit. -/
def textureUploads (m : Material) : TextureUnits → List TextureChannel → List Upload × TextureUnits
  | units, [] => ([], units)
  | units, channel :: rest =>
    match m.texture channel with
    | none => m.textureUploads units rest
    | some t =>
      let (unit, units) := units.next
      let (later, units) := m.textureUploads units rest
      (samplerUploads unit .plane (some t.texture) (.textureMap channel) ++
        (t.matrix.toList.map fun matrix => .uniform (.textureMatrix channel) (.mat4 matrix)) ++
        later, units)

/-- The values of a material, and its textures from the first of the given units on. -/
def uploads (m : Material) (c : Features) (units : TextureUnits) : List Upload × TextureUnits :=
  let blends := c.fresnel.toList.flatMap fun channel =>
    match m.fresnel channel with
    | some f => f.uploads channel
    | none => []
  let (textures, units) := m.textureUploads units.reset (c.sampledTextures.map (·.1))
  let cutoff := Reflectance.alphaModeCutoff m.alphaMode m.alphaCutoff
  ([.uniform .materialAlphaModeCutoff (.vec4 cutoff),
      .uniform .pointSize (.float m.pointSize)] ++ m.surface.uploads ++ blends ++ textures, units)

end Material

/-- The model matrix, and the matrix for normals where the program has them. -/
def Transform.uploads (t : Transform Float32) (hasNormals : Bool) : List Upload :=
  .uniform .modelMatrix (.mat4 t.matrix) ::
    if hasNormals then [.uniform .modelNormalMatrix (.mat4 t.normalMatrix)] else []

end SceneRenderer
