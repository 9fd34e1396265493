import SceneRenderer.Shader.Vertex

/-!
The fragment stage of a draw program. Its main function discards clipped fragments, takes up the
values of the material, applies vertex colors, textures and view-dependent blends, lights the
surface, and treats alpha and the encoding of the output.
-/

set_option autoImplicit false
set_option relaxedAutoImplicit false

namespace SceneRenderer.Shader

open Shader.Record Name

def discardIf (condition : Line) : List Record :=
  [openBlock (.literal "if (" :: condition ++ [.literal ")"]), statement ["discard;"], closeBlock]

def gammaFactorRecord : Record := uniform .float gammaFactor

/-- Constants and a macro that lighting uses. -/
def mathDirectives : List Record :=
  [directive "#define PI 3.14159265359", directive "#define RECIPROCAL_PI 0.31830988618",
    directive "#define EPSILON 1e-6", directive "#define saturate(a) clamp(a, 0.0, 1.0)"]

def clipPlaneRecords (i : UInt32) : List Record :=
  [uniform .bool (clipActive i), uniform .vec3 (clipPos i), uniform .vec3 (clipDir i),
    openBlock ["if (", clipActive i, ")"],
    statement ["dist += clamp(dot(", clipDir i, ", ", vWorldPosition, ".xyz - ", clipPos i,
      "), 0.0, 1000.0);"],
    closeBlock]

/-- Discards what lies beyond an active clip plane. -/
def clipRecords (c : Features) : List Record :=
  onlyIf (0 < c.clipCount) <|
    [varying .vec4 vWorldPosition, statement ["float dist = 0.0;"]] ++
    ((List.range c.clipCount.toNat).map UInt32.ofNat).flatMap clipPlaneRecords ++
    discardIf ["dist > 0.0"]

/-- Discards the corners of a point sprite. -/
def roundPointRecords : List Record :=
  statement ["vec2 cxy = 2.0 * gl_PointCoord - 1.0;"] :: discardIf ["dot(cxy, cxy) > 1.0"]

/-- The local that holds the color which diffuse light falls on. -/
def albedoLocal : ShadingModel → String
  | .metallicRoughness => "baseColor"
  | .lambert | .phong | .specularGlossiness => "diffuseColor"

/-- The local that holds the specular color. -/
def specularLocal : ShadingModel → String
  | .phong => "specular"
  | .lambert | .metallicRoughness | .specularGlossiness => "specularColor"

/-- The locals of the shading model, filled from the uniforms of the material. -/
def materialRecords (c : Features) : List Record :=
  [uniform .vec3 materialEmissive, uniform .float materialAlpha] ++
  (match c.model with
  | .lambert =>
    [uniform .vec3 materialAmbient, uniform .vec3 materialColor,
      statement ["vec3 ambientColor = ", materialAmbient, ";"],
      statement ["vec3 diffuseColor = ", materialColor, ";"]]
  | .phong =>
    [uniform .vec3 materialAmbient, uniform .vec3 materialDiffuse, uniform .vec3 materialSpecular,
      uniform .float materialShininess,
      statement ["vec3 ambientColor = ", materialAmbient, ";"],
      statement ["vec3 diffuseColor = ", materialDiffuse, ";"],
      statement ["vec3 specular = ", materialSpecular, ";"],
      statement ["float shininess = ", materialShininess, ";"]] ++
    onlyIf c.hasReflectionMap
      [uniform .float materialReflectivity,
        statement ["float reflectivity = ", materialReflectivity, ";"]]
  | .metallicRoughness =>
    [uniform .vec3 materialBaseColor, uniform .float materialMetallic,
      uniform .float materialRoughness, uniform .float materialSpecularF0,
      statement ["vec3 baseColor = ", materialBaseColor, ";"],
      statement ["float metallic = ", materialMetallic, ";"],
      statement ["float roughness = ", materialRoughness, ";"],
      statement ["float specularF0 = ", materialSpecularF0, ";"]]
  | .specularGlossiness =>
    [uniform .vec3 materialDiffuse, uniform .vec3 materialSpecular,
      uniform .float materialGlossiness,
      statement ["vec3 diffuseColor = ", materialDiffuse, ";"],
      statement ["vec3 specularColor = ", materialSpecular, ";"],
      statement ["float glossiness = ", materialGlossiness, ";"]]) ++
  [statement ["vec3 emissiveColor = ", materialEmissive, ";"],
    statement ["float alpha = ", materialAlpha, ";"],
    statement ["float occlusion = 1.0;"]]

def vertexColorRecords (c : Features) : List Record :=
  varying .vec4 vColor ::
  (if c.gammaInput then
    [gammaFactorRecord, define .gammaToLinear,
      statement ["vec4 vertexColor = gammaToLinear(", vColor, ", ", gammaFactor, ");"]]
  else [statement ["vec4 vertexColor = ", vColor, ";"]]) ++
  [statement [albedoLocal c.model, " *= vertexColor.rgb;"],
    statement ["alpha *= vertexColor.a;"]]

/-- The normal and the direction to the eye, in view space. -/
def viewRecords : List Record :=
  [varying .vec4 vViewPosition, varying .vec3 vViewNormal,
    statement ["vec3 viewNormal = normalize(", vViewNormal, ");"],
    statement ["vec3 viewEyeDir = normalize(-", vViewPosition, ".xyz);"]]

/-- Reads a texel and decodes it. -/
def texelRecords (channel : TextureChannel) (encoding : TextureEncoding) : List Record :=
  let m := textureMap channel
  let uv := textureUv channel
  let t := texel channel
  match encoding with
  | .linear =>
    [define .linearToLinear,
      statement ["vec4 ", t, " = linearToLinear(texture2D(", m, ", ", uv, "));"]]
  | .srgb =>
    [define .srgbToLinear,
      statement ["vec4 ", t, " = sRGBToLinear(texture2D(", m, ", ", uv, "));"]]
  | .gamma =>
    [gammaFactorRecord, define .gammaToLinear,
      statement ["vec4 ", t, " = gammaToLinear(texture2D(", m, ", ", uv, "), ", gammaFactor,
        ");"]]

/-- What a texel does to the locals of the surface. -/
def texelEffectRecords (model : ShadingModel) (channel : TextureChannel) : List Record :=
  let t := texel channel
  match channel with
  | .ambient => [statement ["ambientColor *= ", t, ".rgb;"]]
  | .diffuse | .baseColor =>
    [statement [albedoLocal model, " *= ", t, ".rgb;"], statement ["alpha *= ", t, ".a;"]]
  | .specular => [statement [specularLocal model, " *= ", t, ".rgb;"]]
  | .glossiness => [statement ["glossiness *= ", t, ".r;"]]
  | .specularGlossiness =>
    [statement ["specularColor *= ", t, ".rgb;"], statement ["glossiness *= ", t, ".a;"]]
  | .metallic => [statement ["metallic *= ", t, ".r;"]]
  | .roughness => [statement ["roughness *= ", t, ".r;"]]
  | .metallicRoughness =>
    [statement ["roughness *= ", t, ".g;"], statement ["metallic *= ", t, ".b;"]]
  | .emissive => [statement ["emissiveColor *= ", t, ".rgb;"]]
  | .alpha => [statement ["alpha *= ", t, ".r;"]]
  | .occlusion => [statement ["occlusion *= ", t, ".r;"]]
  | .normal =>
    [define .perturbNormal,
      statement ["viewNormal = perturbNormal2Arb(", vViewPosition, ".xyz, viewNormal, ",
        textureUv channel, ", ", t, ".xyz * 2.0 - 1.0);"]]
  | .reflectivity => [statement ["reflectivity *= ", t, ".r;"]]

def textureRecords (model : ShadingModel) (channel : TextureChannel) (feature : TextureFeature) :
    List Record :=
  uniform .sampler2D (textureMap channel) ::
  (if feature.hasMatrix then
    [uniform .mat4 (textureMatrix channel),
      statement ["vec2 ", textureUv channel, " = (", textureMatrix channel, " * texturePos).xy;"]]
  else [statement ["vec2 ", textureUv channel, " = texturePos.xy;"]]) ++
  texelRecords channel feature.encoding ++ texelEffectRecords model channel

def texturesRecords (c : Features) : List Record :=
  onlyIf c.usesUv <|
    [varying .vec2 vUV,
      statement ["vec4 texturePos = vec4(", vUV, ".s, ", vUV, ".t, 1.0, 1.0);"]] ++
    c.sampledTextures.flatMap fun t => textureRecords c.model t.1 t.2

/-- Blends the edge and center color of a channel into the local it drives. -/
def fresnelChannelRecords (channel : FresnelChannel) : List Record :=
  let blend (target component : String) : Line :=
    [target, " *= mix(", fresnelEdgeColor channel, component ++ ", ", fresnelCenterColor channel,
      component ++ ", fresnel(viewEyeDir, viewNormal, ", fresnelEdgeBias channel, ", ",
      fresnelCenterBias channel, ", ", fresnelPower channel, "));"]
  [uniform .float (fresnelEdgeBias channel), uniform .float (fresnelCenterBias channel),
    uniform .float (fresnelPower channel), uniform .vec3 (fresnelEdgeColor channel),
    uniform .vec3 (fresnelCenterColor channel),
    statement (match channel with
      | .diffuse => blend "diffuseColor" ""
      | .specular => blend "specular" ""
      | .alpha => blend "alpha" ".r"
      | .emissive => blend "emissiveColor" ""
      | .reflectivity => blend "reflectivity" ".r")]

def fresnelRecords (c : Features) : List Record :=
  onlyIf (!c.fresnel.isEmpty) (define .fresnel :: c.fresnel.toList.flatMap fresnelChannelRecords)

/-- Fills the record that lighting reads, and the color that ambient light falls on. Metal has no
diffuse part, and a specular color takes its strongest channel from the diffuse one. -/
def surfaceRecords (model : ShadingModel) : List Record :=
  [define .materialStruct, statement ["Material material;"]] ++
  match model with
  | .lambert =>
    [statement ["material.diffuseColor = diffuseColor;"],
      statement ["material.specularColor = vec3(0.0);"],
      statement ["material.specularRoughness = 1.0;"],
      statement ["material.shine = 0.0;"],
      statement ["vec3 ambientAlbedo = ambientColor * material.diffuseColor;"]]
  | .phong =>
    [statement ["material.diffuseColor = diffuseColor;"],
      statement ["material.specularColor = specular;"],
      statement ["material.specularRoughness = 1.0;"],
      statement ["material.shine = shininess;"],
      statement ["vec3 ambientAlbedo = ambientColor * material.diffuseColor;"]]
  | .metallicRoughness =>
    [statement ["float dielectricSpecular = 0.16 * specularF0 * specularF0;"],
      statement
        ["material.diffuseColor = baseColor * (1.0 - dielectricSpecular) * (1.0 - metallic);"],
      statement ["material.specularColor = mix(vec3(dielectricSpecular), baseColor, metallic);"],
      statement ["material.specularRoughness = clamp(roughness, 0.04, 1.0);"],
      statement ["material.shine = 0.0;"],
      statement ["vec3 ambientAlbedo = material.diffuseColor;"]]
  | .specularGlossiness =>
    [statement ["material.diffuseColor = diffuseColor * (1.0 - " ++
        "max(max(specularColor.r, specularColor.g), specularColor.b));"],
      statement ["material.specularColor = specularColor;"],
      statement ["material.specularRoughness = clamp(1.0 - glossiness, 0.04, 1.0);"],
      statement ["material.shine = 0.0;"],
      statement ["vec3 ambientAlbedo = material.diffuseColor;"]]

/-- Light from the maps around the scene. -/
def environmentRecords (c : Features) : List Record :=
  onlyIf (c.hasLightMap || c.hasReflectionMap)
    [uniform .mat4 viewMatrix, define .inverseTransformDirection] ++
  onlyIf c.hasLightMap
    [uniform .samplerCube lightMap,
      statement ["vec3 irradiance = textureCube(", lightMap,
        ", inverseTransformDirection(geometry.viewNormal, ", viewMatrix, ")).rgb;"],
      statement ["reflectedLight.diffuse += irradiance * material.diffuseColor;"]] ++
  onlyIf c.hasReflectionMap
    [uniform .samplerCube reflectionMap,
      statement ["vec3 reflectVec = inverseTransformDirection(" ++
        "reflect(-geometry.viewEyeDir, geometry.viewNormal), ", viewMatrix, ");"],
      statement ["vec3 radiance = textureCube(", reflectionMap, ", reflectVec).rgb;"],
      statement [match c.model with
        | .phong => "reflectedLight.specular += radiance * reflectivity;"
        | .lambert | .metallicRoughness | .specularGlossiness =>
          "reflectedLight.specular += radiance * material.specularColor;"]]

/-- The lighting functions of a shading model, in the order of their calls. -/
def lightingItems : ShadingModel → List PreludeItem
  | .lambert => [.lambertLighting]
  | .phong => [.phongLighting]
  | .metallicRoughness | .specularGlossiness =>
    [.schlick, .smithCorrelated, .ggxDistribution, .specularGgx, .pbrLighting]

/-- The function that adds the light of one source. -/
def lightingFunction : ShadingModel → PreludeItem
  | .lambert => .lambertLighting
  | .phong => .phongLighting
  | .metallicRoughness | .specularGlossiness => .pbrLighting

/-- The direction towards a light, and its distance where that matters. -/
def lightDirectionRecords (slot : LightSlot) : List Record :=
  let i := slot.index
  if slot.isWorldSpace then
    [varying .vec4 (vLight i),
      statement ["light.direction = normalize(", vLight i, ".xyz);"]] ++
    onlyIf slot.isPositional [statement ["lightDist = ", vLight i, ".w;"]]
  else if slot.isPositional then
    [uniform .vec3 (lightPos i),
      statement ["lightVec = ", lightPos i, " - ", vViewPosition, ".xyz;"],
      statement ["lightDist = length(lightVec);"],
      statement ["light.direction = normalize(lightVec);"]]
  else
    [uniform .vec3 (lightDir i), statement ["light.direction = normalize(-", lightDir i, ");"]]

/-- The cone of a spot light. -/
def spotRecords (slot : LightSlot) : List Record :=
  let i := slot.index
  let cone (axis : Name) : Record :=
    statement ["light.color *= step(", lightCutoff i, ", dot(-light.direction, normalize(", axis,
      ")));"]
  uniform .float (lightCutoff i) ::
  if slot.isWorldSpace then [varying .vec3 (vSpotDir i), cone (vSpotDir i)]
  else [uniform .vec3 (lightDir i), cone (lightDir i)]

/-- The direction and color of a light at the fragment. -/
def incidentLightRecords (slot : LightSlot) : List Record :=
  let i := slot.index
  lightDirectionRecords slot ++
  [uniform .vec3 (lightColor i), statement ["light.color = ", lightColor i, ";"]] ++
  onlyIf slot.isPositional
    [uniform .vec3 (lightAttenuation i),
      statement ["light.color *= 1.0 / max(dot(", lightAttenuation i,
        ", vec3(1.0, lightDist, lightDist * lightDist)), EPSILON);"]] ++
  onlyIf (slot.type == .spot) (spotRecords slot) ++
  onlyIf slot.castsShadow
    [uniform .sampler2D (shadowMap i), varying .vec4 (vShadowPos i),
      statement ["light.color *= computeShadow(", shadowMap i, ", ", vShadowPos i, ");"]]

def lightRecords (model : ShadingModel) (slot : LightSlot) : List Record :=
  incidentLightRecords slot ++
  [statement [(lightingFunction model).name, "(light, geometry, material, reflectedLight);"]]

/-- The filter over shadow maps, where the light of a shadow-casting source is added. -/
def shadowFilterRecords (c : Features) (o : ShaderOptions) : Except Fault (List Record) :=
  if c.isShaded && !c.shadowSlots.isEmpty then do
    return [define .unpackDepth, define (.computeShadow (← ShadowFilter.ofOptions o))]
  else .ok []

/-- The light of all sources, given the filter over shadow maps. -/
def lightsRecords (c : Features) (filter : List Record) : List Record :=
  onlyIf (!c.lightSlots.isEmpty) <|
    [define .incidentLightStruct, define .diffuseLambert] ++
    (lightingItems c.model).map define ++ filter ++
    [statement ["IncidentLight light;"]] ++
    onlyIf (c.lightSlots.any LightSlot.isPositional) [statement ["float lightDist;"]] ++
    onlyIf (c.lightSlots.any fun s => s.isPositional && !s.isWorldSpace)
      [statement ["vec3 lightVec;"]] ++
    c.lightSlots.flatMap (lightRecords c.model)

/-- What lighting adds up, and what it reads. -/
def shadingSetupRecords : List Record :=
  [define .reflectedLightStruct, define .geometryStruct,
    statement ["Geometry geometry;"],
    statement ["geometry.position = ", vViewPosition, ".xyz;"],
    statement ["geometry.viewNormal = viewNormal;"],
    statement ["geometry.viewEyeDir = viewEyeDir;"],
    statement ["ReflectedLight reflectedLight = ReflectedLight(vec3(0.0), vec3(0.0));"]]

/-- The light that leaves the surface, given the filter over shadow maps. -/
def outgoingRecords (c : Features) (filter : List Record) : List Record :=
  if c.isShaded then
    shadingSetupRecords ++ environmentRecords c ++ lightsRecords c filter ++
      [statement ["vec3 outgoingLight = (", lightAmbient, " * ambientAlbedo + " ++
        "reflectedLight.diffuse) * occlusion + reflectedLight.specular + emissiveColor;"]]
  else
    [statement ["vec3 outgoingLight = ", lightAmbient,
      " * ambientAlbedo * occlusion + emissiveColor;"]]

/-- Alpha as the mode of the material wants it. -/
def alphaRecords : List Record :=
  [uniform .vec4 materialAlphaModeCutoff,
    statement ["alpha = alpha * ", materialAlphaModeCutoff, ".x + ", materialAlphaModeCutoff,
      ".y;"]] ++
  discardIf ["alpha < ", materialAlphaModeCutoff, ".z"]

def outputRecords (c : Features) : List Record :=
  if c.gammaOutput then
    [gammaFactorRecord, define .linearToGamma,
      statement ["gl_FragColor = linearToGamma(vec4(outgoingLight, alpha), ", gammaFactor, ");"]]
  else [statement ["gl_FragColor = vec4(outgoingLight, alpha);"]]

/-- The records of the stage, given the filter over shadow maps. -/
def filteredFragmentRecords (c : Features) (o : ShaderOptions) (filter : List Record) :
    List Record :=
  onlyIf (c.samples .normal) [directive "#extension GL_OES_standard_derivatives : enable"] ++
  precisionRecord o ::
  onlyIf c.isShaded mathDirectives ++
  clipRecords c ++
  onlyIf (c.isPoints && o.roundPoints) roundPointRecords ++
  materialRecords c ++
  onlyIf c.hasColors (vertexColorRecords c) ++
  onlyIf c.isShaded viewRecords ++
  texturesRecords c ++
  fresnelRecords c ++
  surfaceRecords c.model ++
  uniform .vec3 lightAmbient :: outgoingRecords c filter ++
  alphaRecords ++
  outputRecords c

def fragmentRecords (c : Features) (o : ShaderOptions) : Except Fault (List Record) := do
  return filteredFragmentRecords c o (← shadowFilterRecords c o)

end SceneRenderer.Shader
