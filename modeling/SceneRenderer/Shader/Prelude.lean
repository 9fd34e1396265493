import SceneRenderer.Shader.Options

/-!
The structs, constants and functions that stages define ahead of their main function.
-/

set_option autoImplicit false
set_option relaxedAutoImplicit false

namespace SceneRenderer.Shader

inductive PreludeItem
  | octDecode
  | billboardSpherical
  | billboardCylindrical
  | texUnitConverter
  | linearToLinear
  | srgbToLinear
  | gammaToLinear
  | linearToGamma
  | fresnel
  | perturbNormal
  | inverseTransformDirection
  | unpackDepth
  | packDepth
  | materialStruct
  | incidentLightStruct
  | reflectedLightStruct
  | geometryStruct
  | diffuseLambert
  | lambertLighting
  | phongLighting
  | schlick
  | smithCorrelated
  | ggxDistribution
  | specularGgx
  | pbrLighting
  | computeShadow (filter : ShadowFilter)
deriving Inhabited

/-- The lines of a block under a header. -/
def blockLines (header : String) (body : List String) (closing : String) : List String :=
  (header ++ " \x7b") :: body.map ("    " ++ ·) ++ [closing]

def functionLines (header : String) (body : List String) : List String :=
  blockLines header body "\x7d"

def structLines (name : String) (fields : List String) : List String :=
  blockLines ("struct " ++ name) fields "\x7d;"

/-- The average over the square of texels of whether they lie behind a fragment. -/
def shadowFilterLines (f : ShadowFilter) : List String :=
  let radius := floatLiteral f.radius.toFloat32
  let loop (v : String) :=
    "for (float " ++ v ++ " = -" ++ radius ++ "; " ++ v ++ " <= " ++ radius ++ "; " ++ v ++
      " += 1.0)"
  functionLines "float computeShadow(sampler2D shadowMap, vec4 shadowPosFromLight)" <|
    ["vec3 shadowCoord = shadowPosFromLight.xyz / shadowPosFromLight.w;",
      "float texelSize = 1.0 / " ++ floatLiteral f.mapSize.toFloat32 ++ ";",
      "float shadow = 0.0;"] ++
    functionLines (loop "x") (functionLines (loop "y")
      ["float depth = unpackDepth(texture2D(shadowMap, shadowCoord.xy + vec2(x, y) * texelSize));",
        "shadow += (shadowCoord.z - " ++ floatLiteral f.bias ++ " > depth) ? 0.0 : 1.0;"]) ++
    ["return shadow / " ++ floatLiteral f.taps.toFloat32 ++ ";"]

namespace PreludeItem

/-- The name under which a stage keeps the definition; both billboards share one. -/
def name : PreludeItem → String
  | octDecode => "octDecode"
  | billboardSpherical | billboardCylindrical => "billboard"
  | texUnitConverter => "texUnitConverter"
  | linearToLinear => "linearToLinear"
  | srgbToLinear => "sRGBToLinear"
  | gammaToLinear => "gammaToLinear"
  | linearToGamma => "linearToGamma"
  | fresnel => "fresnel"
  | perturbNormal => "perturbNormal2Arb"
  | inverseTransformDirection => "inverseTransformDirection"
  | unpackDepth => "unpackDepth"
  | packDepth => "packDepth"
  | materialStruct => "Material"
  | incidentLightStruct => "IncidentLight"
  | reflectedLightStruct => "ReflectedLight"
  | geometryStruct => "Geometry"
  | diffuseLambert => "BRDF_Diffuse_Lambert"
  | lambertLighting => "computeLambertLighting"
  | phongLighting => "computePhongLighting"
  | schlick => "F_Schlick"
  | smithCorrelated => "G_GGX_SmithCorrelated"
  | ggxDistribution => "D_GGX"
  | specularGgx => "BRDF_Specular_GGX"
  | pbrLighting => "computePBRLighting"
  | computeShadow _ => "computeShadow"

def lines : PreludeItem → List String
  | octDecode =>
    functionLines "vec3 octDecode(vec2 oct)" <|
      ["vec3 v = vec3(oct.xy, 1.0 - abs(oct.x) - abs(oct.y));"] ++
      functionLines "if (v.z < 0.0)"
        ["v.xy = (1.0 - abs(v.yx)) * vec2(v.x >= 0.0 ? 1.0 : -1.0, v.y >= 0.0 ? 1.0 : -1.0);"] ++
      ["return normalize(v);"]
  | billboardSpherical =>
    functionLines "void billboard(inout mat4 mat)"
      ["mat[0][0] = 1.0;", "mat[0][1] = 0.0;", "mat[0][2] = 0.0;",
        "mat[1][0] = 0.0;", "mat[1][1] = 1.0;", "mat[1][2] = 0.0;",
        "mat[2][0] = 0.0;", "mat[2][1] = 0.0;", "mat[2][2] = 1.0;"]
  | billboardCylindrical =>
    functionLines "void billboard(inout mat4 mat)"
      ["mat[0][0] = 1.0;", "mat[0][1] = 0.0;", "mat[0][2] = 0.0;",
        "mat[2][0] = 0.0;", "mat[2][1] = 0.0;", "mat[2][2] = 1.0;"]
  | texUnitConverter =>
    ["const mat4 texUnitConverter = mat4(0.5, 0.0, 0.0, 0.0, 0.0, 0.5, 0.0, 0.0, " ++
      "0.0, 0.0, 0.5, 0.0, 0.5, 0.5, 0.5, 1.0);"]
  | linearToLinear =>
    functionLines "vec4 linearToLinear(in vec4 value)" ["return value;"]
  | srgbToLinear =>
    functionLines "vec4 sRGBToLinear(in vec4 value)"
      ["return vec4(mix(pow(value.rgb * 0.9478672986 + vec3(0.0521327014), vec3(2.4)), " ++
        "value.rgb * 0.0773993808, vec3(lessThanEqual(value.rgb, vec3(0.04045)))), value.w);"]
  | gammaToLinear =>
    functionLines "vec4 gammaToLinear(in vec4 value, in float gammaFactor)"
      ["return vec4(pow(value.xyz, vec3(gammaFactor)), value.w);"]
  | linearToGamma =>
    functionLines "vec4 linearToGamma(in vec4 value, in float gammaFactor)"
      ["return vec4(pow(value.xyz, vec3(1.0 / gammaFactor)), value.w);"]
  | fresnel =>
    functionLines ("float fresnel(vec3 eyeDir, vec3 normal, float edgeBias, float centerBias, " ++
        "float power)")
      ["float fr = abs(dot(eyeDir, normal));",
        "float finalFr = clamp((fr - edgeBias) / (centerBias - edgeBias), 0.0, 1.0);",
        "return pow(finalFr, power);"]
  | perturbNormal =>
    functionLines "vec3 perturbNormal2Arb(vec3 eyePos, vec3 surfNorm, vec2 uv, vec3 mapN)"
      ["vec3 q0 = dFdx(eyePos.xyz);",
        "vec3 q1 = dFdy(eyePos.xyz);",
        "vec2 st0 = dFdx(uv.st);",
        "vec2 st1 = dFdy(uv.st);",
        "vec3 S = normalize(q0 * st1.t - q1 * st0.t);",
        "vec3 T = normalize(-q0 * st1.s + q1 * st0.s);",
        "vec3 N = normalize(surfNorm);",
        "mat3 tsn = mat3(S, T, N);",
        "return normalize(tsn * mapN);"]
  | inverseTransformDirection =>
    functionLines "vec3 inverseTransformDirection(in vec3 dir, in mat4 matrix)"
      ["return normalize((vec4(dir, 0.0) * matrix).xyz);"]
  | unpackDepth =>
    functionLines "float unpackDepth(const in vec4 packedDepth)"
      ["const vec4 bitShift = vec4(1.0 / (256.0 * 256.0 * 256.0), 1.0 / (256.0 * 256.0), " ++
          "1.0 / 256.0, 1.0);",
        "return dot(packedDepth, bitShift);"]
  | packDepth =>
    functionLines "vec4 packDepth(const in float depth)"
      ["const vec4 bitShift = vec4(256.0 * 256.0 * 256.0, 256.0 * 256.0, 256.0, 1.0);",
        "const vec4 bitMask = vec4(0.0, 1.0 / 256.0, 1.0 / 256.0, 1.0 / 256.0);",
        "vec4 res = fract(depth * bitShift);",
        "res -= res.xxyz * bitMask;",
        "return res;"]
  | materialStruct =>
    structLines "Material"
      ["vec3 diffuseColor;", "vec3 specularColor;", "float specularRoughness;", "float shine;"]
  | incidentLightStruct => structLines "IncidentLight" ["vec3 color;", "vec3 direction;"]
  | reflectedLightStruct => structLines "ReflectedLight" ["vec3 diffuse;", "vec3 specular;"]
  | geometryStruct =>
    structLines "Geometry" ["vec3 position;", "vec3 viewNormal;", "vec3 viewEyeDir;"]
  | diffuseLambert =>
    functionLines "vec3 BRDF_Diffuse_Lambert(const in vec3 diffuseColor)"
      ["return RECIPROCAL_PI * diffuseColor;"]
  | lambertLighting =>
    functionLines ("void computeLambertLighting(const in IncidentLight directLight, " ++
        "const in Geometry geometry, const in Material material, " ++
        "inout ReflectedLight reflectedLight)")
      ["float dotNL = saturate(dot(geometry.viewNormal, directLight.direction));",
        "vec3 irradiance = dotNL * directLight.color * PI;",
        "reflectedLight.diffuse += irradiance * BRDF_Diffuse_Lambert(material.diffuseColor);"]
  | phongLighting =>
    functionLines ("void computePhongLighting(const in IncidentLight directLight, " ++
        "const in Geometry geometry, const in Material material, " ++
        "inout ReflectedLight reflectedLight)")
      ["float dotNL = saturate(dot(geometry.viewNormal, directLight.direction));",
        "vec3 irradiance = dotNL * directLight.color * PI;",
        "reflectedLight.diffuse += irradiance * BRDF_Diffuse_Lambert(material.diffuseColor);",
        "reflectedLight.specular += directLight.color * material.specularColor * " ++
          "pow(max(dot(reflect(-directLight.direction, geometry.viewNormal), " ++
          "geometry.viewEyeDir), 0.0), material.shine);"]
  | schlick =>
    functionLines "vec3 F_Schlick(const in vec3 specularColor, const in float dotLH)"
      ["float fresnel = exp2((-5.55473 * dotLH - 6.98316) * dotLH);",
        "return (1.0 - specularColor) * fresnel + specularColor;"]
  | smithCorrelated =>
    functionLines ("float G_GGX_SmithCorrelated(const in float alpha, const in float dotNL, " ++
        "const in float dotNV)")
      ["float a2 = alpha * alpha;",
        "float gl = dotNL * sqrt(a2 + (1.0 - a2) * (dotNV * dotNV));",
        "float gv = dotNV * sqrt(a2 + (1.0 - a2) * (dotNL * dotNL));",
        "return 0.5 / max(gl + gv, EPSILON);"]
  | ggxDistribution =>
    functionLines "float D_GGX(const in float alpha, const in float dotNH)"
      ["float a2 = alpha * alpha;",
        "float denom = (dotNH * dotNH) * (a2 - 1.0) + 1.0;",
        "return RECIPROCAL_PI * a2 / (denom * denom);"]
  | specularGgx =>
    functionLines ("vec3 BRDF_Specular_GGX(const in IncidentLight incidentLight, " ++
        "const in Geometry geometry, const in vec3 specularColor, const in float roughness)")
      ["float alpha = roughness * roughness;",
        "vec3 halfDir = normalize(incidentLight.direction + geometry.viewEyeDir);",
        "float dotNL = saturate(dot(geometry.viewNormal, incidentLight.direction));",
        "float dotNV = saturate(dot(geometry.viewNormal, geometry.viewEyeDir));",
        "float dotNH = saturate(dot(geometry.viewNormal, halfDir));",
        "float dotLH = saturate(dot(incidentLight.direction, halfDir));",
        "vec3 F = F_Schlick(specularColor, dotLH);",
        "float G = G_GGX_SmithCorrelated(alpha, dotNL, dotNV);",
        "float D = D_GGX(alpha, dotNH);",
        "return F * (G * D);"]
  | pbrLighting =>
    functionLines ("void computePBRLighting(const in IncidentLight incidentLight, " ++
        "const in Geometry geometry, const in Material material, " ++
        "inout ReflectedLight reflectedLight)")
      ["float dotNL = saturate(dot(geometry.viewNormal, incidentLight.direction));",
        "vec3 irradiance = dotNL * incidentLight.color * PI;",
        "reflectedLight.diffuse += irradiance * BRDF_Diffuse_Lambert(material.diffuseColor);",
        "reflectedLight.specular += irradiance * BRDF_Specular_GGX(incidentLight, geometry, " ++
          "material.specularColor, material.specularRoughness);"]
  | computeShadow filter => shadowFilterLines filter

def source (i : PreludeItem) : String := "\n".intercalate i.lines

end PreludeItem

end SceneRenderer.Shader
