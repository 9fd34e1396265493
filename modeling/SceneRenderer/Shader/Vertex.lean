import SceneRenderer.Shader.Features
import SceneRenderer.Shader.Record

/-!
The vertex stage of a draw program. It places the vertex, and carries to the fragments whatever the
features of the program need there.
-/

set_option autoImplicit false
set_option relaxedAutoImplicit false

namespace SceneRenderer.Shader

open Shader.Record Name

/-- The directive that sets the precision of a stage. -/
def precisionRecord (o : ShaderOptions) : Record :=
  directive ("precision " ++ o.precision.keyword ++ " float;")

/-- The position in model, world and view space. A billboard drops the rotation of the matrices;
a stationary drawable drops the displacement of the camera. -/
def positionRecords (quantized : Bool) (billboard : Billboard) (stationary : Bool) : List Record :=
  [perVertex .vec3 (vertexInput .position), uniform .mat4 modelMatrix, uniform .mat4 viewMatrix,
    uniform .mat4 projMatrix] ++
  (if quantized then
    [uniform .mat4 positionsDecodeMatrix,
      statement ["vec4 localPosition = ", positionsDecodeMatrix, " * vec4(",
        vertexInput .position, ", 1.0);"]]
  else [statement ["vec4 localPosition = vec4(", vertexInput .position, ", 1.0);"]]) ++
  [statement ["mat4 viewMatrix2 = ", viewMatrix, ";"],
    statement ["mat4 modelMatrix2 = ", modelMatrix, ";"]] ++
  onlyIf stationary
    [statement ["viewMatrix2[3][0] = viewMatrix2[3][1] = viewMatrix2[3][2] = 0.0;"]] ++
  (match billboard with
  | .none =>
    [statement ["vec4 worldPosition = modelMatrix2 * localPosition;"],
      statement ["vec4 viewPosition = viewMatrix2 * worldPosition;"]]
  | .spherical => turned .billboardSpherical
  | .cylindrical => turned .billboardCylindrical)
where
  turned (item : PreludeItem) : List Record :=
    [define item,
      statement ["billboard(modelMatrix2);"],
      statement ["billboard(viewMatrix2);"],
      statement ["vec4 worldPosition = modelMatrix2 * localPosition;"],
      statement ["mat4 modelViewMatrix = viewMatrix2 * modelMatrix2;"],
      statement ["billboard(modelViewMatrix);"],
      statement ["vec4 viewPosition = modelViewMatrix * localPosition;"]]

/-- What a light fixed in the world sends to the fragments: the direction towards it and its
distance, and for a spot light the axis of its cone. -/
def worldLightRecords (slot : LightSlot) : List Record :=
  let i := slot.index
  varying .vec4 (vLight i) ::
  match slot.type with
  | .ambient => []
  | .directional =>
    [uniform .vec3 (lightDir i),
      statement ["tmpVec3 = -(", viewMatrix, " * vec4(", lightDir i, ", 0.0)).xyz;"],
      statement [vLight i, " = vec4(tmpVec3, 0.0);"]]
  | .point => reach i
  | .spot =>
    reach i ++
    [uniform .vec3 (lightDir i), varying .vec3 (vSpotDir i),
      statement [vSpotDir i, " = (viewMatrix2 * vec4(", lightDir i, ", 0.0)).xyz;"]]
where
  reach (i : UInt32) : List Record :=
    [uniform .vec3 (lightPos i),
      statement ["tmpVec3 = (viewMatrix2 * vec4(", lightPos i, ", 1.0)).xyz - viewPosition.xyz;"],
      statement [vLight i, " = vec4(tmpVec3, length(tmpVec3));"]]

/-- The normal in view space, and the lights fixed in the world. -/
def normalRecords (c : Features) : List Record :=
  let worldSlots := c.lightSlots.filter LightSlot.isWorldSpace
  [uniform .mat4 modelNormalMatrix, uniform .mat4 viewNormalMatrix, varying .vec4 vViewPosition,
    varying .vec3 vViewNormal] ++
  (if c.quantized then
    [perVertex .vec2 (vertexInput .normal), define .octDecode,
      statement ["vec4 localNormal = vec4(octDecode(", vertexInput .normal, "), 0.0);"]]
  else
    [perVertex .vec3 (vertexInput .normal),
      statement ["vec4 localNormal = vec4(", vertexInput .normal, ", 0.0);"]]) ++
  [statement ["vec4 worldNormal = ", modelNormalMatrix, " * localNormal;"],
    statement ["vec3 viewNormal = normalize((", viewNormalMatrix, " * worldNormal).xyz);"]] ++
  onlyIf (!worldSlots.isEmpty) [statement ["vec3 tmpVec3;"]] ++
  worldSlots.flatMap worldLightRecords ++
  [statement [vViewNormal, " = viewNormal;"], statement [vViewPosition, " = viewPosition;"]]

def uvRecords (c : Features) : List Record :=
  [perVertex .vec2 (vertexInput .uv), varying .vec2 vUV] ++
  if c.quantized then
    [uniform .mat3 uvDecodeMatrix,
      statement [vUV, " = (", uvDecodeMatrix, " * vec3(", vertexInput .uv, ", 1.0)).xy;"]]
  else [statement [vUV, " = ", vertexInput .uv, ";"]]

/-- The position as the shadow map of a light sees it. -/
def shadowPositionRecords (slot : LightSlot) : List Record :=
  let i := slot.index
  [uniform .mat4 (shadowViewMatrix i), uniform .mat4 (shadowProjMatrix i),
    varying .vec4 (vShadowPos i),
    statement [vShadowPos i, " = texUnitConverter * ", shadowProjMatrix i, " * (",
      shadowViewMatrix i, " * worldPosition);"]]

def pointSizeRecords : List Record :=
  [uniform .float pointSize, statement ["gl_PointSize = ", pointSize, ";"]]

def outputPositionRecord : Record := statement ["gl_Position = ", projMatrix, " * viewPosition;"]

def vertexRecords (c : Features) (o : ShaderOptions) : List Record :=
  precisionRecord o :: positionRecords c.quantized c.billboard c.stationary ++
  onlyIf c.isShaded (normalRecords c) ++
  onlyIf c.usesUv (uvRecords c) ++
  onlyIf c.hasColors
    [perVertex .vec4 (vertexInput .color), varying .vec4 vColor,
      statement [vColor, " = ", vertexInput .color, ";"]] ++
  onlyIf (0 < c.clipCount)
    [varying .vec4 vWorldPosition, statement [vWorldPosition, " = worldPosition;"]] ++
  onlyIf (!c.shadowSlots.isEmpty)
    (define .texUnitConverter :: c.shadowSlots.flatMap shadowPositionRecords) ++
  onlyIf c.isPoints pointSizeRecords ++
  [outputPositionRecord]

end SceneRenderer.Shader
