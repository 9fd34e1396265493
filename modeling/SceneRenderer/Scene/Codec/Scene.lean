import SceneRenderer.Json.Codec
import SceneRenderer.Scene.Codec.Material
import SceneRenderer.Scene.Geometry
import SceneRenderer.Scene.Light
import SceneRenderer.Scene.State

/-!
Geometry, lights, drawables and the state of a scene in JSON. The arrays of a geometry are records
of a storage type and data. The type of a light, its position and its direction stand beside its
other fields; the type may also be given by its number.
-/

set_option autoImplicit false
set_option relaxedAutoImplicit false

/-! ### Geometry -/

namespace SceneRenderer

open Codec

def Topology.jsonName : Topology → String
  | points => "points"
  | lines => "lines"
  | lineLoop => "line_loop"
  | lineStrip => "line_strip"
  | triangles => "triangles"
  | triangleStrip => "triangle_strip"
  | triangleFan => "triangle_fan"

def Topology.all : List Topology :=
  [points, lines, lineLoop, lineStrip, triangles, triangleStrip, triangleFan]

instance : Codec Topology where
  write t := .string t.jsonName
  read := readChoice (Topology.all.map fun t => (t.jsonName, t))

/-- A record of a storage type and data. -/
def storage (name : String) (data : Json) : Json := .object [("type", .string name), ("data", data)]

/-- The storage type and the data of a record. In an array the type is a plain string. -/
def storage? (j : Json) : Option (String × Json) :=
  match j, fields? ["type", "data"] j with
  | .array _, some [some (.string name), some data] => some (name, data)
  | .object _, some [some name, some data] => (choice? name).map (·, data)
  | _, _ => none

instance : Codec VertexArray where
  write
    | .float32 values => storage "f32" (write values)
    | .uint16 values => storage "u16" (write values)
    | .int8 values => storage "i8" (write values)
    | .uint8 values => storage "u8" (write values)
  read j :=
    match storage? j with
    | some ("f32", data) => (read data).map .float32
    | some ("u16", data) => (read data).map .uint16
    | some ("i8", data) => (read data).map .int8
    | some ("u8", data) => (read data).map .uint8
    | _ => none

instance : Codec IndexArray where
  write
    | .uint16 values => storage "u16" (write values)
    | .uint32 values => storage "u32" (write values)
  read j :=
    match storage? j with
    | some ("u16", data) => (read data).map .uint16
    | some ("u32", data) => (read data).map .uint32
    | _ => none

instance : Codec Quantization where
  write q := .object
    [("positions_decode", write q.positionsDecode), ("uv_decode", write q.uvDecode)]
  read j :=
    match fields? ["positions_decode", "uv_decode"] j with
    | some [positions, uv] => do return ⟨← required positions, ← orElse none uv⟩
    | _ => none

instance : Codec Geometry where
  write g := .object
    [("id", write g.id), ("topology", write g.topology), ("positions", write g.positions),
      ("normals", write g.normals), ("auto_normals", write g.autoNormals), ("uv", write g.uv),
      ("colors", write g.colors), ("indices", write g.indices),
      ("quantization", write g.quantization)]
  read j :=
    match fields? ["id", "topology", "positions", "normals", "auto_normals", "uv", "colors",
      "indices", "quantization"] j with
    | some [id, topology, positions, normals, autoNormals, uv, colors, indices, quantization] => do
      return {
        id := ← required id
        topology := ← orElse .triangles topology
        positions := ← required positions
        normals := ← orElse none normals
        autoNormals := ← orElse false autoNormals
        uv := ← orElse none uv
        colors := ← orElse none colors
        indices := ← orElse none indices
        quantization := ← orElse none quantization }
    | _ => none

end SceneRenderer

/-! ### Lights -/

namespace SceneRenderer

open Codec

def LightSpace.jsonName : LightSpace → String
  | world => "world"
  | view => "view"

def LightSpace.table : List (String × LightSpace) := [.world, .view].map fun s => (s.jsonName, s)

instance : Codec LightSpace where
  write s := .string s.jsonName
  read := readChoice LightSpace.table

def LightType.jsonName : LightType → String
  | ambient => "ambient"
  | directional => "directional"
  | point => "point"
  | spot => "spot"

def LightType.all : List LightType := [ambient, directional, point, spot]

instance : Codec LightType where
  write t := .string t.jsonName
  read := readChoice (LightType.all.map fun t => (t.jsonName, t))

instance : Codec Attenuation where
  write a := .object
    [("constant", write a.constant), ("linear", write a.linear), ("quadratic", write a.quadratic)]
  read j :=
    match fields? ["constant", "linear", "quadratic"] j with
    | some [constant, linear, quadratic] => do
      return ⟨← required constant, ← required linear, ← required quadratic⟩
    | _ => none

namespace LightShape

def writeFields : LightShape → List (String × Json)
  | ambient => []
  | directional dir => [("dir", write dir)]
  | point pos attenuation => [("pos", write pos), ("attenuation", write attenuation)]
  | spot pos dir attenuation cutoff =>
    [("pos", write pos), ("dir", write dir), ("attenuation", write attenuation),
      ("cutoff", write cutoff)]

/-- The shape of a light of a type, from the fields of a record. -/
def readFields (type : LightType) (j : Json) : Option LightShape :=
  match type with
  | .ambient =>
    match fields? [] j with
    | some [] => some .ambient
    | _ => none
  | .directional =>
    match fields? ["dir"] j with
    | some [dir] => do return .directional (← required dir)
    | _ => none
  | .point =>
    match fields? ["pos", "attenuation"] j with
    | some [pos, attenuation] => do
      return .point (← required pos) (← orElse .none attenuation)
    | _ => none
  | .spot =>
    match fields? ["pos", "dir", "attenuation", "cutoff"] j with
    | some [pos, dir, attenuation, cutoff] => do
      return .spot (← required pos) (← required dir) (← orElse .none attenuation)
        (← required cutoff)
    | _ => none

end LightShape

/-- The type of a light by its name. -/
def LightType.ofName? (name : String) : Option LightType :=
  (LightType.all.map fun t => (t.jsonName, t)).lookup name

instance : Codec LightShape where
  write s := tagged "type" s.type.jsonName s.writeFields
  read j :=
    match splitTag "type" j with
    | some (.string name, rest) =>
      (LightType.ofName? name).bind fun t => LightShape.readFields t rest
    | _ => none

/-- The shape of a light among the other fields of an object. -/
def LightShape.readFlattened (fields : List (String × Json)) : Option LightShape :=
  match splitTag "type" (.object fields) with
  | some (.string name, rest) => (LightType.ofName? name).bind fun t => readFields t rest
  | some (.integer n, rest) =>
    if 0 ≤ n then (LightType.all[n.toNat]?).bind fun t => readFields t rest else none
  | _ => none

/-- A light from an object, its space read by `space`. -/
def Light.readWith (space : Json → Option LightSpace) : Json → Option Light
  | .object fields =>
    match fields? ["color", "intensity", "space", "shadow", "shadow_view", "shadow_projection"]
      (.object fields) with
    | some [color, intensity, name, shadow, shadowView, shadowProjection] => do
      return {
        shape := ← LightShape.readFlattened fields
        color := ← orElse .one color
        intensity := ← orElse 1.0 intensity
        space := ← orElseBy space .world name
        shadow := ← orElse false shadow
        shadowView := ← orElse .identity shadowView
        shadowProjection := ← orElse .identity shadowProjection }
    | _ => none
  | _ => none

instance : Codec Light where
  write l := .object <|
    ("type", .string l.type.jsonName) :: l.shape.writeFields ++
    [("color", write l.color), ("intensity", write l.intensity), ("space", write l.space),
      ("shadow", write l.shadow), ("shadow_view", write l.shadowView),
      ("shadow_projection", write l.shadowProjection)]
  read := Light.readWith read

instance : Codec Environment where
  write e := .object
    [("light_map", write e.lightMap), ("reflection_map", write e.reflectionMap)]
  read j :=
    match fields? ["light_map", "reflection_map"] j with
    | some [lightMap, reflectionMap] => do
      return ⟨← orElse none lightMap, ← orElse none reflectionMap⟩
    | _ => none

end SceneRenderer

/-! ### Drawables and scenes -/

namespace SceneRenderer

open Codec

instance : Codec ClipPlane where
  write p := .object [("active", write p.active), ("pos", write p.pos), ("dir", write p.dir)]
  read j :=
    match fields? ["active", "pos", "dir"] j with
    | some [active, pos, dir] => do return ⟨← orElse true active, ← required pos, ← required dir⟩
    | _ => none

def Billboard.jsonName : Billboard → String
  | none => "none"
  | spherical => "spherical"
  | cylindrical => "cylindrical"

instance : Codec Billboard where
  write b := .string b.jsonName
  read := readChoice ([.none, .spherical, .cylindrical].map fun b => (Billboard.jsonName b, b))

instance : Codec DrawModes where
  write m := .object
    [("receive_shadow", write m.receiveShadow), ("billboard", write m.billboard),
      ("stationary", write m.stationary), ("clippable", write m.clippable)]
  read j :=
    match fields? ["receive_shadow", "billboard", "stationary", "clippable"] j with
    | some [receiveShadow, billboard, stationary, clippable] => do
      return ⟨← orElse true receiveShadow, ← orElse .none billboard, ← orElse false stationary,
        ← orElse true clippable⟩
    | _ => none

instance : Codec (Camera Float32) where
  write c := .object [("view", write c.view), ("projection", write c.projection)]
  read j :=
    match fields? ["view", "projection"] j with
    | some [view, projection] => do return ⟨← required view, ← required projection⟩
    | _ => none

instance : Codec (Transform Float32) where
  write t := .object [("id", write t.id), ("matrix", write t.matrix)]
  read j :=
    match fields? ["id", "matrix"] j with
    | some [id, matrix] => do return ⟨← required id, ← orElse .identity matrix⟩
    | _ => none

instance : Codec Drawable where
  write d := .object
    [("id", write d.id), ("geometry", write d.geometry), ("material", write d.material),
      ("transform", write d.transform), ("modes", write d.modes)]
  read j :=
    match fields? ["id", "geometry", "material", "transform", "modes"] j with
    | some [id, geometry, material, transform, modes] => do
      return ⟨← required id, ← required geometry, ← required material, ← required transform,
        ← orElse .standard modes⟩
    | _ => none

/-- The state of a scene, its lights read by `light`. -/
def Scene.readWith (light : Json → Option Light) (j : Json) : Option Scene :=
  match fields? ["camera", "lights", "clips", "environment"] j with
  | some [camera, lights, clips, environment] => do
    return ⟨← orElse .standard camera, ← orElseBy (readList light) [] lights, ← orElse [] clips,
      ← orElse .none environment⟩
  | _ => none

instance : Codec Scene where
  write s := .object
    [("camera", write s.camera), ("lights", write s.lights), ("clips", write s.clips),
      ("environment", write s.environment)]
  read := Scene.readWith read

end SceneRenderer
