import SceneRenderer.Device.Codec
import SceneRenderer.Renderer.Render
import SceneRenderer.Scene.Codec.Scene

/-!
Operations on a renderer, their outcomes and what frames are made of, in JSON.
-/

set_option autoImplicit false
set_option relaxedAutoImplicit false

namespace SceneRenderer

open Codec

/-! ### Frames -/

def FrameStats.toJson (s : FrameStats) : Json :=
  .object
    [("program_binds", write s.programBinds), ("material_binds", write s.materialBinds),
      ("transform_binds", write s.transformBinds), ("geometry_binds", write s.geometryBinds),
      ("draws", write s.draws), ("skipped", write s.skipped)]

def ProgramCache.fields (c : ProgramCache) : List (String × Json) :=
  [("hits", .integer c.stats.hits), ("compiles", .integer c.stats.compiles),
    ("failures", .integer c.stats.failures), ("destroyed", .integer c.stats.destroyed),
    ("len", .integer c.size), ("empty", write c.isEmpty)]

def CacheError.toJson (e : CacheError) : Json :=
  match e with
  | stale _ => errorJson "StaleHandle" e.message
  | unknown _ => errorJson "UnknownHandle" e.message

def AttributeBuffer.toJson (b : AttributeBuffer) : Json :=
  .object [("buffer", write b.buffer), ("layout", b.layout.toJson)]

/-- The fields of uploaded buffers. The attributes are listed in their order, null for those that
were not uploaded. -/
def GeometryBuffers.fields (b : GeometryBuffers) : List (String × Json) :=
  let matrix (entries : Option (List Float32)) : Json := (entries.map exactNumbers).getD .null
  [("geometry", write b.geometry), ("topology", write b.topology),
    ("vertex_count", write b.vertexCount),
    ("positions_decode", matrix (b.positionsDecode.map (·.toList))),
    ("uv_decode", matrix (b.uvDecode.map (·.toList))), ("indexed", write b.isIndexed),
    ("attributes",
      .array (VertexAttribute.all.map fun a => ((b.attribute? a).map (·.toJson)).getD .null))]

instance : Codec ShadowMapBinding where
  write m := .array [write m.light, write m.texture]
  read
    | .array [light, texture] => do return ⟨← read light, ← read texture⟩
    | _ => none

/-- What is absent is standard, or there is none of it. -/
def FrameGlobals.ofJson? : Json → Option FrameGlobals
  | .object fields => do
    let f (name : String) : Option Json := fields.lookup name
    return ⟨← orElse .standard (f "camera"), ← orElse [] (f "lights"), ← orElse [] (f "clips"),
      ← orElse .none (f "environment"), ← orElse [] (f "shadow_maps"),
      ← orElse 0.0 (f "gamma_factor")⟩
  | _ => none

/-! ### Operations -/

/-- The operation with a name, given its arguments by name. -/
def Operation.ofJson? (name : String) (j : Json) : Option Operation := do
  match name with
  | "add" => return addDrawable (← required (j.get? "drawable"))
  | "remove" => return removeDrawable (← required (j.get? "id"))
  | "set_geometry" =>
    return setGeometry (← required (j.get? "id")) (← required (j.get? "geometry"))
  | "set_material" =>
    return setMaterial (← required (j.get? "id")) (← required (j.get? "material"))
  | "set_modes" => return setModes (← required (j.get? "id")) (← required (j.get? "modes"))
  | "set_transform" =>
    return setTransform (← required (j.get? "id")) (← required (j.get? "transform"))
  | "set_camera" => return setCamera (← required (j.get? "camera"))
  | "set_lights" => return setLights (← required (j.get? "lights"))
  | "set_clips" => return setClips (← required (j.get? "clips"))
  | "set_environment" => return setEnvironment (← required (j.get? "environment"))
  | "set_viewport" =>
    return setViewport (← required (j.get? "width")) (← required (j.get? "height"))
  | "set_clear_color" =>
    let color : List Float32 ← required (j.get? "color")
    return setClearColor (← Vec4.ofList? color)
  | "compile" => return compile
  | "render" => return render
  | _ => none

def CompileFailure.toJson (f : CompileFailure) : Json :=
  .object
    [("drawable", write f.drawable), ("depth", write f.key.isShadowDepth),
      ("error", f.error.toJson)]

/-- An outcome. Failures are listed by their drawables, whatever the order of compilation. -/
def Outcome.toJson : Outcome → Json
  | done => .null
  | found answer => write answer
  | refused e => e.toJson
  | compiled failures =>
    .array ((sortByKey (fun f => [f.drawable.raw]) failures).map CompileFailure.toJson)
  | rendered report => .object [("main", report.main.toJson), ("shadow", report.shadow.toJson)]

end SceneRenderer
