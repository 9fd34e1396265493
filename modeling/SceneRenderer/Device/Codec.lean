import SceneRenderer.Device.Recorder
import SceneRenderer.Json.Codec
import SceneRenderer.Scene.Codec.Scene

/-!
Device traffic in JSON. Commands are read from objects with the name of the command under a key of
the caller's choice; the entries of a record are written as arrays of a name and its arguments.
-/

set_option autoImplicit false
set_option relaxedAutoImplicit false

namespace SceneRenderer

open Codec Shader

instance : Codec StageKind where
  write k := .string k.name
  read
    | .string "vertex" => some .vertex
    | .string "fragment" => some .fragment
    | _ => none

instance : Codec ProgramId := ⟨fun id => write id.raw, fun j => (read j).map .mk⟩

instance : Codec BufferId := ⟨fun id => write id.raw, fun j => (read j).map .mk⟩

instance : Codec RenderTargetId := ⟨fun id => write id.raw, fun j => (read j).map .mk⟩

def Component.all : List Component := [float32, uint16, int8, uint8]

def Component.jsonName : Component → String
  | float32 => "f32"
  | uint16 => "u16"
  | int8 => "i8"
  | uint8 => "u8"

instance : Codec Component where
  write c := .string c.jsonName
  read
    | .string name => Component.all.find? (·.jsonName == name)
    | _ => none

instance : Codec BufferTarget where
  write
    | .vertex => .string "vertex"
    | .index => .string "index"
  read
    | .string "vertex" => some .vertex
    | .string "index" => some .index
    | _ => none

instance : Codec TextureTarget where
  write
    | .plane => .string "2d"
    | .cube => .string "cube"
  read
    | .string "2d" => some .plane
    | .string "cube" => some .cube
    | _ => none

instance : Codec IndexType where
  write
    | .uint16 => .string "u16"
    | .uint32 => .string "u32"
  read
    | .string "u16" => some .uint16
    | .string "u32" => some .uint32
    | _ => none

instance : Codec UniformLocation where
  write l := .array [write l.program, write l.slot]
  read
    | .array [program, slot] => do return ⟨← read program, ← read slot⟩
    | _ => none

def AttributeLayout.toJson (l : AttributeLayout) : Json :=
  .object
    [("slot", write l.slot), ("components", write l.components), ("component", write l.component),
      ("normalized", write l.normalized)]

/-- Numbers as they are, also those that are not finite. -/
def exactNumbers (xs : List Float32) : Json := .array (xs.map fun x => .float (widen x))

namespace UniformValue

def toJson : UniformValue → Json
  | bool b => .array [.string "bool", write b]
  | float x => .array [.string "float", .float (widen x)]
  | vec2 v => .array [.string "vec2", exactNumbers v.toList]
  | vec3 v => .array [.string "vec3", exactNumbers v.toList]
  | vec4 v => .array [.string "vec4", exactNumbers v.toList]
  | mat3 m => .array [.string "mat3", exactNumbers m.toList]
  | mat4 m => .array [.string "mat4", exactNumbers m.toList]
  | sampler unit => .array [.string "sampler", write unit]

def ofJson? : Json → Option UniformValue
  | .array [.string "bool", v] => (read v).map bool
  | .array [.string "float", v] => v.number?.map float
  | .array [.string "vec2", v] =>
    match (read v : Option (List Float32)) with
    | some [x, y] => some (vec2 ⟨x, y⟩)
    | _ => none
  | .array [.string "vec3", v] => (read v).map vec3
  | .array [.string "vec4", v] => ((read v).bind Vec4.ofList?).map vec4
  | .array [.string "mat3", v] => (read v).map mat3
  | .array [.string "mat4", v] => (read v).map mat4
  | .array [.string "sampler", v] => (read v).map sampler
  | _ => none

end UniformValue

namespace Command

/-- A command of a record. -/
def toJson (c : Command) : Json :=
  let entry (name : String) (arguments : List Json) : Json := .array (.string name :: arguments)
  match c with
  | deleteProgram p => entry "delete_program" [write p]
  | useProgram p => entry "use_program" [write p]
  | setUniform l v => entry "set_uniform" [write l, v.toJson]
  | deleteBuffer b => entry "delete_buffer" [write b]
  | bindAttribute b l => entry "bind_attribute" [write b, l.toJson]
  | disableAttribute slot => entry "disable_attribute" [write slot]
  | bindIndexBuffer b => entry "bind_index_buffer" [write b]
  | deleteTexture t => entry "delete_texture" [write t]
  | bindTexture unit target t => entry "bind_texture" [write unit, write target, write t]
  | deleteRenderTarget t => entry "delete_render_target" [write t]
  | bindRenderTarget t => entry "bind_render_target" [write t]
  | setViewport w h => entry "viewport" [write w, write h]
  | clear color depth =>
    entry "clear" [(color.map fun c => exactNumbers c.toList).getD .null, write depth]
  | drawArrays t _ count => entry "draw_arrays" [write t, write count]
  | drawElements t count type => entry "draw_elements" [write t, write count, write type]

/-- The command with a name, given its arguments by name. -/
def ofJson? (name : String) (j : Json) : Option Command := do
  let id : Option UInt32 := required (j.get? "id")
  match name with
  | "delete_program" => return deleteProgram ⟨← id⟩
  | "use_program" => return useProgram ⟨← id⟩
  | "set_uniform" =>
    return setUniform (← required (j.get? "location"))
      (← (j.get? "value").bind UniformValue.ofJson?)
  | "delete_buffer" => return deleteBuffer ⟨← id⟩
  | "bind_vertex_attribute" =>
    return bindAttribute ⟨← id⟩
      ⟨← required (j.get? "slot"), ← required (j.get? "components"),
        ← required (j.get? "component"), ← required (j.get? "normalized")⟩
  | "disable_vertex_attribute" => return disableAttribute (← required (j.get? "slot"))
  | "bind_index_buffer" => return bindIndexBuffer ⟨← id⟩
  | "delete_texture" => return deleteTexture ⟨← id⟩
  | "bind_texture" =>
    return bindTexture (← required (j.get? "unit")) (← required (j.get? "target")) ⟨← id⟩
  | "delete_render_target" => return deleteRenderTarget ⟨← id⟩
  | "bind_render_target" => return bindRenderTarget (← orElse none (j.get? "id"))
  | "set_viewport" =>
    return setViewport (← required (j.get? "width")) (← required (j.get? "height"))
  | "clear" =>
    let color : Option (List Float32) ← orElse none (j.get? "color")
    return clear (← color.mapM Vec4.ofList?) (← required (j.get? "depth"))
  | "draw_arrays" =>
    return drawArrays (← required (j.get? "topology")) (← required (j.get? "first"))
      (← required (j.get? "count"))
  | "draw_elements" =>
    return drawElements (← required (j.get? "topology")) (← required (j.get? "count"))
      (← required (j.get? "index"))
  | _ => none

end Command

/-- An error, told by its kind and its message. -/
def errorJson (kind message : String) : Json :=
  .object [("error", .string kind), ("message", .string message)]

def ProgramError.toJson (e : ProgramError) : Json :=
  match e with
  | compile _ _ => errorJson "Compile" e.message
  | link _ => errorJson "Link" e.message
  | device _ => errorJson "Device" e.message

def DeviceError.toJson (e : DeviceError) : Json :=
  match e with
  | buffer _ => errorJson "Buffer" e.message
  | texture _ => errorJson "Texture" e.message
  | renderTarget _ => errorJson "RenderTarget" e.message
  | emptyGeometry => errorJson "EmptyGeometry" e.message

def Record.toJson : Record → Json
  | createdProgram p => .array [.string "create_program", write p]
  | createdBuffer b target size =>
    .array [.string "create_buffer", write b, write target, .integer size]
  | createdTexture t => .array [.string "create_texture", write t]
  | createdRenderTarget t => .array [.string "create_render_target", write t]
  | setUniform p name v => .array [.string "set_uniform", write p, .string name, v.toJson]
  | issued c => c.toJson

end SceneRenderer
