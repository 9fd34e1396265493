import SceneRenderer.Numeric.Matrix
import SceneRenderer.Scene.Geometry
import SceneRenderer.Shader.Stage

/-!
What a graphics device hands out and takes in: identities of its objects, uniform values, layouts
of vertex attributes, and the errors of creating objects.
-/

set_option autoImplicit false
set_option relaxedAutoImplicit false

namespace SceneRenderer

open Shader

/-- A linked program. -/
structure ProgramId where
  raw : UInt32
deriving Repr, DecidableEq, Inhabited

/-- A vertex or index buffer. -/
structure BufferId where
  raw : UInt32
deriving Repr, DecidableEq, Inhabited

/-- A framebuffer with a color texture and depths of its own. -/
structure RenderTargetId where
  raw : UInt32
deriving Repr, DecidableEq, Inhabited

/-- The place of a uniform in one program. -/
structure UniformLocation where
  program : ProgramId
  slot : UInt32
deriving Repr, DecidableEq, Inhabited

inductive UniformValue
  | bool (value : Bool)
  | float (value : Float32)
  | vec2 (value : Vec2 Float32)
  | vec3 (value : Vec3 Float32)
  | vec4 (value : Vec4 Float32)
  | mat3 (value : Mat3 Float32)
  | mat4 (value : Mat4 Float32)
  /-- The texture unit that a sampler reads. -/
  | sampler (unit : UInt32)
deriving Inhabited

/-- What a buffer holds. -/
inductive BufferTarget
  | vertex
  | index
deriving Repr, DecidableEq, Inhabited

inductive TextureTarget
  | plane
  | cube
deriving Repr, DecidableEq, Inhabited

/-- The width of indices. -/
inductive IndexType
  | uint16
  | uint32
deriving Repr, DecidableEq, Inhabited

/-- How a vertex attribute reads its buffer. -/
structure AttributeLayout where
  slot : UInt32
  components : UInt32
  component : Component
  /-- Integers are read as fractions. -/
  normalized : Bool
deriving Repr, DecidableEq, Inhabited

/-- Why there is no program. -/
inductive ProgramError
  | compile (stage : StageKind) (log : String)
  | link (log : String)
  | device (reason : String)
deriving Repr, DecidableEq, Inhabited

def ProgramError.message : ProgramError → String
  | compile stage log => stage.name ++ " shader failed to compile: " ++ log
  | link log => "program failed to link: " ++ log
  | device reason => "device error: " ++ reason

/-- Why an object other than a program was not created. -/
inductive DeviceError
  | buffer (reason : String)
  | texture (reason : String)
  | renderTarget (reason : String)
  | emptyGeometry
deriving Repr, DecidableEq, Inhabited

def DeviceError.message : DeviceError → String
  | buffer reason => "failed to create buffer: " ++ reason
  | texture reason => "failed to create texture: " ++ reason
  | renderTarget reason => "failed to create render target: " ++ reason
  | emptyGeometry => "geometry has no positions"

end SceneRenderer
