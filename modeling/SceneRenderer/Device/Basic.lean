import SceneRenderer.Device.Resource

/-!
Graphics devices. A device answers requests to create objects and questions about programs; all
else it is told by commands, which have no answer. What is drawn is therefore a list of commands,
whatever the device.
-/

set_option autoImplicit false
set_option relaxedAutoImplicit false

namespace SceneRenderer

inductive Command
  | deleteProgram (program : ProgramId)
  | useProgram (program : ProgramId)
  | setUniform (location : UniformLocation) (value : UniformValue)
  | deleteBuffer (buffer : BufferId)
  | bindAttribute (buffer : BufferId) (layout : AttributeLayout)
  | disableAttribute (slot : UInt32)
  | bindIndexBuffer (buffer : BufferId)
  | deleteTexture (texture : TextureId)
  | bindTexture (unit : UInt32) (target : TextureTarget) (texture : TextureId)
  | deleteRenderTarget (target : RenderTargetId)
  /-- Draws go to a render target, or to the surface. -/
  | bindRenderTarget (target : Option RenderTargetId)
  | setViewport (width height : UInt32)
  | clear (color : Option (Vec4 Float32)) (depth : Bool)
  | drawArrays (topology : Topology) (first count : UInt32)
  | drawElements (topology : Topology) (count : UInt32) (type : IndexType)
deriving Inhabited

class Device (δ : Type) where
  maxTextureUnits : δ → UInt32
  /-- The width and height of the surface. -/
  surfaceSize : δ → UInt32 × UInt32
  /-- Compiles and links a program with its attributes at the given slots. -/
  createProgram : δ → String → String → List (String × UInt32) → Except ProgramError ProgramId × δ
  /-- The place of a uniform that the program reads. -/
  uniformLocation : δ → ProgramId → String → Option UniformLocation × δ
  /-- The slot of an attribute that the program reads. -/
  attributeLocation : δ → ProgramId → String → Option UInt32 × δ
  createBuffer : δ → BufferTarget → List UInt8 → Except DeviceError BufferId × δ
  /-- A texture of the given width and height, with pixels or blank. -/
  createTexture : δ → UInt32 → UInt32 → Option (List UInt8) → Except DeviceError TextureId × δ
  /-- A target of the given width and height that draws into a texture. -/
  createRenderTarget : δ → UInt32 → UInt32 → TextureId → Except DeviceError RenderTargetId × δ
  submit : δ → Command → δ

/-- Submits commands in a row. -/
def Device.submitAll {δ : Type} [Device δ] (device : δ) (commands : List Command) : δ :=
  commands.foldl submit device

end SceneRenderer
