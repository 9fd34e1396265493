import SceneRenderer.Numeric.Vector

/-!
Calls of the graphics interface that the backend is written against, with the numbers they take.
-/

set_option autoImplicit false
set_option relaxedAutoImplicit false

namespace SceneRenderer.Gl

/-- Objects that are made and deleted under names. -/
inductive ObjectKind
  | shader
  | program
  | buffer
  | texture
  | framebuffer
  | renderbuffer
deriving Repr, DecidableEq, Inhabited

def ObjectKind.title : ObjectKind → String
  | shader => "Shader"
  | program => "Program"
  | buffer => "Buffer"
  | texture => "Texture"
  | framebuffer => "Framebuffer"
  | renderbuffer => "Renderbuffer"

/-- The call; a name of zero stands for no object. -/
inductive Call
  | enable (capability : UInt32)
  | createShader (type name : UInt32)
  | create (kind : ObjectKind) (name : UInt32)
  | delete (kind : ObjectKind) (name : UInt32)
  | shaderSource (shader : UInt32) (text : String)
  | compileShader (shader : UInt32)
  | attachShader (program shader : UInt32)
  | detachShader (program shader : UInt32)
  | bindAttribLocation (program slot : UInt32) (name : String)
  | linkProgram (program : UInt32)
  | useProgram (program : UInt32)
  | getUniformLocation (program : UInt32) (name : String)
  | getAttribLocation (program : UInt32) (name : String)
  | uniformInt (location value : Int32)
  /-- One to four numbers. -/
  | uniformFloats (location : Int32) (values : List Float32)
  /-- The entries of a square matrix of the given order, column by column. -/
  | uniformMatrix (location : Int32) (order : Nat) (entries : List Float32)
  | bindBuffer (target buffer : UInt32)
  | bufferData (target : UInt32) (data : List UInt8) (usage : UInt32)
  | enableVertexAttribArray (slot : UInt32)
  /-- Components are packed from the start of the bound buffer on. -/
  | vertexAttribPointer (slot : UInt32) (size : Int32) (type : UInt32) (normalized : Bool)
  | disableVertexAttribArray (slot : UInt32)
  | activeTexture (unit : UInt32)
  | bindTexture (target texture : UInt32)
  /-- The first level of a texture. -/
  | texImage (target format : UInt32) (width height : Int32) (type : UInt32) (hasPixels : Bool)
  | texParameter (target parameter value : UInt32)
  | bindRenderbuffer (target renderbuffer : UInt32)
  | renderbufferStorage (target format : UInt32) (width height : Int32)
  | bindFramebuffer (target framebuffer : UInt32)
  | framebufferTexture (target attachment textarget texture : UInt32)
  | framebufferRenderbuffer (target attachment renderbufferTarget renderbuffer : UInt32)
  | checkFramebufferStatus (target : UInt32)
  | viewport (width height : Int32)
  | clearColor (color : Vec4 Float32)
  | clearDepth (depth : Float32)
  | clear (mask : UInt32)
  | drawArrays (mode : UInt32) (first count : Int32)
  | drawElements (mode : UInt32) (count : Int32) (type : UInt32)
deriving Inhabited

end SceneRenderer.Gl
