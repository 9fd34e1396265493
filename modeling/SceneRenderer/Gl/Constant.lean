/-!
The numbers of the graphics interface.
-/

set_option autoImplicit false
set_option relaxedAutoImplicit false

namespace SceneRenderer.Gl

def points : UInt32 := 0

def lines : UInt32 := 1

def lineLoop : UInt32 := 2

def lineStrip : UInt32 := 3

def triangles : UInt32 := 4

def triangleStrip : UInt32 := 5

def triangleFan : UInt32 := 6

def depthBufferBit : UInt32 := 0x100

def colorBufferBit : UInt32 := 0x4000

def depthTest : UInt32 := 0x0B71

def texture2d : UInt32 := 0x0DE1

def signedByte : UInt32 := 0x1400

def unsignedByte : UInt32 := 0x1401

def unsignedShort : UInt32 := 0x1403

def unsignedInt : UInt32 := 0x1405

def float : UInt32 := 0x1406

def rgba : UInt32 := 0x1908

def nearest : UInt32 := 0x2600

def textureMagFilter : UInt32 := 0x2800

def textureMinFilter : UInt32 := 0x2801

def textureWrapS : UInt32 := 0x2802

def textureWrapT : UInt32 := 0x2803

def clampToEdge : UInt32 := 0x812F

def depthComponent16 : UInt32 := 0x81A5

def texture0 : UInt32 := 0x84C0

def textureCubeMap : UInt32 := 0x8513

def arrayBuffer : UInt32 := 0x8892

def elementArrayBuffer : UInt32 := 0x8893

def staticDraw : UInt32 := 0x88E4

def fragmentShader : UInt32 := 0x8B30

def vertexShader : UInt32 := 0x8B31

def framebufferComplete : UInt32 := 0x8CD5

def colorAttachment0 : UInt32 := 0x8CE0

def depthAttachment : UInt32 := 0x8D00

def framebuffer : UInt32 := 0x8D40

def renderbuffer : UInt32 := 0x8D41

end SceneRenderer.Gl
