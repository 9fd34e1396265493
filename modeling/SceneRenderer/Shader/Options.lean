import SceneRenderer.Fault
import SceneRenderer.Numeric.Shortest

/-!
Settings that shape shader text for all drawables alike, and the filter over a shadow map.
-/

set_option autoImplicit false
set_option relaxedAutoImplicit false

namespace SceneRenderer.Shader

/-- The precision that both stages ask for. -/
inductive Precision
  | high
  | medium
deriving Repr, DecidableEq, Inhabited

def Precision.keyword : Precision → String
  | high => "highp"
  | medium => "mediump"

structure ShaderOptions where
  precision : Precision
  /-- Shadow maps are filtered over this many texels on each side. -/
  kernelRadius : UInt32
  depthBias : Float32
  /-- The edge of a shadow map in texels. -/
  mapSize : UInt32
  /-- Point sprites are discs. -/
  roundPoints : Bool
deriving Inhabited

def ShaderOptions.standard : ShaderOptions := ⟨.high, 3, 0.0007, 1024, true⟩

/-- A filter that averages a square of texels. -/
structure ShadowFilter where
  radius : UInt32
  /-- The number of texels in the square. -/
  taps : UInt32
  bias : Float32
  mapSize : UInt32
deriving Inhabited

/-- The number of texels in the square around a texel. -/
def filterTaps (radius : UInt32) : Except Fault UInt32 := do
  let edge ← checkedAdd (← checkedMul 2 radius) 1
  checkedMul edge edge

def ShadowFilter.ofOptions (o : ShaderOptions) : Except Fault ShadowFilter := do
  return ⟨o.kernelRadius, ← filterTaps o.kernelRadius, o.depthBias, o.mapSize⟩

/-- A number as a literal of shader text. -/
def floatLiteral (x : Float32) : String := NumberStyle.literal.write x

end SceneRenderer.Shader
