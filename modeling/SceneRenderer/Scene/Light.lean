import SceneRenderer.Numeric.Matrix
import SceneRenderer.Scene.Id

/-!
Lights and environment maps. The lights of a scene are ordered: the position of a light in the
list names its uniforms.
-/

set_option autoImplicit false
set_option relaxedAutoImplicit false

namespace SceneRenderer

/-- The space that the position and direction of a light are given in. -/
inductive LightSpace
  | world
  | view
deriving Repr, DecidableEq, Inhabited

/-- The falloff `1 / (constant + linear * d + quadratic * d ^ 2)` over a distance `d`. -/
structure Attenuation where
  constant : Float32
  linear : Float32
  quadratic : Float32
deriving Inhabited

namespace Attenuation

def none : Attenuation := ⟨1.0, 0.0, 0.0⟩

def toVec3 (a : Attenuation) : Vec3 Float32 := ⟨a.constant, a.linear, a.quadratic⟩

end Attenuation

inductive LightType
  | ambient
  | directional
  | point
  | spot
deriving Repr, DecidableEq, Inhabited

/-- A type of light with its position and direction. -/
inductive LightShape
  | ambient
  | directional (dir : Vec3 Float32)
  | point (pos : Vec3 Float32) (attenuation : Attenuation)
  /-- The cutoff is the cosine of half the angle of the cone. -/
  | spot (pos dir : Vec3 Float32) (attenuation : Attenuation) (cutoff : Float32)
deriving Inhabited

def LightShape.type : LightShape → LightType
  | ambient => .ambient
  | directional _ => .directional
  | point _ _ => .point
  | spot _ _ _ _ => .spot

structure Light where
  shape : LightShape
  color : Vec3 Float32
  intensity : Float32
  space : LightSpace
  /-- The light asks for a shadow map. -/
  shadow : Bool
  shadowView : Mat4 Float32
  shadowProjection : Mat4 Float32
deriving Inhabited

namespace Light

def ofShape (shape : LightShape) : Light := ⟨shape, .one, 1.0, .world, false, .identity, .identity⟩

def ambient (color : Vec3 Float32) (intensity : Float32) : Light :=
  { ofShape .ambient with color, intensity }

def directional (dir : Vec3 Float32) (space : LightSpace) : Light :=
  { ofShape (.directional dir) with space }

def point (pos : Vec3 Float32) (attenuation : Attenuation) : Light :=
  ofShape (.point pos attenuation)

def withShadow (light : Light) (view projection : Mat4 Float32) : Light :=
  { light with shadow := true, shadowView := view, shadowProjection := projection }

def type (light : Light) : LightType := light.shape.type

def isAmbient (light : Light) : Bool := light.type == .ambient

/-- An ambient light never casts a shadow. -/
def castsShadow (light : Light) : Bool := light.shadow && !light.isAmbient

/-- The color times the intensity. -/
def radiance (light : Light) : Vec3 Float32 := light.color.scale light.intensity

/-- The summed radiance of the ambient lights. -/
def ambientRadiance (lights : List Light) : Vec3 Float32 :=
  Vec3.sum ((lights.filter isAmbient).map radiance)

end Light

/-- The cube maps around a scene: diffuse light and reflections. -/
structure Environment where
  lightMap : Option TextureId
  reflectionMap : Option TextureId
deriving Repr, DecidableEq, Inhabited

namespace Environment

def none : Environment := ⟨.none, .none⟩

/-- The number of texture units the maps take. -/
def unitCount (e : Environment) : UInt32 :=
  e.lightMap.isSome.toUInt32 + e.reflectionMap.isSome.toUInt32

end Environment

end SceneRenderer
