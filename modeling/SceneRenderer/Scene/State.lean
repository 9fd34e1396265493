import SceneRenderer.Numeric.Vector
import SceneRenderer.Scene.Geometry
import SceneRenderer.Scene.Light
import SceneRenderer.Scene.Material

/-!
The camera, placed drawables with the modes they are rendered with, and the state that all drawables
of a scene share. What lies on the side that the direction of a clip plane points to is discarded.
-/

set_option autoImplicit false
set_option relaxedAutoImplicit false

/-! ### Clip planes -/

namespace SceneRenderer

structure ClipPlane where
  active : Bool
  pos : Vec3 Float32
  dir : Vec3 Float32
deriving Inhabited

namespace ClipPlane

def through (pos dir : Vec3 Float32) : ClipPlane := ⟨true, pos, dir⟩

/-- How far a point lies on the discarded side. -/
def distance (plane : ClipPlane) (p : Vec3 Float32) : Float32 := (p - plane.pos).dot plane.dir

end ClipPlane

end SceneRenderer

/-! ### Modes -/

namespace SceneRenderer

/-- How a drawable turns towards the camera. -/
inductive Billboard
  | none
  /-- Faces the camera. -/
  | spherical
  /-- Faces the camera around the vertical axis only. -/
  | cylindrical
deriving Repr, DecidableEq, Inhabited

structure DrawModes where
  receiveShadow : Bool
  billboard : Billboard
  /-- The camera's position is ignored, as for a sky. -/
  stationary : Bool
  /-- The scene's clip planes apply. -/
  clippable : Bool
deriving Repr, DecidableEq, Inhabited

def DrawModes.standard : DrawModes := ⟨true, .none, false, true⟩

end SceneRenderer

/-! ### Scenes -/

namespace SceneRenderer

variable {α : Type}

structure Camera (α : Type) where
  view : Mat4 α
  projection : Mat4 α
deriving Inhabited

namespace Camera

variable [Scalar α]

def standard : Camera α := ⟨.identity, .identity⟩

/-- Carries normals from world to view space. -/
def viewNormalMatrix (c : Camera α) : Mat4 α := c.view.normalMatrix

end Camera

/-- A model matrix with an identity, so that draws in a row can share its upload. -/
structure Transform (α : Type) where
  id : TransformId
  matrix : Mat4 α
deriving Inhabited

/-- Carries normals from model to world space. -/
def Transform.normalMatrix [Scalar α] (t : Transform α) : Mat4 α := t.matrix.normalMatrix

structure Drawable where
  id : DrawableId
  geometry : Geometry
  material : Material
  transform : Transform Float32
  modes : DrawModes
deriving Inhabited

structure Scene where
  camera : Camera Float32
  lights : List Light
  clips : List ClipPlane
  environment : Environment
deriving Inhabited

namespace Scene

def empty : Scene := ⟨.standard, [], [], .none⟩

def ambient (s : Scene) : Vec3 Float32 := Light.ambientRadiance s.lights

def hasShadowCasters (s : Scene) : Bool := s.lights.any Light.castsShadow

end Scene

end SceneRenderer
