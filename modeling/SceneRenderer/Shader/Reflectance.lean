import SceneRenderer.Numeric.Vector
import SceneRenderer.Scene.Material

/-!
The terms of a surface that a fragment shader computes, as functions on numbers.
-/

set_option autoImplicit false
set_option relaxedAutoImplicit false

namespace SceneRenderer.Reflectance

variable {α : Type} [Scalar α]

/-- The reflectance of a dielectric with the given factor. -/
def dielectric (f0 : α) : α := 0.16 * f0 * f0

/-- The least roughness a surface is shaded with. -/
def minRoughness : α := 0.04

def clampRoughness (roughness : α) : α := Scalar.clamp roughness minRoughness 1.0

def glossinessRoughness (glossiness : α) : α := clampRoughness (1.0 - glossiness)

/-- The diffuse color of a metallic surface. -/
def metallicDiffuse (baseColor : Vec3 α) (metallic f0 : α) : Vec3 α :=
  (baseColor.scale (1.0 - dielectric f0)).scale (1.0 - metallic)

/-- The specular color of a metallic surface. -/
def metallicSpecular (baseColor : Vec3 α) (metallic f0 : α) : Vec3 α :=
  (Vec3.splat (dielectric f0)).lerp baseColor metallic

/-- The diffuse color of a surface given by its specular color. -/
def specularDiffuse (diffuse specular : Vec3 α) : Vec3 α :=
  diffuse.scale (1.0 - specular.maxElement)

/-- Scale, bias, cutoff and zero: alpha becomes `alpha * scale + bias` and a fragment below the
cutoff is discarded. -/
def alphaModeCutoff : AlphaMode → α → Vec4 α
  | .solid, _ => ⟨0.0, 1.0, 0.0, 0.0⟩
  | .mask, cutoff => ⟨1.0, 0.0, cutoff, 0.0⟩
  | .blend, _ => ⟨1.0, 0.0, 0.0, 0.0⟩

end SceneRenderer.Reflectance
