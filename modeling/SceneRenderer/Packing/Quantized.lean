import SceneRenderer.Numeric.Matrix
import SceneRenderer.Packing.Normals

/-!
Quantized positions and texture coordinates: each axis of the bounding box is divided into 65535
steps, and a matrix leads from steps back to the box.
-/

set_option autoImplicit false
set_option relaxedAutoImplicit false

namespace SceneRenderer.Packing

variable {α : Type} [Scalar α]

/-- The step at which a value lies; every value of a flat axis is at step zero. -/
def step (value low extent : α) : UInt16 :=
  if extent ≤ 0.0 then 0
  else
    Scalar.toUInt16 (Scalar.clamp (Scalar.round ((value - low) / extent * 65535.0)) 0.0 65535.0)

/-- The least and greatest corner of the box around some points. -/
def bounds3 (points : List (Vec3 α)) : Vec3 α × Vec3 α :=
  points.foldl (fun box p => (box.1.lesser p, box.2.greater p))
    (.splat Scalar.largest, .splat (-Scalar.largest))

def bounds2 (points : List (Vec2 α)) : Vec2 α × Vec2 α :=
  points.foldl (fun box p => (box.1.lesser p, box.2.greater p))
    (.splat Scalar.largest, .splat (-Scalar.largest))

/-- The steps of a flat list of positions and the matrix that decodes them. -/
def quantizePositions (positions : List α) : List UInt16 × Mat4 α :=
  let points := triples positions
  if points.isEmpty then ([], .identity)
  else
    let (low, high) := bounds3 points
    let extent := high - low
    (points.flatMap fun p =>
        [step p.x low.x extent.x, step p.y low.y extent.y, step p.z low.z extent.z],
      (Mat4.displacement low).mul (.scaling (extent.divBy 65535.0)))

/-- The steps of a flat list of texture coordinates and the matrix that decodes them. -/
def quantizeUvs (uvs : List α) : List UInt16 × Mat3 α :=
  let points := pairs uvs
  if points.isEmpty then ([], .identity)
  else
    let (low, high) := bounds2 points
    let extent := high - low
    (points.flatMap fun p => [step p.x low.x extent.x, step p.y low.y extent.y],
      (Mat3.displacement low).mul (.scaling (extent.divBy 65535.0)))

end SceneRenderer.Packing
