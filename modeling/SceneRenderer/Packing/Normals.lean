import SceneRenderer.Numeric.Vector

/-!
Small integers for directions and colors. A direction is projected on the octahedron around the
origin and its lower half is folded over the upper one, which leaves two coordinates between
minus one and one; each is stored as a signed byte.

The normals of vertices are smooth: the normal of a face, weighted by its area, is added to each of
its corners, and the sums are normalized.
-/

set_option autoImplicit false
set_option relaxedAutoImplicit false

/-! ### Directions and colors -/

namespace SceneRenderer.Packing

variable {α : Type} [Scalar α]

/-- The signed byte for a fraction between minus one and one. -/
def signedByte (x : α) : Int8 := Scalar.toInt8 (Scalar.round (Scalar.clamp x (-1.0) 1.0 * 127.0))

/-- The unsigned byte for a fraction between zero and one. -/
def unsignedByte (x : α) : UInt8 := Scalar.toUInt8 (Scalar.round (Scalar.clamp x 0.0 1.0 * 255.0))

/-- Exchanges the outer corners and the centre of the square. -/
def fold (p : Vec2 α) : Vec2 α :=
  ⟨(1.0 - Scalar.abs p.y) * Scalar.signOf p.x, (1.0 - Scalar.abs p.x) * Scalar.signOf p.y⟩

/-- The octahedral coordinates of a direction; zero has the coordinates of the upward axis. -/
def encodeOctahedral (v : Vec3 α) : Vec2 α :=
  let d := v.normalizeOrZero
  let norm := Scalar.abs d.x + Scalar.abs d.y + Scalar.abs d.z
  if norm == 0.0 then ⟨0.0, 0.0⟩
  else
    let p : Vec2 α := ⟨d.x / norm, d.y / norm⟩
    if d.z < 0.0 then fold p else p

/-- The point on the octahedron with the given coordinates. -/
def onOctahedron (p : Vec2 α) : Vec3 α :=
  let z := 1.0 - Scalar.abs p.x - Scalar.abs p.y
  if z < 0.0 then ⟨(fold p).x, (fold p).y, z⟩ else ⟨p.x, p.y, z⟩

def decodeOctahedral (p : Vec2 α) : Vec3 α := (onOctahedron p).normalizeOrZero

def packDirection (v : Vec3 α) : Int8 × Int8 :=
  let p := encodeOctahedral v
  (signedByte p.x, signedByte p.y)

/-- The direction that a shader reads from a stored pair. -/
def unpackDirection (packed : Int8 × Int8) : Vec3 α :=
  let read (b : Int8) : α := Scalar.greater (Scalar.ofInt8 b / 127.0) (-1.0)
  decodeOctahedral ⟨read packed.1, read packed.2⟩

/-- The complete triples of a flat list. -/
def triples {β : Type} : List β → List (Vec3 β)
  | x :: y :: z :: rest => ⟨x, y, z⟩ :: triples rest
  | _ => []

/-- The complete pairs of a flat list. -/
def pairs {β : Type} : List β → List (Vec2 β)
  | x :: y :: rest => ⟨x, y⟩ :: pairs rest
  | _ => []

/-- Packs a flat list of normals, two bytes for each. -/
def packNormals (normals : List α) : List Int8 :=
  (triples normals).flatMap fun v => let p := packDirection v; [p.1, p.2]

def packColors (colors : List α) : List UInt8 := colors.map unsignedByte

end SceneRenderer.Packing

/-! ### Smooth vertex normals -/

namespace SceneRenderer.Packing

variable {α : Type} [Scalar α]

/-- Adds the normal of a face to its corners; a face with a corner out of range adds nothing. -/
def addFace (vertices sums : Array (Vec3 α)) (face : Vec3 Nat) : Array (Vec3 α) :=
  match vertices[face.x]?, vertices[face.y]?, vertices[face.z]? with
  | some a, some b, some c =>
    let normal := (b - a).cross (c - a)
    ((sums.modify face.x (· + normal)).modify face.y (· + normal)).modify face.z (· + normal)
  | _, _, _ => sums

/-- The normals of a flat list of positions, whose faces are the complete triples of indices, or of
the vertices in order where there are none. -/
def vertexNormals (positions : List α) (indices : Option (List UInt32)) : List α :=
  let vertices := (triples positions).toArray
  let corners := (indices.map (·.map UInt32.toNat)).getD (List.range vertices.size)
  let sums := (triples corners).foldl (addFace vertices) (Array.replicate vertices.size .zero)
  sums.toList.flatMap fun sum => sum.normalizeOrZero.toList

end SceneRenderer.Packing
