import SceneRenderer.Numeric.Matrix
import SceneRenderer.Scene.Id

/-!
Geometry: a topology with one array per vertex attribute. Arrays hold plain numbers or quantized
storage together with matrices that lead back to model space.
-/

set_option autoImplicit false
set_option relaxedAutoImplicit false

namespace SceneRenderer

/-- How vertices are assembled into primitives. -/
inductive Topology
  | points
  | lines
  | lineLoop
  | lineStrip
  | triangles
  | triangleStrip
  | triangleFan
deriving Repr, DecidableEq, Inhabited

namespace Topology

def isTriangles : Topology → Bool
  | triangles | triangleStrip | triangleFan => true
  | _ => false

def isPoints : Topology → Bool
  | points => true
  | _ => false

end Topology

/-- The storage of one component of a vertex attribute. -/
inductive Component
  | float32
  | uint16
  | int8
  | uint8
deriving Repr, DecidableEq, Inhabited

/-- The size in bytes. -/
def Component.size : Component → UInt32
  | .float32 => 4
  | .uint16 => 2
  | .int8 | .uint8 => 1

inductive VertexAttribute
  | position
  | normal
  | uv
  | color
deriving Repr, DecidableEq, Inhabited

namespace VertexAttribute

def all : List VertexAttribute := [position, normal, uv, color]

/-- Components per vertex; a quantized normal is a pair of octahedral coordinates. -/
def arity : VertexAttribute → Bool → UInt32
  | position, _ => 3
  | normal, quantized => if quantized then 2 else 3
  | uv, _ => 2
  | color, _ => 4

/-- Whether stored integers are read as fractions. Positions and texture coordinates are not: their
decode matrices carry the scale. -/
def normalized : VertexAttribute → Component → Bool
  | _, .float32 => false
  | normal, _ | color, _ => true
  | _, _ => false

/-- The slot that a program binds the attribute to before it is linked. -/
def slot : VertexAttribute → UInt32
  | position => 0
  | normal => 1
  | uv => 2
  | color => 3

end VertexAttribute

/-- The bytes of a word, least significant first. -/
def littleEndian (width : Nat) (word : Nat) : List UInt8 :=
  (List.range width).map fun i => UInt8.ofNat (word >>> (8 * i))

/-- The array behind a vertex attribute, as a flat list of components. -/
inductive VertexArray
  | float32 (values : List Float32)
  | uint16 (values : List UInt16)
  | int8 (values : List Int8)
  | uint8 (values : List UInt8)
deriving Inhabited

namespace VertexArray

def component : VertexArray → Component
  | float32 _ => .float32
  | uint16 _ => .uint16
  | int8 _ => .int8
  | uint8 _ => .uint8

def length : VertexArray → Nat
  | float32 values => values.length
  | uint16 values => values.length
  | int8 values => values.length
  | uint8 values => values.length

def isEmpty (a : VertexArray) : Bool := a.length == 0

/-- The storage as it is uploaded. -/
def bytes : VertexArray → List UInt8
  | float32 values => values.flatMap fun v => littleEndian 4 v.toBits.toNat
  | uint16 values => values.flatMap fun v => littleEndian 2 v.toNat
  | int8 values => values.map fun v => v.toUInt8
  | uint8 values => values

end VertexArray

inductive IndexArray
  | uint16 (values : List UInt16)
  | uint32 (values : List UInt32)
deriving Inhabited

namespace IndexArray

def length : IndexArray → Nat
  | uint16 values => values.length
  | uint32 values => values.length

def isEmpty (a : IndexArray) : Bool := a.length == 0

def bytes : IndexArray → List UInt8
  | uint16 values => values.flatMap fun v => littleEndian 2 v.toNat
  | uint32 values => values.flatMap fun v => littleEndian 4 v.toNat

def toWords : IndexArray → List UInt32
  | uint16 values => values.map UInt16.toUInt32
  | uint32 values => values

end IndexArray

/-- Matrices that lead from quantized storage back to model and texture space. -/
structure Quantization where
  positionsDecode : Mat4 Float32
  uvDecode : Option (Mat3 Float32)
deriving Inhabited

structure Geometry where
  id : GeometryId
  topology : Topology
  positions : VertexArray
  normals : Option VertexArray
  /-- Smooth normals are generated at upload where none are given. -/
  autoNormals : Bool
  uv : Option VertexArray
  colors : Option VertexArray
  indices : Option IndexArray
  quantization : Option Quantization
deriving Inhabited

namespace Geometry

/-- A list of triangles without further attributes. -/
def ofTriangles (id : GeometryId) (positions : List Float32) : Geometry :=
  ⟨id, .triangles, .float32 positions, none, false, none, none, none, none⟩

def isQuantized (g : Geometry) : Bool := g.quantization.isSome

def declaresNormals (g : Geometry) : Bool := g.normals.any (!·.isEmpty) || g.autoNormals

def hasUv (g : Geometry) : Bool := g.uv.any (!·.isEmpty)

def hasColors (g : Geometry) : Bool := g.colors.any (!·.isEmpty)

def hasIndices (g : Geometry) : Bool := g.indices.any (!·.isEmpty)

def hasPositions (g : Geometry) : Bool := !g.positions.isEmpty

def vertexCount (g : Geometry) : UInt32 := UInt32.ofNat (g.positions.length / 3)

/-- The length of a draw: indices where there are any, else vertices. -/
def elementCount (g : Geometry) : UInt32 :=
  match g.indices with
  | some indices => if indices.isEmpty then g.vertexCount else UInt32.ofNat indices.length
  | none => g.vertexCount

end Geometry

end SceneRenderer
