import SceneRenderer.Packing.Normals
import SceneRenderer.Program.Link

/-!
The buffers of one geometry on a device. Quantized arrays are uploaded as they are and decoded by
the shader; normals that the geometry asks for are generated before.
-/

set_option autoImplicit false
set_option relaxedAutoImplicit false

namespace SceneRenderer

namespace Geometry

/-- The positions in model space, where the storage says what they are. -/
def decodedPositions? (g : Geometry) : Option (List Float32) :=
  match g.positions, g.quantization with
  | .float32 values, _ => some values
  | .uint16 values, some q =>
    some <| (Packing.triples values).flatMap fun p =>
      (q.positionsDecode.transformPoint
        ⟨p.x.toFloat32, p.y.toFloat32, p.z.toFloat32⟩).toList
  | _, _ => none

/-- Normals in the storage that the shader reads. -/
def storeNormals (g : Geometry) (normals : List Float32) : VertexArray :=
  if g.isQuantized then .int8 (Packing.packNormals normals) else .float32 normals

def generatedNormals? (g : Geometry) : Option VertexArray :=
  if g.autoNormals && g.topology.isTriangles then
    g.decodedPositions?.map fun positions =>
      g.storeNormals (Packing.vertexNormals positions (g.indices.map (·.toWords)))
  else none

/-- The normals to upload: the given ones, or generated ones. -/
def uploadedNormals? (g : Geometry) : Option VertexArray :=
  match g.normals with
  | some normals =>
    if normals.isEmpty then g.generatedNormals?
    else
      match normals with
      | .float32 values => some (g.storeNormals values)
      | stored => some stored
  | none => g.generatedNormals?

/-- The array to upload for an attribute. -/
def uploadedArray? (g : Geometry) : VertexAttribute → Option VertexArray
  | .position => some g.positions
  | .normal => g.uploadedNormals?
  | .uv => g.uv
  | .color => g.colors

/-- The arrays to upload, in order; empty ones are left out. -/
def uploads (g : Geometry) : List (VertexAttribute × VertexArray) :=
  VertexAttribute.all.filterMap fun a =>
    ((g.uploadedArray? a).filter (!·.isEmpty)).map (a, ·)

end Geometry

structure AttributeBuffer where
  kind : VertexAttribute
  buffer : BufferId
  layout : AttributeLayout
deriving Repr, DecidableEq, Inhabited

structure IndexBuffer where
  buffer : BufferId
  type : IndexType
  count : UInt32
deriving Repr, DecidableEq, Inhabited

def IndexArray.type : IndexArray → IndexType
  | .uint16 _ => .uint16
  | .uint32 _ => .uint32

structure GeometryBuffers where
  geometry : GeometryId
  topology : Topology
  vertexCount : UInt32
  positionsDecode : Option (Mat4 Float32)
  uvDecode : Option (Mat3 Float32)
  attributes : List AttributeBuffer
  index : Option IndexBuffer
deriving Inhabited

namespace GeometryBuffers

section Upload

variable {δ : Type} [Device δ]

def attributeLayout (quantized : Bool) (a : VertexAttribute) (c : Component) : AttributeLayout :=
  ⟨a.slot, a.arity quantized, c, a.normalized c⟩

def deleteAll (buffers : List AttributeBuffer) : List Command :=
  buffers.map fun b => .deleteBuffer b.buffer

/-- Uploads arrays in order after those that are done. A failure deletes all of them again. -/
def uploadArrays (quantized : Bool) (device : δ) (done : List AttributeBuffer) :
    List (VertexAttribute × VertexArray) → Except DeviceError (List AttributeBuffer) × δ
  | [] => (.ok done, device)
  | (a, array) :: rest =>
    match Device.createBuffer device .vertex array.bytes with
    | (.ok buffer, device) =>
      let layout := attributeLayout quantized a array.component
      uploadArrays quantized device (done ++ [⟨a, buffer, layout⟩]) rest
    | (.error e, device) => (.error e, Device.submitAll device (deleteAll done))

/-- Uploads the indices, if there are any. -/
def uploadIndices (device : δ) (g : Geometry) : Except DeviceError (Option IndexBuffer) × δ :=
  match g.indices.filter (!·.isEmpty) with
  | none => (.ok none, device)
  | some indices =>
    match Device.createBuffer device .index indices.bytes with
    | (.ok buffer, device) =>
      (.ok (some ⟨buffer, indices.type, UInt32.ofNat indices.length⟩), device)
    | (.error e, device) => (.error e, device)

/-- Uploads every array of a geometry, or none. -/
def upload (device : δ) (g : Geometry) : Except DeviceError GeometryBuffers × δ :=
  if !g.hasPositions then (.error .emptyGeometry, device)
  else
    match uploadArrays g.isQuantized device [] g.uploads with
    | (.error e, device) => (.error e, device)
    | (.ok attributes, device) =>
      match uploadIndices device g with
      | (.error e, device) => (.error e, Device.submitAll device (deleteAll attributes))
      | (.ok index, device) =>
        (.ok ⟨g.id, g.topology, g.vertexCount, g.quantization.map (·.positionsDecode),
          g.quantization.bind (·.uvDecode), attributes, index⟩, device)

end Upload

def attribute? (b : GeometryBuffers) (a : VertexAttribute) : Option AttributeBuffer :=
  b.attributes.find? (·.kind == a)

def isIndexed (b : GeometryBuffers) : Bool := b.index.isSome

/-- Binds an attribute that the program reads, and disables any other. -/
def bindAttribute (b : GeometryBuffers) (bindings : ProgramBindings) (a : VertexAttribute) :
    Command :=
  match bindings.attribute? a, b.attribute? a with
  | some _, some array => .bindAttribute array.buffer array.layout
  | _, _ => .disableAttribute a.slot

def bind (b : GeometryBuffers) (bindings : ProgramBindings) : List Command :=
  VertexAttribute.all.map (b.bindAttribute bindings) ++
    (b.index.toList.map fun i => .bindIndexBuffer i.buffer)

/-- Draws the indices, or all vertices in order where there are none. -/
def draw (b : GeometryBuffers) : Command :=
  match b.index with
  | some i => .drawElements b.topology i.count i.type
  | none => .drawArrays b.topology 0 b.vertexCount

def destroy (b : GeometryBuffers) : List Command :=
  deleteAll b.attributes ++ b.index.toList.map fun i => .deleteBuffer i.buffer

end GeometryBuffers

end SceneRenderer
