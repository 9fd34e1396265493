import SceneRenderer.Proofs.Frame.AttributeBuffers

/-!
The faces behind generated normals, and the faces that are drawn. Normals are accumulated over the
triples of the index array, or of the vertices in order; a draw goes through the uploaded indices,
or through the vertices in order, and assembles them as its topology says. Both come to the same
faces for a list of triangles whose index array, if it has one, is not empty.

The main statement is `Geometry.normals_over_drawn`. For strips, and for index arrays that are
present but empty, faces are drawn that no normal knows of (`Geometry.exists_drawn_without_normal`).
-/

set_option autoImplicit false
set_option relaxedAutoImplicit false

namespace SceneRenderer

/-! ### Assembly -/

/-- The corners of a face are among the first vertices. -/
def Vec3.within (vertexCount : Nat) (face : Vec3 Nat) : Bool :=
  face.x < vertexCount && face.y < vertexCount && face.z < vertexCount

namespace Topology

variable {α : Type}

/-- Every three neighbours, up to the order of their corners. -/
def strip : List α → List (Vec3 α)
  | x :: y :: z :: rest => ⟨x, y, z⟩ :: strip (y :: z :: rest)
  | _ => []

/-- Every two neighbours with a common hub. -/
def spokes (hub : α) : List α → List (Vec3 α)
  | x :: y :: rest => ⟨hub, x, y⟩ :: spokes hub (y :: rest)
  | _ => []

/-- The triangles that vertices in a row are assembled into. -/
def assemble : Topology → List α → List (Vec3 α)
  | triangles, row => Packing.triples row
  | triangleStrip, row => strip row
  | triangleFan, hub :: rest => spokes hub rest
  | _, _ => []

end Topology

/-- The faces that a command draws from the bound indices. -/
def Command.faces (indices : List UInt32) : Command → List (Vec3 Nat)
  | .drawArrays topology first count => topology.assemble (List.range' first.toNat count.toNat)
  | .drawElements topology count _ =>
    topology.assemble ((indices.take count.toNat).map UInt32.toNat)
  | _ => []

/-! ### Accumulation -/

namespace Packing

variable {α : Type} [Scalar α]

/-- Normals at vertices, from the faces around them. -/
def faceNormals (positions : List α) (faces : List (Vec3 Nat)) : List α :=
  let vertices := (triples positions).toArray
  let sums := faces.foldl (addFace vertices) (Array.replicate vertices.size .zero)
  sums.toList.flatMap fun sum ↦ sum.normalizeOrZero.toList

theorem addFace_of_not_within {vertices sums : Array (Vec3 α)} {face : Vec3 Nat}
    (hface : face.within vertices.size = false) : addFace vertices sums face = sums := by
  unfold addFace
  split
  · rename_i hx hy hz
    have hwithin : face.within vertices.size = true := by
      simp [Vec3.within, (Array.getElem?_eq_some_iff.mp hx).1, (Array.getElem?_eq_some_iff.mp hy).1,
        (Array.getElem?_eq_some_iff.mp hz).1]
    exact absurd (hwithin.symm.trans hface) (by decide)
  · rfl

/-- Faces out of range can be left out. -/
theorem foldl_addFace_filter (vertices : Array (Vec3 α)) (faces : List (Vec3 Nat))
    (sums : Array (Vec3 α)) :
    (faces.filter (·.within vertices.size)).foldl (addFace vertices) sums =
      faces.foldl (addFace vertices) sums := by
  induction faces generalizing sums with
  | nil => rfl
  | cons face rest ih =>
    cases hface : face.within vertices.size with
    | true => rw [List.filter_cons_of_pos hface, List.foldl_cons, List.foldl_cons, ih]
    | false =>
      rw [List.filter_cons_of_neg (by simp [hface]), List.foldl_cons, addFace_of_not_within hface,
        ih]

/-- The faces that generated normals are accumulated over. -/
def accumulatedFaces (vertexCount : Nat) (indices : Option (List UInt32)) : List (Vec3 Nat) :=
  (triples ((indices.map (·.map UInt32.toNat)).getD (List.range vertexCount))).filter
    (·.within vertexCount)

theorem vertexNormals_eq (positions : List α) (indices : Option (List UInt32)) :
    vertexNormals positions indices =
      faceNormals positions (accumulatedFaces (positions.length / 3) indices) := by
  have hsize : positions.length / 3 = (triples positions).toArray.size := by
    rw [List.size_toArray, length_triples]
  rw [vertexNormals, faceNormals, accumulatedFaces, hsize, foldl_addFace_filter]

end Packing

/-! ### Draws of uploaded geometries -/

theorem IndexArray.length_toWords (a : IndexArray) : a.toWords.length = a.length := by
  cases a with
  | uint16 values => exact List.length_map _
  | uint32 values => rfl

namespace GeometryBuffers

variable {δ : Type} [Device δ] {device device' : δ} {g : Geometry} {b : GeometryBuffers}

theorem index_of_uploadIndices {index : Option IndexBuffer}
    (hupload : uploadIndices device g = (.ok index, device')) :
    index.map (fun i ↦ (i.count, i.type)) = (g.indices.filter (!·.isEmpty)).map fun indices ↦
      (UInt32.ofNat indices.length, indices.type) := by
  unfold uploadIndices at hupload
  split at hupload
  · rename_i hnone
    cases (Prod.mk.inj hupload).1
    rw [hnone]
    rfl
  · rename_i indices hsome
    split at hupload
    · cases (Prod.mk.inj hupload).1
      rw [hsome]
      rfl
    · cases (Prod.mk.inj hupload).1

/-- Uploaded buffers are drawn through their indices if there are any, and else in order. -/
theorem draw_of_upload (hupload : upload device g = (.ok b, device')) :
    b.draw = match g.indices.filter (!·.isEmpty) with
      | some indices => .drawElements g.topology (UInt32.ofNat indices.length) indices.type
      | none => .drawArrays g.topology 0 g.vertexCount := by
  unfold upload at hupload
  split at hupload
  · cases (Prod.mk.inj hupload).1
  · split at hupload
    · cases (Prod.mk.inj hupload).1
    · split at hupload
      · cases (Prod.mk.inj hupload).1
      · rename_i index _ hindices
        cases (Prod.mk.inj hupload).1
        have hindex := index_of_uploadIndices hindices
        unfold draw
        cases harray : g.indices.filter (!·.isEmpty) with
        | none =>
          rw [harray, Option.map_none, Option.map_eq_none_iff] at hindex
          rw [hindex]
        | some indices =>
          rw [harray] at hindex
          obtain ⟨i, hi, hread⟩ := Option.map_eq_some_iff.mp hindex
          obtain ⟨hcount, htype⟩ := Prod.mk.inj hread
          rw [hi]
          show Command.drawElements g.topology i.count i.type = _
          rw [hcount, htype]

end GeometryBuffers

namespace Geometry

variable (g : Geometry)

/-- The faces that generated normals of a geometry are accumulated over. -/
def accumulatedFaces : List (Vec3 Nat) :=
  Packing.accumulatedFaces (g.positions.length / 3) (g.indices.map (·.toWords))

/-- The faces that a command draws from the arrays of a geometry, but for those out of range. -/
def drawnFaces (c : Command) : List (Vec3 Nat) :=
  (c.faces ((g.indices.map (·.toWords)).getD [])).filter (·.within (g.positions.length / 3))

/-- Vertices and indices can be counted in the words that count them. -/
def CountsFit : Prop :=
  g.positions.length / 3 < UInt32.size ∧ ∀ indices ∈ g.indices, indices.length < UInt32.size

variable {g}

theorem length_decodedPositions {positions : List Float32}
    (hpositions : g.decodedPositions? = some positions) :
    positions.length / 3 = g.positions.length / 3 := by
  unfold decodedPositions? at hpositions
  split at hpositions
  · rename_i hstored
    rw [hstored, ← Option.some.inj hpositions]
    rfl
  · rename_i values q hstored _
    rw [hstored, ← Option.some.inj hpositions,
      Packing.length_flatMap_triples (n := 3) values fun _ ↦ rfl, Nat.mul_div_cancel _ (by decide)]
    rfl
  · cases hpositions

/-- Generated normals are those of the accumulated faces. -/
theorem uploadedNormals_eq {positions : List Float32} (hauto : g.autoNormals = true)
    (htriangles : g.topology.isTriangles = true) (hnone : g.normals.all (·.isEmpty) = true)
    (hpositions : g.decodedPositions? = some positions) :
    g.uploadedNormals? =
      some (g.storeNormals (Packing.faceNormals positions g.accumulatedFaces)) := by
  have hgenerated : g.uploadedNormals? = g.generatedNormals? := by
    unfold uploadedNormals?
    cases hnormals : g.normals with
    | none => rfl
    | some normals =>
      rw [hnormals] at hnone
      exact if_pos hnone
  rw [hgenerated, generatedNormals?, hauto, htriangles, Bool.and_self, if_pos rfl, hpositions,
    Option.map_some, Packing.vertexNormals_eq, length_decodedPositions hpositions]
  rfl

/-- A list of triangles is drawn as it is accumulated. -/
theorem accumulatedFaces_eq_drawnFaces {δ : Type} [Device δ] {device device' : δ}
    {b : GeometryBuffers} (hupload : GeometryBuffers.upload device g = (.ok b, device'))
    (hlist : g.topology = .triangles) (hindices : g.indices.all (!·.isEmpty) = true)
    (hcounts : g.CountsFit) : g.accumulatedFaces = g.drawnFaces b.draw := by
  obtain ⟨hvertices, hindexed⟩ := hcounts
  unfold accumulatedFaces drawnFaces Packing.accumulatedFaces
  congr 1
  rw [GeometryBuffers.draw_of_upload hupload, hlist]
  cases harray : g.indices with
  | none =>
    show Packing.triples (List.range _) = Packing.triples (List.range' 0 g.vertexCount.toNat)
    rw [vertexCount, UInt32.toNat_ofNat_of_lt' hvertices, List.range_eq_range']
  | some indices =>
    rw [harray] at hindices
    have hsome : (some indices).filter (!·.isEmpty) = some indices := by
      rw [Option.filter_some]
      exact if_pos hindices
    have hlength := hindexed indices harray
    rw [hsome]
    show Packing.triples (indices.toWords.map UInt32.toNat) =
      Packing.triples ((indices.toWords.take (UInt32.ofNat indices.length).toNat).map UInt32.toNat)
    rw [UInt32.toNat_ofNat_of_lt' hlength, ← indices.length_toWords, List.take_length]

/-- Generated normals are accumulated over the faces of the arrays; for a list of triangles, whose
index array is not empty if there is one, these are the faces that are drawn. -/
theorem normals_over_drawn {δ : Type} [Device δ] {device device' : δ} {b : GeometryBuffers}
    {positions : List Float32} (hupload : GeometryBuffers.upload device g = (.ok b, device'))
    (hauto : g.autoNormals = true) (htriangles : g.topology.isTriangles = true)
    (hnone : g.normals.all (·.isEmpty) = true)
    (hpositions : g.decodedPositions? = some positions) (hcounts : g.CountsFit) :
    g.uploadedNormals? =
        some (g.storeNormals (Packing.faceNormals positions g.accumulatedFaces)) ∧
      (g.topology = .triangles → g.indices.all (!·.isEmpty) = true →
        g.accumulatedFaces = g.drawnFaces b.draw) :=
  ⟨uploadedNormals_eq hauto htriangles hnone hpositions,
    fun hlist hindices ↦ accumulatedFaces_eq_drawnFaces hupload hlist hindices hcounts⟩

/-- Two faces, of which the second one has a corner that is no vertex. -/
def torn : Geometry :=
  { Shader.smooth (.float32 [0, 0, 0, 1, 0, 0, 0, 1, 0]) with
    indices := some (.uint16 [0, 1, 2, 2, 1, 5]) }

theorem normals_over_drawn_torn :
    ∃ b device' positions, GeometryBuffers.upload Recorder.standard torn = (.ok b, device') ∧
      torn.decodedPositions? = some positions ∧ torn.CountsFit ∧
      torn.accumulatedFaces = [⟨0, 1, 2⟩] ∧ torn.drawnFaces b.draw = [⟨0, 1, 2⟩] ∧
      torn.uploadedNormals? =
        some (torn.storeNormals (Packing.faceNormals positions [⟨0, 1, 2⟩])) := by
  obtain ⟨b, device', hupload⟩ : ∃ b device',
      GeometryBuffers.upload Recorder.standard torn = (.ok b, device') := ⟨_, _, rfl⟩
  have hcounts : torn.CountsFit :=
    ⟨by decide, fun indices hindices ↦ by cases hindices; decide⟩
  have hfaces : torn.accumulatedFaces = [⟨0, 1, 2⟩] := by decide
  obtain ⟨hnormals, hdrawn⟩ := normals_over_drawn hupload rfl rfl rfl rfl hcounts
  exact ⟨b, device', _, hupload, rfl, hcounts, hfaces, (hdrawn rfl rfl).symm.trans hfaces,
    hfaces ▸ hnormals⟩

/-- A strip of two triangles. -/
def ribbon : Geometry :=
  { Shader.smooth (.float32 [0, 0, 0, 1, 0, 0, 0, 1, 0, 1, 1, 0]) with topology := .triangleStrip }

/-- A triangle with an index array that is empty. -/
def unlisted : Geometry :=
  { Shader.smooth (.float32 [0, 0, 0, 1, 0, 0, 0, 1, 0]) with indices := some (.uint16 []) }

/-- A geometry of triangles with generated normals has a face that is drawn but not accumulated, in
whatever order its corners are taken. -/
def MissesDrawnFace (g : Geometry) : Prop :=
  g.autoNormals = true ∧ g.topology.isTriangles = true ∧ g.normals = none ∧
    g.decodedPositions?.isSome ∧ g.CountsFit ∧ ∃ b device',
      GeometryBuffers.upload Recorder.standard g = (.ok b, device') ∧
      ∃ face ∈ g.drawnFaces b.draw, ∀ other ∈ g.accumulatedFaces, ¬other.toList.Perm face.toList

/-- A strip and an empty index array leave such faces. -/
theorem exists_drawn_without_normal : ribbon.MissesDrawnFace ∧ unlisted.MissesDrawnFace := by
  constructor
  · refine ⟨rfl, rfl, rfl, rfl, ⟨by decide, fun indices hindices ↦ by cases hindices⟩, _, _, rfl,
      ⟨1, 2, 3⟩, ?_, ?_⟩
    · decide
    · decide
  · refine ⟨rfl, rfl, rfl, rfl, ⟨by decide, fun indices hindices ↦ by cases hindices; decide⟩, _, _,
      rfl, ⟨0, 1, 2⟩, ?_, ?_⟩
    · decide
    · decide

end Geometry

end SceneRenderer
