import SceneRenderer.Device.Recorder
import SceneRenderer.Frame.GeometryBuffers
import SceneRenderer.Proofs.Shader.CanonicalKey
import SceneRenderer.Shader.Classify

/-!
The attributes that a program reads and the buffers that a geometry has for them. Which attributes
are declared goes by the features that were classified from the geometry; which arrays are uploaded
goes by the geometry itself. Both agree on positions, texture coordinates and colors. They agree on
normals where those that are declared can also be had (`Geometry.resolvesNormals`): they may have to
be generated from positions that nobody can decode.

The main statement is `Shader.classify_attributes`; `Shader.exists_declared_without_buffer` is a
geometry that is lit without normals.
-/

set_option autoImplicit false
set_option relaxedAutoImplicit false

namespace SceneRenderer

open Shader

/-! ### Normals that can be had -/

theorem isSome_filter {α : Type} {p : α → Bool} (o : Option α) :
    (o.filter p).isSome = o.any p := by
  cases o with
  | none => rfl
  | some a => cases hp : p a <;> simp [hp]

namespace Packing

variable {α : Type} [Scalar α]

theorem length_triples {β : Type} (l : List β) : (triples l).length = l.length / 3 := by
  match l with
  | [] | [_] | [_, _] => simp [triples]
  | _ :: _ :: _ :: rest =>
    simp only [triples, List.length_cons, length_triples rest]
    omega

/-- Whatever makes three numbers of each triple. -/
theorem length_flatMap_triples {β γ : Type} (l : List β) {f : Vec3 β → List γ} {n : Nat}
    (hf : ∀ v, (f v).length = n) : ((triples l).flatMap f).length = l.length / 3 * n := by
  simp [List.length_flatMap, hf, length_triples]

theorem size_foldl_addFace (vertices : Array (Vec3 α)) (faces : List (Vec3 Nat))
    (sums : Array (Vec3 α)) : (faces.foldl (addFace vertices) sums).size = sums.size := by
  induction faces generalizing sums with
  | nil => rfl
  | cons face rest ih =>
    rw [List.foldl_cons, ih]
    unfold addFace
    split
    · simp only [Array.size_modify]
    · rfl

/-- Every vertex has a normal. -/
theorem length_vertexNormals (positions : List α) (indices : Option (List UInt32)) :
    (vertexNormals positions indices).length = positions.length / 3 * 3 := by
  simp [vertexNormals, List.length_flatMap, Vec3.toList, size_foldl_addFace, length_triples]

theorem length_packNormals (normals : List α) :
    (packNormals normals).length = normals.length / 3 * 2 :=
  length_flatMap_triples normals fun _ ↦ rfl

end Packing

namespace Geometry

/-- There is a vertex, in storage that can be decoded. -/
def hasDecodablePositions (g : Geometry) : Bool :=
  match g.positions with
  | .float32 values => 3 ≤ values.length
  | .uint16 values => g.isQuantized && 3 ≤ values.length
  | _ => false

/-- Whether normals that a geometry declares can be had: given normals can, but for less than one
that would have to be packed, and others are generated from positions. -/
def resolvesNormals (g : Geometry) : Bool :=
  match g.normals.filter (!·.isEmpty) with
  | some (.float32 values) => !g.isQuantized || 3 ≤ values.length
  | some _ => true
  | none => g.hasDecodablePositions

theorem length_storeNormals (g : Geometry) (normals : List Float32) :
    (g.storeNormals normals).length =
      if g.isQuantized then normals.length / 3 * 2 else normals.length := by
  unfold storeNormals
  split
  · exact Packing.length_packNormals normals
  · rfl

/-- A vertex can be decoded where there is one in storage that says what it is. -/
theorem any_decodedPositions (g : Geometry) :
    (g.decodedPositions?.any fun positions ↦ decide (3 ≤ positions.length)) =
      g.hasDecodablePositions := by
  unfold decodedPositions? hasDecodablePositions isQuantized
  cases g.positions with
  | float32 values => rfl
  | uint16 values =>
    cases g.quantization with
    | none => rfl
    | some q =>
      have hlength := Packing.length_flatMap_triples (f := fun p : Vec3 UInt16 ↦
        (q.positionsDecode.transformPoint
          ⟨p.x.toFloat32, p.y.toFloat32, p.z.toFloat32⟩).toList) (n := 3) values fun _ ↦ rfl
      simp only [Option.any_some, Option.isSome_some, Bool.true_and, decide_eq_decide]
      rw [hlength]
      omega
  | int8 values => rfl
  | uint8 values => rfl

/-- Normals can be generated exactly from positions that can be decoded. -/
theorem isSome_generatedNormals (g : Geometry) (hauto : g.autoNormals = true)
    (htriangles : g.topology.isTriangles = true) :
    (g.generatedNormals?.filter (!·.isEmpty)).isSome = g.hasDecodablePositions := by
  have hstored (positions : List Float32) :
      (!(g.storeNormals (Packing.vertexNormals positions (g.indices.map (·.toWords)))).isEmpty) =
        decide (3 ≤ positions.length) := by
    rw [VertexArray.isEmpty, length_storeNormals, Packing.length_vertexNormals, Bool.eq_iff_iff]
    simp only [Bool.not_eq_true', beq_eq_false_iff_ne, decide_eq_true_iff]
    split <;> omega
  rw [generatedNormals?, hauto, htriangles, Bool.and_self, if_pos rfl, isSome_filter,
    ← any_decodedPositions, Option.any_map]
  simp only [hstored]

/-- Normals are uploaded exactly where those that are declared can be had. -/
theorem isSome_uploadedNormals (g : Geometry) (hdeclares : g.declaresNormals = true)
    (htriangles : g.topology.isTriangles = true) :
    (g.uploadedNormals?.filter (!·.isEmpty)).isSome = g.resolvesNormals := by
  unfold declaresNormals at hdeclares
  unfold uploadedNormals? resolvesNormals
  cases hnormals : g.normals with
  | none =>
    rw [hnormals] at hdeclares
    exact isSome_generatedNormals g hdeclares htriangles
  | some normals =>
    rw [hnormals] at hdeclares
    cases hempty : normals.isEmpty with
    | true =>
      rw [Option.any_some, hempty] at hdeclares
      simp only [Option.filter_some, hempty]
      exact isSome_generatedNormals g hdeclares htriangles
    | false =>
      simp only [Option.filter_some, hempty]
      cases normals with
      | float32 values =>
        have hsome : 0 < values.length := by
          simpa [VertexArray.isEmpty, VertexArray.length, List.length_pos_iff] using hempty
        have hstored : (!(g.storeNormals values).isEmpty) =
            (!g.isQuantized || decide (3 ≤ values.length)) := by
          rw [VertexArray.isEmpty, length_storeNormals]
          cases g.isQuantized with
          | true =>
            rw [if_pos rfl, Bool.not_true, Bool.false_or, Bool.eq_iff_iff]
            simp only [Bool.not_eq_true', beq_eq_false_iff_ne, decide_eq_true_iff]
            omega
          | false => simp [List.length_pos_iff.mp hsome]
        simpa [isSome_filter, hempty] using hstored
      | uint16 values => simp [hempty]
      | int8 values => simp [hempty]
      | uint8 values => simp [hempty]

end Geometry

/-! ### Uploads -/

namespace GeometryBuffers

variable {δ : Type} [Device δ]

/-- An attribute with the way its buffer is read. -/
def described (attributes : List AttributeBuffer) : List (VertexAttribute × AttributeLayout) :=
  attributes.map fun b ↦ (b.kind, b.layout)

theorem described_uploadArrays {quantized : Bool} {device device' : δ}
    {done attributes : List AttributeBuffer} {arrays : List (VertexAttribute × VertexArray)}
    (hupload : uploadArrays quantized device done arrays = (.ok attributes, device')) :
    described attributes = described done ++
      arrays.map fun a ↦ (a.1, attributeLayout quantized a.1 a.2.component) := by
  induction arrays generalizing device done with
  | nil =>
    obtain ⟨hdone, _⟩ := Prod.mk.inj hupload
    rw [← Except.ok.inj hdone, List.map_nil, List.append_nil]
  | cons array rest ih =>
    obtain ⟨a, array⟩ := array
    unfold uploadArrays at hupload
    split at hupload
    · rw [ih hupload]
      simp [described]
    · exact absurd (Prod.mk.inj hupload).1 nofun

/-- The buffers of an upload are those of its arrays. -/
theorem described_upload {device device' : δ} {g : Geometry} {b : GeometryBuffers}
    (hupload : upload device g = (.ok b, device')) :
    g.hasPositions = true ∧ described b.attributes =
      g.uploads.map fun a ↦ (a.1, attributeLayout g.isQuantized a.1 a.2.component) := by
  unfold upload at hupload
  split at hupload
  · exact absurd (Prod.mk.inj hupload).1 nofun
  · rename_i hpositions
    refine ⟨by simpa using hpositions, ?_⟩
    split at hupload
    · exact absurd (Prod.mk.inj hupload).1 nofun
    · rename_i hattributes
      split at hupload
      · exact absurd (Prod.mk.inj hupload).1 nofun
      · obtain ⟨hb, _⟩ := Prod.mk.inj hupload
        rw [← Except.ok.inj hb]
        exact described_uploadArrays hattributes

theorem find?_filterMap_all {β : Type} (array? : VertexAttribute → Option β) (a : VertexAttribute) :
    (VertexAttribute.all.filterMap fun a ↦ (array? a).map (a, ·)).find? (·.1 == a) =
      (array? a).map (a, ·) := by
  have hany (a' : VertexAttribute) :
      ((array? a').map (a', ·)).any (·.1 == a) = (a' == a && (array? a').isSome) := by
    cases array? a' <;> simp
  rw [List.find?_filterMap]
  simp only [hany]
  cases ha : array? a with
  | none => cases a <;> simp [VertexAttribute.all, ha]
  | some array => cases a <;> simp [VertexAttribute.all, ha]

/-- An attribute has a buffer exactly where there is an array to upload for it. -/
theorem layout_attribute? {device device' : δ} {g : Geometry} {b : GeometryBuffers}
    (hupload : upload device g = (.ok b, device')) (a : VertexAttribute) :
    (b.attribute? a).map (·.layout) = ((g.uploadedArray? a).filter (!·.isEmpty)).map fun array ↦
      attributeLayout g.isQuantized a array.component := by
  have hfind := congrArg (List.find? (·.1 == a)) (described_upload hupload).2
  rw [described, List.find?_map, List.find?_map] at hfind
  change (b.attribute? a).map _ = (g.uploads.find? (·.1 == a)).map _ at hfind
  have huploads : g.uploads.find? (·.1 == a) = _ := find?_filterMap_all _ a
  rw [huploads, Option.map_map] at hfind
  have hlayout := congrArg (Option.map Prod.snd) hfind
  rwa [Option.map_map, Option.map_map] at hlayout

end GeometryBuffers

/-! ### Declarations -/

namespace Shader

/-- The type of a vector of floats in shader text. -/
def vectorText (components : UInt32) : String := "vec" ++ toString components.toNat

theorem text_of_signature {quantized : Bool} {n : Name} {type : GlslType}
    (hsignature : n.signature quantized = some (.perVertex, type)) :
    ∃ a, n = .vertexInput a ∧ type.text = vectorText (a.arity quantized) := by
  cases n with
  | vertexInput a =>
    refine ⟨a, rfl, ?_⟩
    cases a <;> cases quantized <;>
      obtain rfl := (Prod.mk.inj (Option.some.inj hsignature)).2 <;> rfl
  | _ => simp at hsignature

/-- What the classified features say of an attribute that the vertex stage declares. -/
theorem vertexInput_mem_vertex {c : Features} {o : ShaderOptions} {a : VertexAttribute}
    (ha : Name.vertexInput a ∈ globals (vertexRecords c o)) :
    match a with
    | .position => True
    | .normal => c.isShaded = true
    | .uv => c.usesUv = true
    | .color => c.hasColors = true := by
  cases a with
  | position => trivial
  | normal => simpa [globals_vertexRecords] using ha
  | uv => simpa [globals_vertexRecords] using ha
  | color => simpa [globals_vertexRecords] using ha

section Classify

variable (g : Geometry) (material : Material) (lights : List Light) (clips : List ClipPlane)
  (modes : DrawModes) (scene : SceneFlags)

/-- An attribute is declared only where the geometry has something for it; normals may still be
missing. -/
theorem isSome_uploadedArray (hpositions : g.hasPositions = true) {o : ShaderOptions}
    {a : VertexAttribute} (ha : Name.vertexInput a ∈
      globals (vertexRecords (classify g material lights clips modes scene) o)) :
    ((g.uploadedArray? a).filter (!·.isEmpty)).isSome = true ↔
      (a = .normal → g.resolvesNormals = true) := by
  have hdeclared := vertexInput_mem_vertex ha
  cases a with
  | position =>
    simpa [Geometry.uploadedArray?, isSome_filter, Geometry.hasPositions] using hpositions
  | normal =>
    have hnormals : usableNormals g = true := by
      have hshaded := (Bool.and_eq_true_iff.mp hdeclared).1
      exact (Bool.and_eq_true_iff.mp hshaded).1
    obtain ⟨hdeclares, htriangles⟩ := Bool.and_eq_true_iff.mp hnormals
    rw [Geometry.uploadedArray?, g.isSome_uploadedNormals hdeclares htriangles]
    simp
  | uv =>
    have huv : g.hasUv = true :=
      (Bool.and_eq_true_iff.mp (Bool.and_eq_true_iff.mp hdeclared).1).1
    simpa [Geometry.uploadedArray?, isSome_filter, Geometry.hasUv] using huv
  | color =>
    have hcolors : g.hasColors = true := hdeclared
    simpa [Geometry.uploadedArray?, isSome_filter, Geometry.hasColors] using hcolors

/-- A per-vertex declaration of a stage is one of the attributes, with the type of its arity. -/
theorem exists_attribute_of_declared {c : Features} {o : ShaderOptions} {v : Stage}
    (hv : Built (vertexRecords c o) v) {d : Declaration} (hd : d ∈ v.declarations)
    (hqualifier : d.qualifier = .perVertex) :
    ∃ a, d.name = vertexAttributeName a ∧ d.type = vectorText (a.arity c.quantized) ∧
      Name.vertexInput a ∈ globals (vertexRecords c o) := by
  have hcall := ((hv.gained.declarations d).mp hd).resolve_left List.not_mem_nil
  obtain ⟨qualifier, type, n, hn, rfl⟩ := declare_mem_toCall hcall
  obtain rfl : qualifier = .perVertex := hqualifier
  have hsignature := eq_of_beq (List.all_eq_true.mp (respects_vertexRecords c o) _ hn)
  obtain ⟨a, rfl, htype⟩ := text_of_signature hsignature
  exact ⟨a, rfl, htype, List.mem_filterMap.mpr ⟨_, hn, rfl⟩⟩

/-- Whatever is drawn with a geometry, its program declares attributes for which there are buffers
with as many components, except for normals that cannot be had. -/
theorem classify_attributes {δ : Type} [Device δ] {device device' : δ} {b : GeometryBuffers}
    (hupload : GeometryBuffers.upload device g = (.ok b, device')) {o : ShaderOptions}
    (hradius : o.kernelRadius ≤ maxKernelRadius) :
    ∃ v f, drawStages (classify g material lights clips modes scene) o = .ok (v, f) ∧
      ∀ d ∈ v.declarations, d.qualifier = .perVertex → ∃ a : VertexAttribute,
        d.name = vertexAttributeName a ∧ d.type = vectorText (a.arity g.isQuantized) ∧
        ((∃ array, b.attribute? a = some array ∧ array.layout.slot = a.slot ∧
            array.layout.components = a.arity g.isQuantized) ↔
          (a = .normal → g.resolvesNormals = true)) := by
  obtain ⟨_, v, f, _, hstages, hv, _⟩ :=
    drawStages_ok (classify g material lights clips modes scene) hradius
  refine ⟨v, f, hstages, fun d hd hqualifier ↦ ?_⟩
  obtain ⟨a, hname, htype, ha⟩ := exists_attribute_of_declared hv hd hqualifier
  refine ⟨a, hname, htype, ?_⟩
  have hpositions := (GeometryBuffers.described_upload hupload).1
  rw [← isSome_uploadedArray g material lights clips modes scene hpositions ha]
  have hlayout := GeometryBuffers.layout_attribute? hupload a
  constructor
  · rintro ⟨array, harray, _⟩
    rw [harray] at hlayout
    cases hstored : (g.uploadedArray? a).filter (!·.isEmpty) with
    | none => rw [hstored] at hlayout; exact absurd hlayout nofun
    | some stored => rfl
  · intro hsome
    obtain ⟨stored, hstored⟩ := Option.isSome_iff_exists.mp hsome
    rw [hstored] at hlayout
    obtain ⟨array, harray, hread⟩ := Option.map_eq_some_iff.mp hlayout
    exact ⟨array, harray, by rw [hread]; rfl, by rw [hread]; rfl⟩

end Classify

/-- A triangle in the given storage, with normals to be generated. -/
def smooth (positions : VertexArray) : Geometry :=
  { Geometry.ofTriangles ⟨7⟩ [] with positions, autoNormals := true }

/-- A light that shades whatever has normals. -/
def sun : Light := .directional ⟨0.0, -1.0, 0.0⟩ .world

theorem classify_attributes_smooth :
    ShaderOptions.standard.kernelRadius ≤ maxKernelRadius ∧
      ∃ g device' b v f, g = smooth (.float32 [0, 0, 0, 1, 0, 0, 0, 1, 0]) ∧
        GeometryBuffers.upload Recorder.standard g = (.ok b, device') ∧
        drawStages (classify g default [sun] [] .standard ⟨false, false, false, false⟩) .standard =
          .ok (v, f) ∧
        ∀ d ∈ v.declarations, d.qualifier = .perVertex → ∃ a : VertexAttribute,
          d.name = vertexAttributeName a ∧ d.type = vectorText (a.arity g.isQuantized) ∧
          ((∃ array, b.attribute? a = some array ∧ array.layout.slot = a.slot ∧
              array.layout.components = a.arity g.isQuantized) ↔
            (a = .normal → g.resolvesNormals = true)) := by
  obtain ⟨b, device', hupload⟩ : ∃ b device', GeometryBuffers.upload Recorder.standard
      (smooth (.float32 [0, 0, 0, 1, 0, 0, 0, 1, 0])) = (.ok b, device') := ⟨_, _, rfl⟩
  obtain ⟨v, f, hstages, hdeclared⟩ := classify_attributes _ default [sun] [] .standard
    ⟨false, false, false, false⟩ hupload (o := .standard) (by decide)
  exact ⟨by decide, _, device', b, v, f, rfl, hupload, hstages, hdeclared⟩

/-- Positions in small integers are not decoded without matrices, so no normals are generated from
them; the program that is classified for them reads normals all the same. -/
theorem exists_declared_without_buffer :
    ∃ g device' b v f, g = smooth (.uint16 [0, 0, 0, 1, 0, 0, 0, 1, 0]) ∧
      GeometryBuffers.upload Recorder.standard g = (.ok b, device') ∧
      drawStages (classify g default [sun] [] .standard ⟨false, false, false, false⟩) .standard =
        .ok (v, f) ∧
      ⟨.perVertex, "vec3", vertexAttributeName .normal⟩ ∈ v.declarations ∧
      b.attribute? .normal = none := by
  let c := classify (smooth (.uint16 [0, 0, 0, 1, 0, 0, 0, 1, 0])) default [sun] [] .standard
    ⟨false, false, false, false⟩
  have hshaded : c.isShaded = true := rfl
  have hquantized : c.quantized = false := rfl
  obtain ⟨_, v, f, _, hstages, hv, _⟩ := drawStages_ok c (o := .standard) (by decide)
  refine ⟨_, _, _, v, f, rfl, rfl, hstages, ?_, rfl⟩
  refine (hv.gained.declarations _).mpr (.inr (List.mem_map.mpr ?_))
  refine ⟨Record.perVertex .vec3 (.vertexInput .normal), ?_, rfl⟩
  simp [vertexRecords, normalRecords, onlyIf, hshaded, hquantized]

end Shader

end SceneRenderer
