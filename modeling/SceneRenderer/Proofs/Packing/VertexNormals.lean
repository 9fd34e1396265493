import SceneRenderer.Proofs.Frame.DrawnFaces

/-!
Generated normals, vertex by vertex. The program goes through the faces and adds to the sums of
their corners; here every vertex collects what the faces around it add
(`vertexNormals_eq_collected`). Without indices the faces are every third vertex with the two behind
it (`triples_range`), and every number that is read and every sum that is written is there
(`vertexNormals?_eq`).

The main statement is `vertexNormals_over_complete_faces`.
-/

set_option autoImplicit false
set_option relaxedAutoImplicit false

namespace SceneRenderer.Packing

/-! ### Triples of a flat list -/

section Triples

variable {β : Type}

theorem triples_of_length_lt {l : List β} (hl : l.length < 3) : triples l = [] :=
  List.eq_nil_of_length_eq_zero (by rw [length_triples, Nat.div_eq_of_lt hl])

/-- Lists are cut into triples apart where the first one leaves nothing over. -/
theorem triples_append {front : List β} (hfront : 3 ∣ front.length) (back : List β) :
    triples (front ++ back) = triples front ++ triples back := by
  match front with
  | [] => rfl
  | [_] | [_, _] => simp at hfront
  | x :: y :: z :: rest =>
    have hrest : 3 ∣ rest.length := by
      simp only [List.length_cons] at hfront
      omega
    simp only [List.cons_append, triples, triples_append hrest back]

theorem triples_append_of_length_lt {front back : List β} (hfront : 3 ∣ front.length)
    (hback : back.length < 3) : triples (front ++ back) = triples front := by
  rw [triples_append hfront, triples_of_length_lt hback, List.append_nil]

/-- What is left over can be cut off. -/
theorem triples_take (l : List β) : triples (l.take (3 * (l.length / 3))) = triples l := by
  have hback : (l.drop (3 * (l.length / 3))).length < 3 := by
    rw [List.length_drop]
    omega
  have hfront : 3 ∣ (l.take (3 * (l.length / 3))).length :=
    ⟨l.length / 3, by rw [List.length_take]; omega⟩
  rw [← triples_append_of_length_lt hfront hback, List.take_append_drop]

theorem size_toArray_triples (l : List β) : (triples l).toArray.size = l.length / 3 := by
  rw [List.size_toArray, length_triples]

/-- The point at a place, read number by number. -/
def point? (numbers : List β) (i : Nat) : Option (Vec3 β) := do
  return ⟨← numbers[3 * i]?, ← numbers[3 * i + 1]?, ← numbers[3 * i + 2]?⟩

theorem getElem?_triples (l : List β) (i : Nat) : (triples l)[i]? = point? l i := by
  match l, i with
  | [], _ => rfl
  | [_], 0 | [_, _], 0 => rfl
  | [_], i + 1 | [_, _], i + 1 => simp [triples, point?, Nat.mul_succ]
  | _ :: _ :: _ :: _, 0 => rfl
  | _ :: _ :: _ :: rest, i + 1 =>
    rw [triples, List.getElem?_cons_succ, getElem?_triples rest i]
    simp [point?, Nat.mul_succ]

theorem isSome_point? {numbers : List β} {i : Nat} (hi : i < numbers.length / 3) :
    ∃ p, point? numbers i = some p := by
  rw [← length_triples] at hi
  exact ⟨_, (getElem?_triples numbers i).symm.trans (List.getElem?_eq_getElem hi)⟩

end Triples

/-! ### Faces -/

/-- Every third of the vertices that have two behind them, with these two. -/
def steppedFaces (vertexCount : Nat) : List (Vec3 Nat) :=
  (List.range' 0 ((vertexCount - 2 + 2) / 3) 3).map fun first ↦ ⟨first, first + 1, first + 2⟩

/-- The faces that normals are asked for. -/
def requestedFaces (vertexCount : Nat) : Option (List UInt32) → List (Vec3 Nat)
  | some indices => triples (indices.map UInt32.toNat)
  | none => steppedFaces vertexCount

theorem triples_range' (start count : Nat) :
    triples (List.range' start count) =
      (List.range' start ((count - 2 + 2) / 3) 3).map fun first ↦
        ⟨first, first + 1, first + 2⟩ := by
  match count with
  | 0 | 1 | 2 => rfl
  | count + 3 =>
    have hsteps : (count + 3 - 2 + 2) / 3 = (count - 2 + 2) / 3 + 1 := by omega
    rw [hsteps, List.range'_succ, List.range'_succ, List.range'_succ, List.range'_succ, triples,
      triples_range' (start + 3) count]
    rfl

theorem triples_range (count : Nat) : triples (List.range count) = steppedFaces count := by
  rw [List.range_eq_range', triples_range', steppedFaces]

/-- The corners of a face are visited one by one. -/
theorem replicate_count_toList {β : Type} (face : Vec3 Nat) (vertex : Nat) (share : β) :
    List.replicate (face.toList.count vertex) share =
      List.replicate ([face.x].count vertex) share ++
        (List.replicate ([face.y].count vertex) share ++
          List.replicate ([face.z].count vertex) share) := by
  have hcorners : face.toList = [face.x] ++ ([face.y] ++ [face.z]) := rfl
  rw [hcorners, List.count_append, List.count_append, List.replicate_add, List.replicate_add]

theorem triples_corners (vertexCount : Nat) (indices : Option (List UInt32)) :
    triples ((indices.map (·.map UInt32.toNat)).getD (List.range vertexCount)) =
      requestedFaces vertexCount indices := by
  cases indices with
  | none => exact triples_range vertexCount
  | some indices => rfl

/-! ### Faces around a vertex -/

variable {α : Type} [Scalar α]

/-- The normal of a face, weighted by its area; there is none where a corner is no vertex. -/
def faceNormal? (positions : List α) (face : Vec3 Nat) : Option (Vec3 α) := do
  let a ← point? positions face.x
  let b ← point? positions face.y
  let c ← point? positions face.z
  return (b - a).cross (c - a)

/-- What a face adds at a vertex: its normal, once for each corner there. -/
def shares (positions : List α) (vertex : Nat) (face : Vec3 Nat) : List (Vec3 α) :=
  (faceNormal? positions face).toList.flatMap (List.replicate (face.toList.count vertex))

/-- The normals of the vertices, each from the faces around it. -/
def collectedNormals (positions : List α) (faces : List (Vec3 Nat)) : List α :=
  (List.range (positions.length / 3)).flatMap fun vertex ↦
    (Vec3.sum (faces.flatMap (shares positions vertex))).normalizeOrZero.toList

theorem addFace_eq (positions : List α) (sums : Array (Vec3 α)) (face : Vec3 Nat) :
    addFace (triples positions).toArray sums face =
      match faceNormal? positions face with
      | some normal =>
        ((sums.modify face.x (· + normal)).modify face.y (· + normal)).modify face.z (· + normal)
      | none => sums := by
  simp only [addFace, faceNormal?, List.getElem?_toArray, getElem?_triples]
  cases point? positions face.x <;> cases point? positions face.y <;>
    cases point? positions face.z <;> rfl

theorem getElem?_modify_add (sums : Array (Vec3 α)) (i vertex : Nat) (normal : Vec3 α) :
    (sums.modify i (· + normal))[vertex]? =
      sums[vertex]?.map ((List.replicate ([i].count vertex) normal).foldl (· + ·)) := by
  by_cases hi : i = vertex
  · subst hi
    simp [Array.getElem?_modify]
  · simp [Array.getElem?_modify, hi]

theorem getElem?_addFace (positions : List α) (sums : Array (Vec3 α)) (face : Vec3 Nat)
    (vertex : Nat) :
    (addFace (triples positions).toArray sums face)[vertex]? =
      sums[vertex]?.map ((shares positions vertex face).foldl (· + ·)) := by
  rw [addFace_eq, shares]
  cases faceNormal? positions face with
  | none => simp
  | some normal =>
    simp only [getElem?_modify_add, Option.map_map, Option.toList_some, List.flatMap_singleton,
      replicate_count_toList, List.foldl_append]
    rfl

theorem getElem?_foldl_addFace (positions : List α) (faces : List (Vec3 Nat))
    (sums : Array (Vec3 α)) (vertex : Nat) :
    (faces.foldl (addFace (triples positions).toArray) sums)[vertex]? =
      sums[vertex]?.map ((faces.flatMap (shares positions vertex)).foldl (· + ·)) := by
  induction faces generalizing sums with
  | nil => simp
  | cons face rest ih =>
    rw [List.foldl_cons, ih, getElem?_addFace, Option.map_map, List.flatMap_cons]
    congr 1
    funext sum
    exact List.foldl_append.symm

theorem toList_foldl_addFace (positions : List α) (faces : List (Vec3 Nat)) :
    (faces.foldl (addFace (triples positions).toArray)
      (Array.replicate (positions.length / 3) .zero)).toList =
      (List.range (positions.length / 3)).map fun vertex ↦
        Vec3.sum (faces.flatMap (shares positions vertex)) := by
  refine List.ext_getElem? fun vertex ↦ ?_
  rw [Array.getElem?_toList, getElem?_foldl_addFace, Array.getElem?_replicate, List.getElem?_map]
  by_cases hvertex : vertex < positions.length / 3
  · rw [if_pos hvertex, List.getElem?_range hvertex]
    rfl
  · rw [if_neg hvertex, List.getElem?_eq_none (by simpa using hvertex)]
    rfl

/-- Going through the faces leaves at every vertex what it collects from them. -/
theorem vertexNormals_eq_collected (positions : List α) (indices : Option (List UInt32)) :
    vertexNormals positions indices =
      collectedNormals positions (requestedFaces (positions.length / 3) indices) := by
  rw [vertexNormals, size_toArray_triples, triples_corners, toList_foldl_addFace, List.flatMap_map,
    collectedNormals]

/-! ### Reads and writes -/

/-- Adds to the sum at a place; fails where there is none. -/
def addAt? (normal : Vec3 α) (sums : Array (Vec3 α)) (i : Nat) : Option (Array (Vec3 α)) :=
  if i < sums.size then some (sums.modify i (· + normal)) else none

/-- Adds the normal of a face to its corners, if they are vertices; fails where a number that is
read or a sum that is written is missing. -/
def addFace? (positions : List α) (sums : Array (Vec3 α)) (face : Vec3 Nat) :
    Option (Array (Vec3 α)) :=
  if face.within (positions.length / 3) then do
    let normal ← faceNormal? positions face
    face.toList.foldlM (addAt? normal) sums
  else some sums

/-- The normals of the vertices, if nothing that is read or written is missing. -/
def vertexNormals? (positions : List α) (indices : Option (List UInt32)) : Option (List α) := do
  let sums ← (requestedFaces (positions.length / 3) indices).foldlM (addFace? positions)
    (Array.replicate (positions.length / 3) .zero)
  return sums.toList.flatMap fun sum ↦ sum.normalizeOrZero.toList

theorem addFace?_eq {positions : List α} {sums : Array (Vec3 α)}
    (hsums : sums.size = positions.length / 3) (face : Vec3 Nat) :
    addFace? positions sums face = some (addFace (triples positions).toArray sums face) := by
  unfold addFace?
  split
  · rename_i hwithin
    simp only [Vec3.within, Bool.and_eq_true, decide_eq_true_iff] at hwithin
    obtain ⟨⟨hx, hy⟩, hz⟩ := hwithin
    obtain ⟨a, ha⟩ := isSome_point? hx
    obtain ⟨b, hb⟩ := isSome_point? hy
    obtain ⟨c, hc⟩ := isSome_point? hz
    simp [addFace_eq, faceNormal?, ha, hb, hc, Vec3.toList, addAt?, hsums, hx, hy, hz]
  · rename_i hbeyond
    rw [addFace_of_not_within (by rw [size_toArray_triples]; simpa using hbeyond)]

theorem foldlM_addFace? {positions : List α} (faces : List (Vec3 Nat)) {sums : Array (Vec3 α)}
    (hsums : sums.size = positions.length / 3) :
    faces.foldlM (addFace? positions) sums =
      some (faces.foldl (addFace (triples positions).toArray) sums) := by
  induction faces generalizing sums with
  | nil => rfl
  | cons face rest ih =>
    have hsize := size_foldl_addFace (triples positions).toArray [face] sums
    rw [List.foldlM_cons, addFace?_eq hsums]
    exact ih (hsize.trans hsums)

/-- Nothing that is read or written is missing. -/
theorem vertexNormals?_eq (positions : List α) (indices : Option (List UInt32)) :
    vertexNormals? positions indices = some (vertexNormals positions indices) := by
  rw [vertexNormals?, foldlM_addFace? _ (by rw [Array.size_replicate]), vertexNormals,
    size_toArray_triples, triples_corners]
  rfl

/-! ### Indices that add nothing -/

section Removal

variable (positions : List α) {front back : List UInt32}

/-- The numbers of the vertices in order, as far as they make complete triples. -/
def ascendingIndices (vertexCount : Nat) : List UInt32 :=
  (List.range (3 * (vertexCount / 3))).map UInt32.ofNat

theorem vertexNormals_none (hcount : positions.length / 3 < 2 ^ 32) :
    vertexNormals positions none =
      vertexNormals positions (some (ascendingIndices (positions.length / 3))) := by
  generalize hn : positions.length / 3 = n at hcount
  have hread : (ascendingIndices n).map UInt32.toNat = List.range (3 * (n / 3)) := by
    rw [ascendingIndices, List.map_map]
    refine (List.map_congr_left fun i hi ↦ ?_).trans (List.map_id _)
    have hi : i < UInt32.size := by
      have hlist := List.mem_range.mp hi
      have hsize : UInt32.size = 2 ^ 32 := rfl
      omega
    exact UInt32.toNat_ofNat_of_lt' hi
  have hfaces : requestedFaces n (some (ascendingIndices n)) = requestedFaces n none := by
    rw [requestedFaces, requestedFaces, hread, ← triples_range, ← triples_take (List.range n),
      List.length_range, List.take_range, min_eq_left (Nat.mul_div_le n 3)]
  rw [vertexNormals_eq_collected, vertexNormals_eq_collected, hn, hfaces]

theorem vertexNormals_append_of_length_lt (hfront : 3 ∣ front.length) (hback : back.length < 3) :
    vertexNormals positions (some (front ++ back)) = vertexNormals positions (some front) := by
  rw [vertexNormals_eq, vertexNormals_eq]
  simp only [accumulatedFaces, Option.map_some, Option.getD_some, List.map_append]
  rw [triples_append_of_length_lt (by rwa [List.length_map]) (by rwa [List.length_map])]

theorem vertexNormals_append_triple (hfront : 3 ∣ front.length) {x y z : UInt32}
    (hbeyond : positions.length / 3 ≤ x.toNat ∨ positions.length / 3 ≤ y.toNat ∨
      positions.length / 3 ≤ z.toNat) :
    vertexNormals positions (some (front ++ x :: y :: z :: back)) =
      vertexNormals positions (some (front ++ back)) := by
  have houtside : ¬(⟨x.toNat, y.toNat, z.toNat⟩ : Vec3 Nat).within (positions.length / 3) := by
    simp only [Vec3.within, Bool.and_eq_true, decide_eq_true_iff]
    omega
  have hlength : 3 ∣ (front.map UInt32.toNat).length := by
    rwa [List.length_map]
  rw [vertexNormals_eq, vertexNormals_eq]
  simp only [accumulatedFaces, Option.map_some, Option.getD_some, List.map_append, List.map_cons]
  rw [triples_append hlength, triples_append hlength, triples, List.filter_append,
    List.filter_append, List.filter_cons_of_neg houtside]

end Removal

/-- Normals are generated for every vertex, from the complete triples of indices whose corners are
vertices, and from no others. Nothing that is read or written is missing on the way. -/
theorem vertexNormals_over_complete_faces (positions : List α)
    (hcount : positions.length / 3 < 2 ^ 32) :
    (∀ indices, vertexNormals? positions indices = some (vertexNormals positions indices) ∧
      (vertexNormals positions indices).length = 3 * (positions.length / 3) ∧
      vertexNormals positions indices =
        collectedNormals positions (requestedFaces (positions.length / 3) indices)) ∧
    vertexNormals positions none =
      vertexNormals positions (some (ascendingIndices (positions.length / 3))) ∧
    ∀ front back : List UInt32, 3 ∣ front.length →
      (back.length < 3 →
        vertexNormals positions (some (front ++ back)) = vertexNormals positions (some front)) ∧
      ∀ x y z : UInt32,
        (positions.length / 3 ≤ x.toNat ∨ positions.length / 3 ≤ y.toNat ∨
          positions.length / 3 ≤ z.toNat) →
        vertexNormals positions (some (front ++ x :: y :: z :: back)) =
          vertexNormals positions (some (front ++ back)) := by
  refine ⟨fun indices ↦ ?_, vertexNormals_none positions hcount, fun front back hfront ↦ ⟨?_, ?_⟩⟩
  · refine ⟨vertexNormals?_eq positions indices, ?_, vertexNormals_eq_collected positions indices⟩
    rw [length_vertexNormals, Nat.mul_comm]
  · exact vertexNormals_append_of_length_lt positions hfront
  · intro x y z hbeyond
    exact vertexNormals_append_triple positions hfront hbeyond

/-- The corners of a square, and a number that is left over. -/
def square : List Float32 := [0, 0, 0, 1, 0, 0, 0, 1, 0, 1, 1, 0, 7]

/-- The second of three faces has a corner that is no vertex, and two indices are left over. -/
theorem vertexNormals_over_complete_faces_square :
    square.length / 3 < 2 ^ 32 ∧
      vertexNormals? square (some [0, 1, 2, 0, 9, 1, 2, 1, 3, 3, 0]) =
        some (vertexNormals square (some [0, 1, 2, 0, 9, 1, 2, 1, 3, 3, 0])) ∧
      (vertexNormals square (some [0, 1, 2, 0, 9, 1, 2, 1, 3, 3, 0])).length = 12 ∧
      vertexNormals square none = vertexNormals square (some [0, 1, 2]) ∧
      vertexNormals square (some [0, 1, 2, 0, 9, 1, 2, 1, 3, 3, 0]) =
        vertexNormals square (some [0, 1, 2, 2, 1, 3]) := by
  have hcount : square.length / 3 < 2 ^ 32 := by decide
  obtain ⟨hnormals, hordered, hremoved⟩ := vertexNormals_over_complete_faces square hcount
  have hleft := (hremoved [0, 1, 2, 0, 9, 1, 2, 1, 3] [3, 0] (by decide)).1 (by decide)
  have hbeyond := (hremoved [0, 1, 2] [2, 1, 3] (by decide)).2 0 9 1 (by decide)
  obtain ⟨hreads, hlength, -⟩ := hnormals (some [0, 1, 2, 0, 9, 1, 2, 1, 3, 3, 0])
  exact ⟨hcount, hreads, hlength, hordered, hleft.trans hbeyond⟩

end SceneRenderer.Packing
