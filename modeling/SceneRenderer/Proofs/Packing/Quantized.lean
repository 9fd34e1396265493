import SceneRenderer.Packing.Quantized
import SceneRenderer.Proofs.Frame.AttributeBuffers
import SceneRenderer.Proofs.Numeric.Exact

/-!
Quantized coordinates lead back to the box they were taken from. The corners of the box are the
least and the greatest value on each axis (`isLeast_foldl_lesser`, `isGreatest_foldl_greater`), so
that every value lies between two of the 65535 steps of its axis, and rounding goes to the nearer
one (`abs_sub_step_le`).

The main statement is `quantize_keeps_axes`. It is about numbers in the range of those that are
stored.
-/

set_option autoImplicit false
set_option relaxedAutoImplicit false

namespace SceneRenderer.Packing

/-! ### The ends of an axis -/

section Ends

variable {values : List ℚ} {start : ℚ} (hsome : values ≠ [])

include hsome

theorem isLeast_foldl_lesser (hstart : ∀ v ∈ values, v ≤ start) :
    IsLeast {v | v ∈ values} (values.foldl Scalar.lesser start) := by
  obtain ⟨low, hlow⟩ := Option.isSome_iff_exists.mp (List.isSome_min?_of_ne_nil hsome)
  obtain ⟨hmem, hle⟩ := List.min?_eq_some_iff.mp hlow
  have hfold : values.foldl Scalar.lesser start = low := by
    rw [funext₂ (Scalar.exact_lesser Rat.sqrt), List.foldl_min, hlow, Option.getD_some,
      min_eq_right (hstart low hmem)]
  rw [hfold]
  exact ⟨hmem, hle⟩

theorem isGreatest_foldl_greater (hstart : ∀ v ∈ values, start ≤ v) :
    IsGreatest {v | v ∈ values} (values.foldl Scalar.greater start) := by
  obtain ⟨high, hhigh⟩ := Option.isSome_iff_exists.mp (List.isSome_max?_of_ne_nil hsome)
  obtain ⟨hmem, hle⟩ := List.max?_eq_some_iff.mp hhigh
  have hfold : values.foldl Scalar.greater start = high := by
    rw [funext₂ (Scalar.exact_greater Rat.sqrt), List.foldl_max, hhigh, Option.getD_some,
      max_eq_right (hstart high hmem)]
  rw [hfold]
  exact ⟨hmem, hle⟩

end Ends

/-! ### Steps -/

theorem clamp_of_within {x low high : ℚ} (hlow : low ≤ x) (hhigh : x ≤ high) :
    Scalar.clamp x low high = x := by
  simp [Scalar.clamp, not_lt.mpr hlow, not_lt.mpr hhigh]

/-- Whole numbers that fit a word are stored as they are. -/
theorem toNat_toUInt16_natCast {n : ℕ} (hn : n ≤ 65535) :
    (Scalar.toUInt16 (n : ℚ)).toNat = n := by
  have htruncate : Scalar.truncate (n : ℚ) = n := by
    rw [Scalar.truncate, if_pos n.cast_nonneg, Int.floor_natCast]
  change (UInt16.ofNat (min (Scalar.truncate (n : ℚ)).toNat 65535)).toNat = n
  rw [htruncate, Int.toNat_natCast, min_eq_left hn,
    UInt16.toNat_ofNat_of_lt' (Nat.lt_succ_of_le hn)]

/-- A place from the first to the last step is rounded to the nearest of them. -/
theorem toNat_rounded {t : ℚ} (hnonneg : 0 ≤ t) (hle : t ≤ 65535) :
    (Scalar.toUInt16 (Scalar.clamp (Scalar.round t) 0 65535)).toNat = ⌊t + 1 / 2⌋₊ := by
  have hround : Scalar.round t = (⌊t + 1 / 2⌋₊ : ℚ) := by
    change ((Scalar.roundAway t : ℤ) : ℚ) = _
    rw [Scalar.roundAway, if_pos hnonneg, natCast_floor_eq_intCast_floor (by linarith)]
  have hlast : ⌊t + 1 / 2⌋₊ ≤ 65535 :=
    Nat.lt_succ_iff.mp ((Nat.floor_lt (by linarith)).mpr (by norm_num; linarith))
  rw [hround, clamp_of_within (Nat.cast_nonneg _) (by exact_mod_cast hlast),
    toNat_toUInt16_natCast hlast]

theorem abs_floor_sub_le {t : ℚ} (hnonneg : 0 ≤ t) : |(⌊t + 1 / 2⌋₊ : ℚ) - t| ≤ 1 / 2 := by
  have hbelow := Nat.floor_le (by linarith : 0 ≤ t + 1 / 2)
  have habove := Nat.lt_floor_add_one (t + 1 / 2)
  rw [abs_le]
  constructor <;> linarith

section Step

variable {low high v w : ℚ}

/-- Where a value lies on an axis, in steps. -/
def place (v low extent : ℚ) : ℚ := (v - low) / extent * 65535

theorem place_nonneg (hlow : low ≤ v) (hhigh : v ≤ high) : 0 ≤ place v low (high - low) := by
  have hdistance := sub_nonneg.mpr hlow
  have hextent := sub_nonneg.mpr (hlow.trans hhigh)
  unfold place
  positivity

theorem place_le (hlow : low ≤ v) (hhigh : v ≤ high) : place v low (high - low) ≤ 65535 := by
  have hfraction : (v - low) / (high - low) ≤ 1 :=
    div_le_one_of_le₀ (by linarith) (by linarith)
  unfold place
  linarith

theorem toNat_step (hextent : low < high) (hlow : low ≤ v) (hhigh : v ≤ high) :
    (step v low (high - low)).toNat = ⌊place v low (high - low) + 1 / 2⌋₊ := by
  have hpositive : ¬high - low ≤ 0 := not_le.mpr (sub_pos.mpr hextent)
  rw [step]
  simp only [Scalar.exact_zero, Scalar.exact_steps, hpositive, if_false]
  exact toNat_rounded (place_nonneg hlow hhigh) (place_le hlow hhigh)

theorem toNat_step_flat (v low : ℚ) : (step v low (low - low)).toNat = 0 := by
  simp [step]

/-- Half a step is the most that is lost. -/
theorem abs_sub_step_le (hlow : low ≤ v) (hhigh : v ≤ high) :
    |low + (step v low (high - low)).toNat * ((high - low) / 65535) - v| ≤
      (high - low) / (2 * 65535) := by
  rcases (hlow.trans hhigh).eq_or_lt with rfl | hextent
  · rw [le_antisymm hhigh hlow]
    simp
  · have hpositive := sub_pos.mpr hextent
    have hplace : v - low = (high - low) / 65535 * place v low (high - low) := by
      unfold place
      field_simp
    rw [toNat_step hextent hlow hhigh]
    calc |low + ⌊place v low (high - low) + 1 / 2⌋₊ * ((high - low) / 65535) - v|
        = |(high - low) / 65535 *
            (⌊place v low (high - low) + 1 / 2⌋₊ - place v low (high - low))| := by
          rw [mul_sub, ← hplace]
          congr 1
          ring
      _ = (high - low) / 65535 *
            |⌊place v low (high - low) + 1 / 2⌋₊ - place v low (high - low)| := by
          rw [abs_mul, abs_of_pos (by positivity)]
      _ ≤ (high - low) / 65535 * (1 / 2) :=
          mul_le_mul_of_nonneg_left (abs_floor_sub_le (place_nonneg hlow hhigh)) (by positivity)
      _ = (high - low) / (2 * 65535) := by ring

theorem step_le_step (hlow : low ≤ v) (hle : v ≤ w) (hhigh : w ≤ high) :
    step v low (high - low) ≤ step w low (high - low) := by
  rw [UInt16.le_iff_toNat_le]
  rcases ((hlow.trans hle).trans hhigh).eq_or_lt with rfl | hextent
  · rw [toNat_step_flat, toNat_step_flat]
  · have hpositive := sub_pos.mpr hextent
    rw [toNat_step hextent hlow (hle.trans hhigh), toNat_step hextent (hlow.trans hle) hhigh]
    unfold place
    gcongr

end Step

/-! ### Axes -/

/-- The steps of the values on an axis lead back to the values: within half a step, exactly where
all values are the same, and in their order. -/
structure KeepsAxis (values : List ℚ) (steps : List UInt16) (decoded : List ℚ) : Prop where
  counted : steps.length = values.length
  near {low high : ℚ} : IsLeast {v | v ∈ values} low → IsGreatest {v | v ∈ values} high →
    List.Forall₂ (fun v d ↦ |d - v| ≤ (high - low) / (2 * 65535)) values decoded
  flat {low : ℚ} : IsLeast {v | v ∈ values} low → IsGreatest {v | v ∈ values} low → decoded = values
  ordered : ∀ p ∈ values.zip steps, ∀ q ∈ values.zip steps, p.1 ≤ q.1 → p.2 ≤ q.2

theorem keepsAxis_nil : KeepsAxis [] [] [] where
  counted := rfl
  near _ _ := .nil
  flat _ _ := rfl
  ordered _ hp := absurd hp List.not_mem_nil

theorem keepsAxis_step {values : List ℚ} {low high : ℚ} (hlow : IsLeast {v | v ∈ values} low)
    (hhigh : IsGreatest {v | v ∈ values} high) :
    KeepsAxis values (values.map (step · low (high - low)))
      (values.map fun v ↦ low + (step v low (high - low)).toNat * ((high - low) / 65535)) where
  counted := List.length_map _
  near hleast hgreatest := by
    obtain rfl := hleast.unique hlow
    obtain rfl := hgreatest.unique hhigh
    rw [List.forall₂_map_right_iff, List.forall₂_same]
    exact fun v hv ↦ abs_sub_step_le (hlow.2 hv) (hhigh.2 hv)
  flat hleast hgreatest := by
    obtain rfl := hleast.unique hlow
    obtain rfl := hgreatest.unique hhigh
    refine (List.map_congr_left fun v hv ↦ ?_).trans (List.map_id values)
    rw [sub_self, zero_div, mul_zero, add_zero]
    exact le_antisymm (hlow.2 hv) (hhigh.2 hv)
  ordered p hp q hq hle := by
    have hpairs : values.zip (values.map (step · low (high - low))) =
        values.map fun v ↦ (v, step v low (high - low)) := by
      simpa using List.zip_map' (f := id) (g := (step · low (high - low))) (l := values)
    rw [hpairs] at hp hq
    obtain ⟨v, hv, rfl⟩ := List.mem_map.mp hp
    obtain ⟨w, hw, rfl⟩ := List.mem_map.mp hq
    exact step_le_step (hlow.2 hv) hle (hhigh.2 hw)

/-- The least value on an axis, as the box is found. -/
def lowEnd (values : List ℚ) : ℚ := values.foldl Scalar.lesser Scalar.largest

/-- The greatest value on an axis, as the box is found. -/
def highEnd (values : List ℚ) : ℚ := values.foldl Scalar.greater (-Scalar.largest)

/-- The step of a value between the ends of its axis. -/
def axisStep (values : List ℚ) (v : ℚ) : UInt16 :=
  step v (lowEnd values) (highEnd values - lowEnd values)

/-- Where a step lies between the ends of an axis. -/
def axisValue (values : List ℚ) (s : UInt16) : ℚ :=
  lowEnd values + s.toNat * ((highEnd values - lowEnd values) / 65535)

theorem keepsAxis_ends {values : List ℚ} (hsome : values ≠ [])
    (hrange : ∀ v ∈ values, |v| ≤ Scalar.largest) :
    KeepsAxis values (values.map (axisStep values))
      (values.map fun v ↦ axisValue values (axisStep values v)) :=
  keepsAxis_step (isLeast_foldl_lesser hsome fun v hv ↦ (abs_le.mp (hrange v hv)).2)
    (isGreatest_foldl_greater hsome fun v hv ↦ (abs_le.mp (hrange v hv)).1)

/-- The values that points have on an axis. -/
theorem keepsAxis_points {β : Type} {points : List β} (axis : β → ℚ) (hsome : points ≠ [])
    (hrange : ∀ p ∈ points, |axis p| ≤ Scalar.largest) :
    KeepsAxis (points.map axis) (points.map fun p ↦ axisStep (points.map axis) (axis p))
      (points.map fun p ↦ axisValue (points.map axis) (axisStep (points.map axis) (axis p))) := by
  have hends := keepsAxis_ends (by simpa using hsome) (List.forall_mem_map.mpr hrange)
  rwa [List.map_map, List.map_map] at hends

/-! ### Boxes -/

theorem bounds3_eq (points : List (Vec3 ℚ)) :
    bounds3 points =
      (⟨lowEnd (points.map Vec3.x), lowEnd (points.map Vec3.y), lowEnd (points.map Vec3.z)⟩,
      ⟨highEnd (points.map Vec3.x), highEnd (points.map Vec3.y), highEnd (points.map Vec3.z)⟩) := by
  have hfold (low high : Vec3 ℚ) :
      points.foldl (fun box p ↦ (box.1.lesser p, box.2.greater p)) (low, high) =
        (⟨(points.map Vec3.x).foldl Scalar.lesser low.x,
          (points.map Vec3.y).foldl Scalar.lesser low.y,
          (points.map Vec3.z).foldl Scalar.lesser low.z⟩,
        ⟨(points.map Vec3.x).foldl Scalar.greater high.x,
          (points.map Vec3.y).foldl Scalar.greater high.y,
          (points.map Vec3.z).foldl Scalar.greater high.z⟩) := by
    induction points generalizing low high with
    | nil => rfl
    | cons p rest ih => exact ih (low.lesser p) (high.greater p)
  exact hfold _ _

theorem bounds2_eq (points : List (Vec2 ℚ)) :
    bounds2 points =
      (⟨lowEnd (points.map Vec2.x), lowEnd (points.map Vec2.y)⟩,
      ⟨highEnd (points.map Vec2.x), highEnd (points.map Vec2.y)⟩) := by
  have hfold (low high : Vec2 ℚ) :
      points.foldl (fun box p ↦ (box.1.lesser p, box.2.greater p)) (low, high) =
        (⟨(points.map Vec2.x).foldl Scalar.lesser low.x,
          (points.map Vec2.y).foldl Scalar.lesser low.y⟩,
        ⟨(points.map Vec2.x).foldl Scalar.greater high.x,
          (points.map Vec2.y).foldl Scalar.greater high.y⟩) := by
    induction points generalizing low high with
    | nil => rfl
    | cons p rest ih => exact ih (low.lesser p) (high.greater p)
  exact hfold _ _

/-- The decoding matrix reads a step on each axis. -/
theorem transformPoint_decode3 (low scale p : Vec3 ℚ) :
    ((Mat4.displacement low).mul (.scaling scale)).transformPoint p =
      ⟨low.x + p.x * scale.x, low.y + p.y * scale.y, low.z + p.z * scale.z⟩ := by
  simp [Mat4.displacement, Mat4.scaling, Mat4.mul, Mat4.mulVec, Mat4.transformPoint, Vec4.scale,
    mul_comm]

theorem transformPoint_decode2 (low scale p : Vec2 ℚ) :
    ((Mat3.displacement low).mul (.scaling scale)).transformPoint p =
      ⟨low.x + p.x * scale.x, low.y + p.y * scale.y⟩ := by
  simp [Mat3.displacement, Mat3.scaling, Mat3.mul, Mat3.mulVec, Mat3.transformPoint, Vec3.scale,
    mul_comm, add_comm]

/-! ### Quantized arrays -/

theorem triples_flatMap {β γ : Type} (l : List β) (f g h : β → γ) :
    triples (l.flatMap fun b ↦ [f b, g b, h b]) = l.map fun b ↦ ⟨f b, g b, h b⟩ := by
  induction l with
  | nil => rfl
  | cons b rest ih => exact congrArg (⟨f b, g b, h b⟩ :: ·) ih

theorem pairs_flatMap {β γ : Type} (l : List β) (f g : β → γ) :
    pairs (l.flatMap fun b ↦ [f b, g b]) = l.map fun b ↦ ⟨f b, g b⟩ := by
  induction l with
  | nil => rfl
  | cons b rest ih => exact congrArg (⟨f b, g b⟩ :: ·) ih

/-- The position that is read from a triple of steps. -/
def readPosition (m : Mat4 ℚ) (steps : Vec3 UInt16) : Vec3 ℚ :=
  m.transformPoint ⟨Scalar.ofUInt16 steps.x, Scalar.ofUInt16 steps.y, Scalar.ofUInt16 steps.z⟩

/-- The texture coordinates that are read from a pair of steps. -/
def readUv (m : Mat3 ℚ) (steps : Vec2 UInt16) : Vec2 ℚ :=
  m.transformPoint ⟨Scalar.ofUInt16 steps.x, Scalar.ofUInt16 steps.y⟩

theorem mem_of_mem_triples {β : Type} {l : List β} {p : Vec3 β} (hp : p ∈ triples l) :
    p.x ∈ l ∧ p.y ∈ l ∧ p.z ∈ l := by
  induction l using triples.induct with
  | case1 x y z rest ih =>
    rcases List.mem_cons.mp hp with rfl | hrest
    · simp
    · obtain ⟨hx, hy, hz⟩ := ih hrest
      simp [hx, hy, hz]
  | case2 l hl =>
    rw [triples] at hp
    · exact absurd hp List.not_mem_nil
    · exact hl

theorem mem_of_mem_pairs {β : Type} {l : List β} {p : Vec2 β} (hp : p ∈ pairs l) :
    p.x ∈ l ∧ p.y ∈ l := by
  induction l using pairs.induct with
  | case1 x y rest ih =>
    rcases List.mem_cons.mp hp with rfl | hrest
    · simp
    · obtain ⟨hx, hy⟩ := ih hrest
      simp [hx, hy]
  | case2 l hl =>
    rw [pairs] at hp
    · exact absurd hp List.not_mem_nil
    · exact hl

variable {values : List ℚ}

theorem quantizePositions_of_nil (hnone : triples values = []) :
    quantizePositions values = ([], .identity) := by
  rw [quantizePositions, hnone]
  rfl

theorem quantizeUvs_of_nil (hnone : pairs values = []) :
    quantizeUvs values = ([], .identity) := by
  rw [quantizeUvs, hnone]
  rfl

/-- Each position is stored by the steps on its axes, and the matrix reads each axis for itself. -/
theorem quantizePositions_eq (hsome : triples values ≠ []) :
    (quantizePositions values).1 = (triples values).flatMap (fun p ↦
        [axisStep ((triples values).map Vec3.x) p.x, axisStep ((triples values).map Vec3.y) p.y,
          axisStep ((triples values).map Vec3.z) p.z]) ∧
      ∀ s, readPosition (quantizePositions values).2 s =
        ⟨axisValue ((triples values).map Vec3.x) s.x, axisValue ((triples values).map Vec3.y) s.y,
          axisValue ((triples values).map Vec3.z) s.z⟩ := by
  have hnone : (triples values).isEmpty = false := List.isEmpty_eq_false_iff.mpr hsome
  rw [quantizePositions]
  simp only [hnone, Bool.false_eq_true, if_false, bounds3_eq, readPosition, transformPoint_decode3,
    Vec3.mk_sub_mk, Vec3.divBy, Scalar.exact_steps]
  exact ⟨rfl, fun s ↦ rfl⟩

theorem quantizeUvs_eq (hsome : pairs values ≠ []) :
    (quantizeUvs values).1 = (pairs values).flatMap (fun p ↦
        [axisStep ((pairs values).map Vec2.x) p.x, axisStep ((pairs values).map Vec2.y) p.y]) ∧
      ∀ s, readUv (quantizeUvs values).2 s =
        ⟨axisValue ((pairs values).map Vec2.x) s.x, axisValue ((pairs values).map Vec2.y) s.y⟩ := by
  have hnone : (pairs values).isEmpty = false := List.isEmpty_eq_false_iff.mpr hsome
  rw [quantizeUvs]
  simp only [hnone, Bool.false_eq_true, if_false, bounds2_eq, readUv, transformPoint_decode2,
    Vec2.mk_sub_mk, Vec2.divBy, Scalar.exact_steps]
  exact ⟨rfl, fun s ↦ rfl⟩

/-- Steps for each complete triple of numbers, and a matrix by which they keep the three axes. -/
structure KeepsPositions (values : List ℚ) (steps : List UInt16) (m : Mat4 ℚ) : Prop where
  counted : steps.length = 3 * (values.length / 3)
  x : KeepsAxis ((triples values).map Vec3.x) ((triples steps).map Vec3.x)
    ((triples steps).map fun s ↦ (readPosition m s).x)
  y : KeepsAxis ((triples values).map Vec3.y) ((triples steps).map Vec3.y)
    ((triples steps).map fun s ↦ (readPosition m s).y)
  z : KeepsAxis ((triples values).map Vec3.z) ((triples steps).map Vec3.z)
    ((triples steps).map fun s ↦ (readPosition m s).z)

/-- Steps for each complete pair of numbers, and a matrix by which they keep the two axes. -/
structure KeepsUvs (values : List ℚ) (steps : List UInt16) (m : Mat3 ℚ) : Prop where
  counted : steps.length = 2 * (values.length / 2)
  x : KeepsAxis ((pairs values).map Vec2.x) ((pairs steps).map Vec2.x)
    ((pairs steps).map fun s ↦ (readUv m s).x)
  y : KeepsAxis ((pairs values).map Vec2.y) ((pairs steps).map Vec2.y)
    ((pairs steps).map fun s ↦ (readUv m s).y)

theorem length_pairs {β : Type} (l : List β) : (pairs l).length = l.length / 2 := by
  induction l using pairs.induct with
  | case1 x y rest ih =>
    simp only [pairs, List.length_cons, ih]
    omega
  | case2 l hl =>
    match l with
    | [] | [_] => simp [pairs]
    | x :: y :: rest => exact absurd rfl (hl x y rest)

theorem keepsPositions_quantizePositions (hrange : ∀ v ∈ values, |v| ≤ Scalar.largest) :
    KeepsPositions values (quantizePositions values).1 (quantizePositions values).2 := by
  by_cases hnone : triples values = []
  · rw [quantizePositions_of_nil hnone]
    refine ⟨?_, ?_, ?_, ?_⟩
    · rw [← length_triples, hnone]
      rfl
    all_goals
      rw [hnone]
      exact keepsAxis_nil
  · obtain ⟨hsteps, hread⟩ := quantizePositions_eq hnone
    have hpoint (p : Vec3 ℚ) (hp : p ∈ triples values) :
        |p.x| ≤ Scalar.largest ∧ |p.y| ≤ Scalar.largest ∧ |p.z| ≤ Scalar.largest := by
      obtain ⟨hx, hy, hz⟩ := mem_of_mem_triples hp
      exact ⟨hrange _ hx, hrange _ hy, hrange _ hz⟩
    refine ⟨?_, ?_, ?_, ?_⟩
    · rw [hsteps, List.length_flatMap]
      simp [length_triples, Nat.mul_comm]
    all_goals simp only [hsteps, hread, triples_flatMap, List.map_map]
    · exact keepsAxis_points Vec3.x hnone fun p hp ↦ (hpoint p hp).1
    · exact keepsAxis_points Vec3.y hnone fun p hp ↦ (hpoint p hp).2.1
    · exact keepsAxis_points Vec3.z hnone fun p hp ↦ (hpoint p hp).2.2

theorem keepsUvs_quantizeUvs (hrange : ∀ v ∈ values, |v| ≤ Scalar.largest) :
    KeepsUvs values (quantizeUvs values).1 (quantizeUvs values).2 := by
  by_cases hnone : pairs values = []
  · rw [quantizeUvs_of_nil hnone]
    refine ⟨?_, ?_, ?_⟩
    · rw [← length_pairs, hnone]
      rfl
    all_goals
      rw [hnone]
      exact keepsAxis_nil
  · obtain ⟨hsteps, hread⟩ := quantizeUvs_eq hnone
    have hpoint (p : Vec2 ℚ) (hp : p ∈ pairs values) :
        |p.x| ≤ Scalar.largest ∧ |p.y| ≤ Scalar.largest := by
      obtain ⟨hx, hy⟩ := mem_of_mem_pairs hp
      exact ⟨hrange _ hx, hrange _ hy⟩
    refine ⟨?_, ?_, ?_⟩
    · rw [hsteps, List.length_flatMap]
      simp [length_pairs, Nat.mul_comm]
    all_goals simp only [hsteps, hread, pairs_flatMap, List.map_map]
    · exact keepsAxis_points Vec2.x hnone fun p hp ↦ (hpoint p hp).1
    · exact keepsAxis_points Vec2.y hnone fun p hp ↦ (hpoint p hp).2

/-- Quantized arrays keep their axes: every value is found again within half a step of its axis,
exactly where the axis is flat, and in its order. The range is that of stored numbers
(`abs_exactValue_le`); the search for the corners starts from its ends. -/
theorem quantize_keeps_axes (values : List ℚ) (hrange : ∀ v ∈ values, |v| ≤ Scalar.largest) :
    KeepsPositions values (quantizePositions values).1 (quantizePositions values).2 ∧
      KeepsUvs values (quantizeUvs values).1 (quantizeUvs values).2 :=
  ⟨keepsPositions_quantizePositions hrange, keepsUvs_quantizeUvs hrange⟩

/-- Three points at one height, and a number that is left over. -/
def tray : List Float32 := [0, 5, -1, 1, 5, 3, 0.25, 5, 0.5, 7]

theorem quantize_keeps_axes_tray :
    (∀ v ∈ tray.map exactValue, |v| ≤ Scalar.largest) ∧
      KeepsPositions (tray.map exactValue) (quantizePositions (tray.map exactValue)).1
        (quantizePositions (tray.map exactValue)).2 ∧
      KeepsUvs (tray.map exactValue) (quantizeUvs (tray.map exactValue)).1
        (quantizeUvs (tray.map exactValue)).2 := by
  have hrange : ∀ v ∈ tray.map exactValue, |v| ≤ Scalar.largest :=
    List.forall_mem_map.mpr fun x _ ↦ abs_exactValue_le x
  exact ⟨hrange, quantize_keeps_axes _ hrange⟩

end SceneRenderer.Packing
