import Mathlib.Data.List.Nodup
import SceneRenderer.Json.Codec
import SceneRenderer.Proofs.Numeric.Precision

/-!
Codecs that read back what they write. A float has to be finite for that, so that the law of a codec
is about the values all of whose floats are (`LawfulCodec`). Numbers and identities are read back,
and so are lists and what may be absent, and a record is read back if its fields are: no two of its
names clash, and a field that was written is not taken for one that is absent.
-/

set_option autoImplicit false
set_option relaxedAutoImplicit false

namespace SceneRenderer

/-! ### Floats -/

/-- A type whose values have floats in them. -/
class HasFloats (α : Type) where
  floats : α → List Float32

export HasFloats (floats)

/-- No float of a value is infinite or undefined. -/
def AllFinite {α : Type} [HasFloats α] (a : α) : Prop := ∀ x ∈ floats a, x.isFinite = true

instance {α : Type} [HasFloats α] (a : α) : Decidable (AllFinite a) :=
  inferInstanceAs (Decidable (∀ x ∈ floats a, x.isFinite = true))

/-- A type without floats. -/
class Floatless (α : Type) extends HasFloats α where
  floats := fun _ ↦ []
  floats_eq_nil : ∀ a : α, floats a = [] := by exact fun _ ↦ rfl

@[simp]
theorem AllFinite.of_floatless {α : Type} [Floatless α] (a : α) : AllFinite a := by
  rw [AllFinite, Floatless.floats_eq_nil]
  exact List.forall_mem_nil _

instance : HasFloats Float32 := ⟨fun x ↦ [x]⟩

instance : Floatless Bool := {}

instance : Floatless UInt32 := {}

instance : Floatless UInt16 := {}

instance : Floatless UInt8 := {}

instance : Floatless Int8 := {}

instance : Floatless DrawableId := {}

instance : Floatless GeometryId := {}

instance : Floatless MaterialId := {}

instance : Floatless TransformId := {}

instance : Floatless TextureId := {}

instance : HasFloats (Vec3 Float32) := ⟨Vec3.toList⟩

instance : HasFloats (Mat3 Float32) := ⟨Mat3.toList⟩

instance : HasFloats (Mat4 Float32) := ⟨Mat4.toList⟩

section

variable {α : Type} [HasFloats α]

instance : HasFloats (List α) := ⟨List.flatMap floats⟩

instance : HasFloats (Option α) := ⟨fun o ↦ floats o.toList⟩

theorem allFinite_list {l : List α} : AllFinite l ↔ ∀ a ∈ l, AllFinite a := by
  simp only [AllFinite, floats, List.mem_flatMap]
  exact ⟨fun h a ha x hx ↦ h x ⟨a, ha, hx⟩, fun h x ⟨a, ha, hx⟩ ↦ h a ha x hx⟩

theorem AllFinite.some {a : α} (h : AllFinite (some a)) : AllFinite a :=
  allFinite_list.mp h a (List.mem_singleton_self a)

end

@[simp]
theorem AllFinite.list_of_floatless {α : Type} [Floatless α] (l : List α) : AllFinite l :=
  allFinite_list.mpr fun a _ ↦ .of_floatless a

@[simp]
theorem AllFinite.option_of_floatless {α : Type} [Floatless α] (o : Option α) : AllFinite o :=
  AllFinite.list_of_floatless o.toList

/-! ### Objects -/

namespace Json

theorem isReadable_array {items : List Json} :
    (array items).isReadable = true ↔ ∀ j ∈ items, j.isReadable = true := by
  rw [isReadable]
  induction items with
  | nil => simp [itemsReadable]
  | cons first rest ih => rw [itemsReadable, Bool.and_eq_true, List.forall_mem_cons, ih]

theorem isReadable_object {fields : List (String × Json)} :
    (object fields).isReadable = true ↔ ∀ f ∈ fields, f.2.isReadable = true := by
  rw [isReadable]
  induction fields with
  | nil => simp [fieldsReadable]
  | cons first rest ih => rw [fieldsReadable, Bool.and_eq_true, List.forall_mem_cons, ih]

end Json

namespace Codec

variable {fields named : List (String × Json)} {names : List String} {name : String} {j : Json}

/-- A field of an object whose names are distinct is found, and found once. -/
theorem lookup_of_mem (hdistinct : (fields.map (·.1)).Nodup) (hmem : (name, j) ∈ fields) :
    fields.lookup name = some j ∧ (fields.filter fun f ↦ f.1 == name).length ≤ 1 := by
  constructor
  · obtain ⟨before, after, rfl⟩ := List.append_of_mem hmem
    refine List.lookup_eq_some_iff.mpr ⟨before, after, rfl, fun f hf ↦ ?_⟩
    rw [List.map_append, List.map_cons] at hdistinct
    have hother := List.disjoint_of_nodup_append hdistinct (List.mem_map_of_mem hf)
    exact bne_iff_ne.mpr fun heq ↦ hother (heq ▸ List.mem_cons_self)
  · have honce := List.nodup_iff_count_le_one.mp hdistinct name
    rwa [List.count_eq_countP, List.countP_map, List.countP_eq_length_filter] at honce

/-- Fields of an object whose names are distinct are read, whatever other fields there are. -/
theorem fields?_of_subset (hdistinct : (fields.map (·.1)).Nodup) (hnames : names = named.map (·.1))
    (hnamed : named ⊆ fields) :
    fields? names (.object fields) = some (named.map fun f ↦ some f.2) := by
  subst hnames
  have hlookup := fun f (hf : f ∈ named) ↦ lookup_of_mem hdistinct (hnamed hf)
  have honce : ((named.map (·.1)).all fun n ↦
      decide ((fields.filter fun f ↦ f.1 == n).length ≤ 1)) = true := by
    rw [List.all_map, List.all_eq_true]
    exact fun f hf ↦ decide_eq_true (hlookup f hf).2
  rw [fields?, if_pos honce, List.map_map]
  exact congrArg some (List.map_congr_left fun f hf ↦ (hlookup f hf).1)

/-- The fields of a record, read from the object of these fields. -/
theorem fields?_object (hnames : names = fields.map (·.1)) (hdistinct : names.Nodup) :
    fields? names (.object fields) = some (fields.map fun f ↦ some f.2) :=
  fields?_of_subset (hnames ▸ hdistinct) hnames (List.Subset.refl fields)

theorem isReadable_tagged {tag : String} (hreadable : ∀ f ∈ fields, f.2.isReadable = true) :
    (tagged name tag fields).isReadable = true :=
  Json.isReadable_object.mpr (List.forall_mem_cons.mpr ⟨rfl, hreadable⟩)

/-- The tag that was put before fields is split off them. -/
theorem splitTag_tagged {tag : String} (hreadable : ∀ f ∈ fields, f.2.isReadable = true)
    (hother : name ∉ fields.map (·.1)) :
    splitTag name (tagged name tag fields) = some (.string tag, .object fields) := by
  have hall : (tagged name tag fields).isReadable = true := isReadable_tagged hreadable
  have hne : ∀ f ∈ fields, f.1 ≠ name := fun f hf heq ↦ hother (heq ▸ List.mem_map_of_mem hf)
  have htag : ((name, .string tag) :: fields).filter (fun f ↦ f.1 == name) =
      [(name, .string tag)] := by
    rw [List.filter_cons_of_pos (by simp),
      List.filter_eq_nil_iff.mpr fun f hf ↦ by simpa using hne f hf]
  have hrest : ((name, .string tag) :: fields).filter (fun f ↦ f.1 != name) = fields := by
    rw [List.filter_cons_of_neg (by simp),
      List.filter_eq_self.mpr fun f hf ↦ by simpa using hne f hf]
  unfold splitTag
  rw [if_pos hall]
  simp only [tagged, htag, hrest]

end Codec

/-! ### The law -/

/-- A codec that reads back what it writes, if all floats in it are finite. -/
class LawfulCodec (α : Type) [Codec α] [HasFloats α] : Prop where
  read_write : ∀ {a : α}, AllFinite a → read (write a) = some a
  readable : ∀ a : α, (write a).isReadable = true

/-- A codec that never writes null. -/
class NeverNull (α : Type) [Codec α] : Prop where
  ne_null : ∀ a : α, write a ≠ .null

attribute [simp] LawfulCodec.readable

namespace Codec

variable {α : Type} [Codec α] [HasFloats α] [LawfulCodec α] {a : α}

@[simp]
theorem required_write (ha : AllFinite a) : required (some (write a)) = some a :=
  LawfulCodec.read_write ha

@[simp]
theorem orElse_write (standard : α) (ha : AllFinite a) :
    orElse standard (some (write a)) = some a := LawfulCodec.read_write ha

@[simp]
theorem orElseBy_write (standard : α) (ha : AllFinite a) :
    orElseBy read standard (some (write a)) = some a := LawfulCodec.read_write ha

theorem map_read {β : Type} (f : α → β) (ha : AllFinite a) :
    (read (write a)).map f = some (f a) := by
  rw [LawfulCodec.read_write ha, Option.map_some]

/-- What is not null is read as a value that is there. -/
theorem readNullable_of_ne_null {α : Type} {read : Json → Option α} {j : Json} (hj : j ≠ .null) :
    readNullable read j = (read j).map some := by
  cases j <;> first | rfl | exact absurd rfl hj

end Codec

instance {α : Type} [Codec α] [HasFloats α] [LawfulCodec α] : LawfulCodec (List α) where
  read_write {l} hl := by
    show (l.map write).mapM read = some l
    rw [allFinite_list] at hl
    induction l with
    | nil => rfl
    | cons a rest ih =>
      obtain ⟨ha, hrest⟩ := List.forall_mem_cons.mp hl
      rw [List.map_cons, List.mapM_cons, LawfulCodec.read_write ha, ih hrest]
      rfl
  readable l := by
    refine Json.isReadable_array.mpr fun j hj ↦ ?_
    obtain ⟨a, -, rfl⟩ := List.mem_map.mp hj
    exact LawfulCodec.readable a

instance {α : Type} [Codec α] [HasFloats α] [LawfulCodec α] [NeverNull α] :
    LawfulCodec (Option α) where
  read_write {o} ho := by
    cases o with
    | none => rfl
    | some a =>
      have hread : Codec.readNullable read (write a) = (read (write a) : Option α).map some :=
        Codec.readNullable_of_ne_null (NeverNull.ne_null a)
      exact hread.trans (congrArg (Option.map some) (LawfulCodec.read_write ho.some))
  readable o := by
    cases o with
    | none => rfl
    | some a => exact LawfulCodec.readable a

/-! ### Numbers and identities -/

open Codec

instance : LawfulCodec Bool := ⟨fun _ ↦ rfl, fun _ ↦ rfl⟩

theorem Codec.integer?_natCast {n high : Nat} (hn : n ≤ high) :
    integer? 0 high (.integer n) = some (n : Int) :=
  if_pos ⟨Int.natCast_nonneg n, Int.ofNat_le.mpr hn⟩

instance : LawfulCodec UInt32 where
  read_write {w} _ := by
    show (integer? 0 (0xffffffff : Nat) (.integer w.toNat)).map _ = some w
    rw [integer?_natCast (Nat.le_of_lt_succ w.toNat_lt)]
    simp
  readable _ := rfl

instance : LawfulCodec UInt16 where
  read_write {w} _ := by
    show (integer? 0 (0xffff : Nat) (.integer w.toNat)).map _ = some w
    rw [integer?_natCast (Nat.le_of_lt_succ w.toNat_lt)]
    simp
  readable _ := rfl

instance : LawfulCodec UInt8 where
  read_write {w} _ := by
    show (integer? 0 (0xff : Nat) (.integer w.toNat)).map _ = some w
    rw [integer?_natCast (Nat.le_of_lt_succ w.toNat_lt)]
    simp
  readable _ := rfl

instance : LawfulCodec Int8 where
  read_write {w} _ := by
    have hrange : -0x80 ≤ w.toInt ∧ w.toInt ≤ 0x7f := ⟨w.le_toInt, Int.le_of_lt_add_one w.toInt_lt⟩
    show (if _ then some w.toInt else none).map Int8.ofInt = some w
    rw [if_pos hrange, Option.map_some, Int8.ofInt_toInt]
  readable _ := rfl

instance : LawfulCodec Float32 where
  read_write {x} hx := by
    have hfinite : x.isFinite = true := hx x (List.mem_singleton_self x)
    show read (if x.isFinite then Json.float (widen x) else .null) = some x
    rw [if_pos hfinite]
    exact congrArg some (narrow_widen hfinite)
  readable x := by
    show (if x.isFinite then Json.float (widen x) else .null).isReadable = true
    split <;> rfl

instance : LawfulCodec DrawableId := ⟨fun _ ↦ map_read DrawableId.mk (.of_floatless _), fun _ ↦ rfl⟩

instance : LawfulCodec GeometryId := ⟨fun _ ↦ map_read GeometryId.mk (.of_floatless _), fun _ ↦ rfl⟩

instance : LawfulCodec MaterialId := ⟨fun _ ↦ map_read MaterialId.mk (.of_floatless _), fun _ ↦ rfl⟩

instance : LawfulCodec TransformId :=
  ⟨fun _ ↦ map_read TransformId.mk (.of_floatless _), fun _ ↦ rfl⟩

instance : LawfulCodec TextureId := ⟨fun _ ↦ map_read TextureId.mk (.of_floatless _), fun _ ↦ rfl⟩

/-! ### Vectors and matrices -/

theorem Codec.read_floats {l : List Float32} (hl : ∀ x ∈ l, x.isFinite = true) :
    read (write l) = some l :=
  LawfulCodec.read_write (allFinite_list.mpr fun x hx ↦ List.forall_mem_singleton.mpr (hl x hx))

instance : LawfulCodec (Vec3 Float32) where
  read_write hv := congrArg (·.bind Vec3.ofList?) (read_floats hv)
  readable v := LawfulCodec.readable v.toList

instance : LawfulCodec (Mat3 Float32) where
  read_write hm := congrArg (·.bind Mat3.ofList?) (read_floats hm)
  readable m := LawfulCodec.readable m.toList

instance : LawfulCodec (Mat4 Float32) where
  read_write hm := congrArg (·.bind Mat4.ofList?) (read_floats hm)
  readable m := LawfulCodec.readable m.toList

/-! ### What is not null -/

instance : NeverNull TextureId := ⟨fun _ ↦ nofun⟩

instance : NeverNull (Mat3 Float32) := ⟨fun _ ↦ nofun⟩

instance : NeverNull (Mat4 Float32) := ⟨fun _ ↦ nofun⟩

end SceneRenderer
