import SceneRenderer.Json.Basic
import SceneRenderer.Numeric.Matrix
import SceneRenderer.Numeric.Scalar
import SceneRenderer.Scene.Id

/-!
Values as JSON and back. A record is an object with its fields by name, unknown ones ignored, or an
array with its fields in order; a choice without contents is its name, or an object that gives null
under the name. For numbers that the format lacks there are words.
-/

set_option autoImplicit false
set_option relaxedAutoImplicit false

namespace SceneRenderer

/-- A type with a form in JSON. -/
class Codec (α : Type) where
  write : α → Json
  read : Json → Option α

export Codec (write read)

namespace Codec

/-- The fields of a record, in the order of their names; one that is absent is `none`. No field is
given twice, and an array has no more items than there are fields. -/
def fields? (names : List String) : Json → Option (List (Option Json))
  | .object fields =>
    if names.all fun n => (fields.filter fun f => f.1 == n).length ≤ 1 then
      some (names.map fun n => fields.lookup n)
    else none
  | .array items =>
    if items.length ≤ names.length then
      some (items.map some ++ List.replicate (names.length - items.length) none)
    else none
  | _ => none

variable {α : Type}

/-- A field that has to be there. -/
def required [Codec α] (j : Option Json) : Option α := j.bind read

/-- A field that may be absent, read by `read`. -/
def orElseBy (read : Json → Option α) (standard : α) : Option Json → Option α
  | none => some standard
  | some j => read j

/-- A field that may be absent. -/
def orElse [Codec α] (standard : α) : Option Json → Option α := orElseBy read standard

/-- A value or null. -/
def readNullable (read : Json → Option α) : Json → Option (Option α)
  | .null => some none
  | j => (read j).map some

def readList (read : Json → Option α) : Json → Option (List α)
  | .array items => items.mapM read
  | _ => none

/-- The name of a choice. -/
def choice? : Json → Option String
  | .string name => some name
  | .object [(name, .null)] => some name
  | _ => none

/-- The name of a choice in a record that was gathered before it is read. There an empty object
stands for null. -/
def gatheredChoice? : Json → Option String
  | .object [(name, .object [])] => some name
  | j => choice? j

/-- A choice among named values. -/
def readChoice (table : List (String × α)) (j : Json) : Option α :=
  (choice? j).bind fun name => table.lookup name

/-- A choice among named values in a record that was gathered before it is read. -/
def readGatheredChoice (table : List (String × α)) (j : Json) : Option α :=
  (gatheredChoice? j).bind fun name => table.lookup name

/-- An integer in a range of words. -/
def integer? (low high : Int) : Json → Option Int
  | .integer n => if low ≤ n ∧ n ≤ high then some n else none
  | _ => none

/-- The tag of a record and the rest of it: a field of an object, or the first item of an array.
The record is gathered as a whole before its tag is known, so no part of it is unreadable. -/
def splitTag (name : String) (j : Json) : Option (Json × Json) :=
  if j.isReadable then
    match j with
    | .object fields =>
      match fields.filter fun f => f.1 == name with
      | [tag] => some (tag.2, .object (fields.filter fun f => f.1 != name))
      | _ => none
    | .array (tag :: items) => some (tag, .array items)
    | _ => none
  else none

def tagged (name tag : String) (fields : List (String × Json)) : Json :=
  .object ((name, .string tag) :: fields)

end Codec

open Codec

instance : Codec Bool where
  write := .bool
  read
    | .bool b => some b
    | _ => none

instance : Codec String where
  write := .string
  read
    | .string s => some s
    | _ => none

instance : Codec UInt32 where
  write w := .integer w.toNat
  read j := (integer? 0 0xffffffff j).map fun n => UInt32.ofNat n.toNat

instance : Codec UInt16 where
  write w := .integer w.toNat
  read j := (integer? 0 0xffff j).map fun n => UInt16.ofNat n.toNat

instance : Codec UInt8 where
  write w := .integer w.toNat
  read j := (integer? 0 0xff j).map fun n => UInt8.ofNat n.toNat

instance : Codec Int8 where
  write w := .integer w.toInt
  read j := (integer? (-0x80) 0x7f j).map Int8.ofInt

/-- The nearest number of single precision; a float in the text is read in double precision
first. -/
instance : Codec Float32 where
  write x := if x.isFinite then .float (widen x) else .null
  read
    | .integer n =>
      if 0 ≤ n ∧ n < UInt64.size then some (UInt64.ofNat n.toNat).toFloat32
      else if -0x8000000000000000 ≤ n ∧ n < 0 then some (Int64.ofInt n).toFloat32
      else none
    | .float x => some (narrow x)
    | _ => none

instance {α : Type} [Codec α] : Codec (Option α) where
  write
    | none => .null
    | some a => write a
  read := readNullable read

instance {α : Type} [Codec α] : Codec (List α) where
  write l := .array (l.map write)
  read := readList read

instance : Codec (Vec3 Float32) where
  write v := write v.toList
  read j := (read j).bind Vec3.ofList?

instance : Codec (Mat3 Float32) where
  write m := write m.toList
  read j := (read j).bind Mat3.ofList?

instance : Codec (Mat4 Float32) where
  write m := write m.toList
  read j := (read j).bind Mat4.ofList?

instance : Codec DrawableId := ⟨fun id => write id.raw, fun j => (read j).map .mk⟩

instance : Codec GeometryId := ⟨fun id => write id.raw, fun j => (read j).map .mk⟩

instance : Codec MaterialId := ⟨fun id => write id.raw, fun j => (read j).map .mk⟩

instance : Codec TransformId := ⟨fun id => write id.raw, fun j => (read j).map .mk⟩

instance : Codec TextureId := ⟨fun id => write id.raw, fun j => (read j).map .mk⟩

end SceneRenderer

/-! ### Numbers that may be words -/

namespace SceneRenderer.Json

/-- The number of single precision that a value denotes, by way of double precision. -/
def number? : Json → Option Float32
  | integer n =>
    some (narrow (if 0 ≤ n then (UInt64.ofNat n.toNat).toFloat else (Int64.ofInt n).toFloat))
  | float x => some (narrow x)
  | string "nan" => some (0.0 / 0.0)
  | string "inf" => some (1.0 / 0.0)
  | string "-inf" => some (-1.0 / 0.0)
  | _ => none

end SceneRenderer.Json
