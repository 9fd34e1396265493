/-!
The arithmetic that vectors, matrices, packing and reflectance are written over. A program runs
with `Float32`, whose operations round; a law in exact arithmetic is stated for a field. Widening a
number to double precision keeps its value; narrowing one gives the nearest number of single
precision, which is infinite for a number beyond all of them.
-/

set_option autoImplicit false
set_option relaxedAutoImplicit false

namespace SceneRenderer

/-- A number type with the operations the geometry code needs. Comparisons with an undefined
value are false. -/
class Scalar (α : Type) extends Add α, Sub α, Mul α, Div α, Neg α, BEq α, LT α, LE α,
    OfScientific α where
  decLt : DecidableLT α
  decLe : DecidableLE α
  abs : α → α
  sqrt : α → α
  /-- The nearest whole number; a half goes away from zero. -/
  round : α → α
  /-- The greatest finite value. -/
  largest : α
  /-- The distance from one to the next value. -/
  epsilon : α
  isFinite : α → Bool
  ofInt8 : Int8 → α
  ofUInt16 : UInt16 → α
  /-- Drops the fraction and stays in range; an undefined value gives zero. -/
  toInt8 : α → Int8
  toUInt8 : α → UInt8
  toUInt16 : α → UInt16

namespace Scalar

variable {α : Type} [Scalar α]

instance (a b : α) : Decidable (a < b) := decLt a b

instance (a b : α) : Decidable (a ≤ b) := decLe a b

/-- The first argument when it is less, else the second. -/
def lesser (a b : α) : α := if a < b then a else b

/-- The first argument when it is greater, else the second. -/
def greater (a b : α) : α := if b < a then a else b

/-- Moves a value into an interval; an undefined value stays. -/
def clamp (x low high : α) : α :=
  let x := if x < low then low else x
  if high < x then high else x

/-- One with the sign of the argument; zero counts as positive. -/
def signOf (x : α) : α := if 0.0 ≤ x then 1.0 else -1.0

end Scalar

instance : Scalar Float32 where
  decLt := inferInstance
  decLe := inferInstance
  abs := Float32.abs
  sqrt := Float32.sqrt
  round := Float32.round
  largest := Float32.ofBits 0x7f7fffff
  epsilon := Float32.ofBits 0x34000000
  isFinite := Float32.isFinite
  ofInt8 := Int8.toFloat32
  ofUInt16 := UInt16.toFloat32
  toInt8 := Float32.toInt8
  toUInt8 := Float32.toUInt8
  toUInt16 := Float32.toUInt16

/-! ### Single and double precision -/

open Float.Model (Format UnpackedFloat)

/-- The nearest number of a format. -/
def nearest (spec : Format) : UnpackedFloat → UnpackedFloat
  | .finite sign mantissa exponent _ => .round spec sign mantissa exponent
  | x => x

def widen (x : Float32) : Float := .ofModel (.pack (nearest .binary64 x.toModel.unpack))

def narrow (x : Float) : Float32 := .ofModel (.pack (nearest .binary32 x.toModel.unpack))

end SceneRenderer
