import SceneRenderer.Numeric.Scalar

/-!
Vectors of two, three and four components. Sums of products run from the first component to the
last, so that rounded results are reproducible.
-/

set_option autoImplicit false
set_option relaxedAutoImplicit false

namespace SceneRenderer

structure Vec2 (α : Type) where
  x : α
  y : α
deriving Repr, DecidableEq, Inhabited

structure Vec3 (α : Type) where
  x : α
  y : α
  z : α
deriving Repr, DecidableEq, Inhabited

structure Vec4 (α : Type) where
  x : α
  y : α
  z : α
  w : α
deriving Repr, DecidableEq, Inhabited

variable {α : Type}

namespace Vec2

def splat (a : α) : Vec2 α := ⟨a, a⟩

def zipWith (f : α → α → α) (a b : Vec2 α) : Vec2 α := ⟨f a.x b.x, f a.y b.y⟩

def toList (a : Vec2 α) : List α := [a.x, a.y]

variable [Scalar α]

instance : Sub (Vec2 α) := ⟨zipWith (· - ·)⟩

def lesser (a b : Vec2 α) : Vec2 α := zipWith Scalar.lesser a b

def greater (a b : Vec2 α) : Vec2 α := zipWith Scalar.greater a b

def divBy (a : Vec2 α) (s : α) : Vec2 α := ⟨a.x / s, a.y / s⟩

end Vec2

namespace Vec3

def splat (a : α) : Vec3 α := ⟨a, a, a⟩

def zipWith (f : α → α → α) (a b : Vec3 α) : Vec3 α := ⟨f a.x b.x, f a.y b.y, f a.z b.z⟩

def toList (a : Vec3 α) : List α := [a.x, a.y, a.z]

def ofList? : List α → Option (Vec3 α)
  | [x, y, z] => some ⟨x, y, z⟩
  | _ => none

variable [Scalar α]

instance : Add (Vec3 α) := ⟨zipWith (· + ·)⟩

instance : Sub (Vec3 α) := ⟨zipWith (· - ·)⟩

def zero : Vec3 α := splat 0.0

def one : Vec3 α := splat 1.0

def lesser (a b : Vec3 α) : Vec3 α := zipWith Scalar.lesser a b

def greater (a b : Vec3 α) : Vec3 α := zipWith Scalar.greater a b

def scale (a : Vec3 α) (s : α) : Vec3 α := ⟨a.x * s, a.y * s, a.z * s⟩

def divBy (a : Vec3 α) (s : α) : Vec3 α := ⟨a.x / s, a.y / s, a.z / s⟩

def dot (a b : Vec3 α) : α := a.x * b.x + a.y * b.y + a.z * b.z

def cross (a b : Vec3 α) : Vec3 α :=
  ⟨a.y * b.z - b.y * a.z, a.z * b.x - b.z * a.x, a.x * b.y - b.x * a.y⟩

/-- The vector of length one in the same direction, or zero where the length has no usable
reciprocal. -/
def normalizeOrZero (a : Vec3 α) : Vec3 α :=
  let r := 1.0 / Scalar.sqrt (a.dot a)
  if Scalar.isFinite r && decide ((0.0 : α) < r) then a.scale r else zero

def maxElement (a : Vec3 α) : α := Scalar.greater a.x (Scalar.greater a.y a.z)

/-- The blend `a * (1 - s) + b * s`. -/
def lerp (a b : Vec3 α) (s : α) : Vec3 α := a.scale (1.0 - s) + b.scale s

def sum (vs : List (Vec3 α)) : Vec3 α := vs.foldl (· + ·) zero

end Vec3

namespace Vec4

def zipWith (f : α → α → α) (a b : Vec4 α) : Vec4 α :=
  ⟨f a.x b.x, f a.y b.y, f a.z b.z, f a.w b.w⟩

def toList (a : Vec4 α) : List α := [a.x, a.y, a.z, a.w]

def ofList? : List α → Option (Vec4 α)
  | [x, y, z, w] => some ⟨x, y, z, w⟩
  | _ => none

/-- The component at a position, counted from zero. -/
def get (a : Vec4 α) : Fin 4 → α
  | 0 => a.x
  | 1 => a.y
  | 2 => a.z
  | 3 => a.w

variable [Scalar α]

instance : Add (Vec4 α) := ⟨zipWith (· + ·)⟩

instance : Sub (Vec4 α) := ⟨zipWith (· - ·)⟩

instance : Mul (Vec4 α) := ⟨zipWith (· * ·)⟩

def scale (a : Vec4 α) (s : α) : Vec4 α := ⟨a.x * s, a.y * s, a.z * s, a.w * s⟩

/-- The sum of the products of components: evens, then odds, then both. -/
def pairedDot (a b : Vec4 α) : α := (a.x * b.x + a.z * b.z) + (a.y * b.y + a.w * b.w)

end Vec4

end SceneRenderer
