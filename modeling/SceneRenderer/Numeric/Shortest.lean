/-!
The shortest decimal text of a single-precision number.

A positive number `m * 2 ^ q` stands for every real that rounds to it. Decimal grids are tried from
the coarsest on, and the first grid with a point in that interval gives the digits; of two such
points the nearer is taken, and of two equally near the greater.
-/

set_option autoImplicit false
set_option relaxedAutoImplicit false

namespace SceneRenderer

/-- The positive number `mantissa * 2 ^ exponent`. -/
structure BinaryNumber where
  mantissa : Nat
  exponent : Int
  /-- The next number below is half as far away as the next above. -/
  closeBelow : Bool
deriving Repr, DecidableEq

/-- The number `digits * 10 ^ exponent`. -/
structure DecimalNumber where
  digits : Nat
  exponent : Int
deriving Repr, DecidableEq

namespace BinaryNumber

/-- The factors that bring multiples of `10 ^ p` and of a quarter of the last place to one unit. -/
def commonUnit (b : BinaryNumber) (p : Int) : Nat × Nat :=
  (Nat.pow 10 p.toNat * Nat.pow 2 (2 - b.exponent).toNat,
    Nat.pow 2 (b.exponent - 2).toNat * Nat.pow 10 (-p).toNat)

/-- Whether a point on the grid of `10 ^ p` rounds to the number. -/
def rounds (b : BinaryNumber) (p : Int) (point : Nat) : Bool :=
  let (grid, quarter) := b.commonUnit p
  let low := (4 * b.mantissa - (if b.closeBelow then 1 else 2)) * quarter
  let high := (4 * b.mantissa + 2) * quarter
  if b.mantissa % 2 = 0 then low ≤ point * grid && point * grid ≤ high
  else low < point * grid && point * grid < high

/-- The point of the grid of `10 ^ p` that rounds to the number and is nearest to it. -/
def onGrid? (b : BinaryNumber) (p : Int) : Option DecimalNumber :=
  let (grid, quarter) := b.commonUnit p
  let value := 4 * b.mantissa * quarter
  let below := value / grid
  let down := b.rounds p below
  let up := b.rounds p (below + 1)
  if up && (!down || value - below * grid ≥ (below + 1) * grid - value) then some ⟨below + 1, p⟩
  else if down then some ⟨below, p⟩
  else none

/-- The grids of single precision, from the coarsest. -/
def grids : List Int := (List.range 90).map fun i : Nat => (39 : Int) - i

def shortest (b : BinaryNumber) : DecimalNumber := (grids.findSome? b.onGrid?).getD ⟨0, 0⟩

/-- The magnitude of a finite number other than zero, read from its encoding. -/
def ofBits (bits : UInt32) : BinaryNumber :=
  let fraction : Nat := bits.toNat % 0x800000
  let biased : Nat := bits.toNat >>> 23 % 0x100
  if biased = 0 then ⟨fraction, -149, false⟩
  else ⟨0x800000 + fraction, (biased : Int) - 150, fraction = 0 && biased ≠ 1⟩

end BinaryNumber

namespace DecimalNumber

/-- The exponent of the leading digit. -/
def magnitude (d : DecimalNumber) : Int := (Nat.toDigits 10 d.digits).length - 1 + d.exponent

/-- Digits with a point and at least one digit on either side of it. -/
def positional (d : DecimalNumber) : String :=
  let digits := Nat.toDigits 10 d.digits
  if 0 ≤ d.exponent then
    String.ofList (digits ++ List.replicate d.exponent.toNat '0' ++ ['.', '0'])
  else
    let places := (-d.exponent).toNat
    let padded := List.replicate (places + 1 - digits.length) '0' ++ digits
    let whole := padded.length - places
    String.ofList (padded.take whole ++ '.' :: padded.drop whole)

/-- One digit before the point, then the exponent of ten. -/
def scientific (d : DecimalNumber) : String :=
  match Nat.toDigits 10 d.digits with
  | [] => ""
  | first :: rest =>
    let fraction := if rest.isEmpty then [] else '.' :: rest
    String.ofList (first :: fraction) ++ "e" ++ toString d.magnitude

end DecimalNumber

/-- How numbers are written. -/
structure NumberStyle where
  /-- Whether a number whose leading digit has this exponent is written with an exponent. -/
  scientific : Int → Bool
  undefined : String

namespace NumberStyle

def write (style : NumberStyle) (x : Float32) : String :=
  if x.isNaN then style.undefined
  else
    let bits := x.toBits
    let sign := if bits < 0x80000000 then "" else "-"
    if x.isInf then sign ++ "inf"
    else if x == 0 then sign ++ "0.0"
    else
      let d := (BinaryNumber.ofBits bits).shortest
      sign ++ if style.scientific d.magnitude then d.scientific else d.positional

/-- Literals of shader text: an exponent below one ten-thousandth and from ten to the sixteenth
on. -/
def literal : NumberStyle := ⟨fun e => decide (e < -4) || decide (16 ≤ e), "NaN"⟩

/-- Configuration text: always positional. -/
def plain : NumberStyle := ⟨fun _ => false, "nan"⟩

end NumberStyle

end SceneRenderer
