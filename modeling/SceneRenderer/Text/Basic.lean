/-!
Texts: their words, numbers in hexadecimal digits, and readers. A reader takes something from the
front of a list of characters and gives back the rest, or refuses.
-/

set_option autoImplicit false
set_option relaxedAutoImplicit false

/-! ### Words: the longest parts of a text without white space -/

namespace SceneRenderer.Text

/-- White space of any script. -/
def isBlank (c : Char) : Bool :=
  c == ' ' || ('\t' ≤ c && c ≤ '\r') || c == '\u0085' || c == '\u00a0' || c == '\u1680' ||
    ('\u2000' ≤ c && c ≤ '\u200a') || c == '\u2028' || c == '\u2029' || c == '\u202f' ||
    c == '\u205f' || c == '\u3000'

/-- The parts of a text between blanks, empty ones included. -/
def breakBlanks : List Char → List (List Char)
  | [] => [[]]
  | c :: rest =>
    match breakBlanks rest with
    | [] => [[c]]
    | first :: others => if isBlank c then [] :: first :: others else (c :: first) :: others

def words (text : List Char) : List (List Char) := (breakBlanks text).filter (!·.isEmpty)

end SceneRenderer.Text

/-! ### Hexadecimal digits -/

namespace SceneRenderer

/-- The lowest `width` hexadecimal digits of a number, in lower case. -/
def fixedHex (width n : Nat) : String :=
  String.ofList ((List.range width).reverse.map fun i => Nat.digitChar (n >>> (4 * i) % 16))

/-- A number in as many hexadecimal digits as it needs, in lower case. -/
def plainHex (n : Nat) : String := String.ofList (Nat.toDigits 16 n)

/-- Bytes, two digits each. -/
def hexText (bytes : List UInt8) : String := String.join (bytes.map fun b => fixedHex 2 b.toNat)

end SceneRenderer

/-! ### Readers -/

namespace SceneRenderer

abbrev Reader (α : Type) := List Char → Option (α × List Char)

namespace Text

/-- Takes a given text. -/
def expect : List Char → List Char → Option (List Char)
  | [], cs => some cs
  | _ :: _, [] => none
  | p :: ps, c :: cs => if p = c then expect ps cs else none

def digitValue (c : Char) : Nat := c.toNat - '0'.toNat

def hexValue? (c : Char) : Option Nat :=
  if c.isDigit then some (digitValue c)
  else if 'a' ≤ c ∧ c ≤ 'f' then some (c.toNat - 'a'.toNat + 10)
  else if 'A' ≤ c ∧ c ≤ 'F' then some (c.toNat - 'A'.toNat + 10)
  else none

/-- A number of so many hexadecimal digits. -/
def hexDigits : Nat → Nat → Reader Nat
  | 0, n, cs => some (n, cs)
  | _ + 1, _, [] => none
  | count + 1, n, c :: cs => (hexValue? c).bind fun d => hexDigits count (n * 16 + d) cs

end Text

end SceneRenderer
