import SceneRenderer.Text.Basic
import SceneRenderer.Toml.Basic

/-!
The values of TOML that are a single word: truth values, integers, floats, dates and times.
-/

set_option autoImplicit false
set_option relaxedAutoImplicit false

namespace SceneRenderer.Toml

open Text

/-- Digits of some kind with single underscores between them; gives back the digits. -/
def groupedDigits (isDigit : Char → Bool) : List Char → Option (List Char)
  | [] => none
  | [c] => if isDigit c then some [c] else none
  | c :: '_' :: rest => if isDigit c then (groupedDigits isDigit rest).map (c :: ·) else none
  | c :: rest => if isDigit c then (groupedDigits isDigit rest).map (c :: ·) else none

def valueInBase (base : Nat) (digits : List Char) : Nat :=
  digits.foldl (fun n c => n * base + (hexValue? c).getD 0) 0

/-- A decimal number without needless zeros in front. -/
def wholeDigits (cs : List Char) : Option (List Char) := do
  let digits ← groupedDigits Char.isDigit cs
  if digits.head? == some '0' && 1 < digits.length then none else some digits

/-- The sign in front, and the rest. -/
def splitSign : List Char → Bool × List Char
  | '-' :: rest => (true, rest)
  | '+' :: rest => (false, rest)
  | cs => (false, cs)

/-- The integer that a word denotes, of any size. -/
def integer? (word : List Char) : Option Int :=
  match word with
  | '0' :: 'x' :: rest => (groupedDigits (hexValue? · |>.isSome) rest).map fun d => valueInBase 16 d
  | '0' :: 'o' :: rest =>
    (groupedDigits (fun c => decide ('0' ≤ c ∧ c ≤ '7')) rest).map fun d => valueInBase 8 d
  | '0' :: 'b' :: rest =>
    (groupedDigits (fun c => c == '0' || c == '1') rest).map fun d => valueInBase 2 d
  | _ =>
    let (negative, digits) := splitSign word
    (wholeDigits digits).map fun d =>
      let n : Int := valueInBase 10 d
      if negative then -n else n

/-- An integer of at most 127 bits and a sign, or of 128 bits. -/
def ofInteger (n : Int) : Toml :=
  if -(1 <<< 127 : Nat) ≤ n ∧ n < (1 <<< 128 : Nat) then .integer n else .unreadable

/-- The float nearest to `digits * 10 ^ exponent`, if it is finite. -/
def nearestFloat (digits : List Char) (exponent : Int) : Option Float :=
  let mantissa := valueInBase 10 digits
  if mantissa = 0 then some 0.0
  else if exponent < -(400 + digits.length : Int) then some 0.0
  else if 400 < exponent then none
  else
    let x := Float.ofScientific mantissa (exponent < 0) exponent.natAbs
    if x.isInf then none else some x

/-- The exponent of a float, from its sign on. -/
def exponent? (cs : List Char) : Option Int := do
  let (negative, cs) := splitSign cs
  let n : Int := valueInBase 10 (← groupedDigits Char.isDigit cs)
  return if negative then -n else n

def isExponentMark (c : Char) : Bool := c == 'e' || c == 'E'

/-- The float that a word denotes, of any size. -/
def float? (word : List Char) : Option Toml := do
  let (negative, cs) := splitSign word
  let signed (x : Float) : Toml := .float (if negative then -x else x)
  let nearest (digits : List Char) (exponent : Int) : Toml :=
    (nearestFloat digits exponent).elim .unreadable signed
  if cs = ['i', 'n', 'f'] then return signed (1.0 / 0.0)
  else if cs = ['n', 'a', 'n'] then return .float (0.0 / 0.0)
  else
    let whole ← wholeDigits (cs.takeWhile fun c => c != '.' && !isExponentMark c)
    match cs.dropWhile fun c => c != '.' && !isExponentMark c with
    | '.' :: rest =>
      let fraction ← groupedDigits Char.isDigit (rest.takeWhile (!isExponentMark ·))
      let exponent ←
        match rest.dropWhile (!isExponentMark ·) with
        | [] => some 0
        | _ :: rest => exponent? rest
      return nearest (whole ++ fraction) (exponent - fraction.length)
    | _ :: rest => return nearest whole (← exponent? rest)
    | [] => none

section DateTime

/-- A number of exactly so many digits in a range. -/
def fixedDigits (count low high : Nat) (cs : List Char) : Option (Nat × List Char) :=
  let digits := cs.take count
  let n := valueInBase 10 digits
  if digits.length = count ∧ digits.all Char.isDigit ∧ low ≤ n ∧ n ≤ high then
    some (n, cs.drop count)
  else none

def daysInMonth (year month : Nat) : Nat :=
  if month = 2 then
    if (year % 4 = 0 ∧ year % 100 ≠ 0) ∨ year % 400 = 0 then 29 else 28
  else if month = 4 ∨ month = 6 ∨ month = 9 ∨ month = 11 then 30
  else 31

/-- A year, a month and a day. -/
def takeDate (cs : List Char) : Option (List Char) := do
  let (year, cs) ← fixedDigits 4 0 9999 cs
  let (month, cs) ← fixedDigits 2 1 12 (← expect ['-'] cs)
  let (_, cs) ← fixedDigits 2 1 (daysInMonth year month) (← expect ['-'] cs)
  return cs

/-- Hours and minutes, and perhaps seconds with a fraction. -/
def takeTime (cs : List Char) : Option (List Char) := do
  let (_, cs) ← fixedDigits 2 0 23 cs
  let (_, cs) ← fixedDigits 2 0 59 (← expect [':'] cs)
  match cs with
  | ':' :: rest =>
    let (_, cs) ← fixedDigits 2 0 60 rest
    match cs with
    | '.' :: rest =>
      if (rest.takeWhile Char.isDigit).isEmpty then none else return rest.dropWhile Char.isDigit
    | _ => return cs
  | _ => return cs

/-- The distance from universal time. -/
def takeOffset : List Char → Option (List Char)
  | [] => some []
  | c :: rest => do
    if c = 'Z' ∨ c = 'z' then return rest
    else if c = '+' ∨ c = '-' then
      let (_, cs) ← fixedDigits 2 0 23 rest
      let (_, cs) ← fixedDigits 2 0 59 (← expect [':'] cs)
      return cs
    else none

def isDateTime (word : List Char) : Bool :=
  match takeDate word with
  | some [] => true
  | some (c :: rest) =>
    (c == 'T' || c == 't' || c == ' ') && ((takeTime rest).bind takeOffset == some [])
  | none => takeTime word == some []

end DateTime

/-- The value that a word denotes. -/
def word? (word : List Char) : Option Toml :=
  if word = "true".toList then some (.bool true)
  else if word = "false".toList then some (.bool false)
  else
    match integer? word with
    | some n => some (ofInteger n)
    | none =>
      match float? word with
      | some v => some v
      | none => if isDateTime word then some (.dateTime (String.ofList word)) else none

def isWordChar (c : Char) : Bool :=
  c.isAlphanum || c == '_' || c == '-' || c == '+' || c == '.' || c == ':'

/-- Takes a word; a date and a time may have a blank between them. -/
def takeWord : Reader Toml := fun cs =>
  let word := cs.takeWhile isWordChar
  let rest := cs.dropWhile isWordChar
  match rest with
  | ' ' :: c :: more =>
    if takeDate word == some [] && c.isDigit then
      (word? (word ++ ' ' :: (c :: more).takeWhile isWordChar)).map
        (·, (c :: more).dropWhile isWordChar)
    else (word? word).map (·, rest)
  | _ => (word? word).map (·, rest)

end SceneRenderer.Toml
