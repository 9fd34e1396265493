import SceneRenderer.Json.Basic
import SceneRenderer.Json.Extent

/-!
Reading JSON text. Containers nest at most 127 deep. An integer of more than 64 bits, and every
number with a fraction or an exponent, is read as a float: its digits are taken as a 64-bit word,
further digits are dropped, and the word is multiplied or divided by a power of ten. A well-formed
value that breaks these limits is unreadable.
-/

set_option autoImplicit false
set_option relaxedAutoImplicit false

namespace SceneRenderer.Json

open Text

section Number

/-- Digits gathered into a word for as long as they fit. -/
structure Digits where
  word : Nat
  /-- Digits in the word. -/
  kept : Nat
  /-- Digits after those. -/
  dropped : Nat

/-- Adds a digit; once one does not fit, no later one counts. -/
def Digits.push (d : Digits) (c : Char) : Digits :=
  let word := d.word * 10 + digitValue c
  if d.dropped = 0 ∧ word < UInt64.size then ⟨word, d.kept + 1, 0⟩
  else ⟨d.word, d.kept, d.dropped + 1⟩

def powerOfTen (n : Nat) : Float := Float.ofScientific 1 false n

/-- The float for a word times a power of ten; one beyond the greatest float is no number. -/
def scaleFloat (word : Nat) (exponent : Int) : Option Float :=
  let start := (UInt64.ofNat word).toFloat
  if 0 ≤ exponent then
    if exponent ≤ 308 then
      let x := start * powerOfTen exponent.toNat
      if x.isInf then none else some x
    else if word = 0 then some start else none
  else
    let places := (-exponent).toNat
    let steps := if places ≤ 308 then 0 else (places - 309) / 308 + 1
    if 8 ≤ steps then some (start / powerOfTen 308 / powerOfTen 308)
    else
      let x := (List.range steps).foldl (fun x _ => x / powerOfTen 308) start
      some (x / powerOfTen (places - 308 * steps))

/-- The digits of an exponent with its sign. Beyond 31 bits only the sign matters. -/
def exponentPart : Reader (Int × Bool) := fun cs =>
  let (negative, cs) :=
    match cs with
    | '+' :: rest => (false, rest)
    | '-' :: rest => (true, rest)
    | _ => (false, cs)
  let digits := cs.takeWhile Char.isDigit
  if digits.isEmpty then none
  else
    let magnitude : Int := digits.foldl (fun n c => n * 10 + digitValue c) 0
    some ((if negative then -magnitude else magnitude, decide (magnitude < 0x80000000)),
      cs.dropWhile Char.isDigit)

/-- A float with the digits and the power of ten read so far, and perhaps an exponent to come. -/
def finishFloat (negative : Bool) (word : Nat) (exponent : Int) : Reader Json := fun cs => do
  let signed (x : Float) : Json := .float (if negative then -x else x)
  match cs with
  | c :: rest =>
    if c = 'e' ∨ c = 'E' then
      let ((shift, fits), cs) ← exponentPart rest
      if fits then return (signed (← scaleFloat word (exponent + shift)), cs)
      else if word ≠ 0 ∧ 0 < shift then none
      else return (signed 0.0, cs)
    else return (signed (← scaleFloat word exponent), cs)
  | [] => return (signed (← scaleFloat word exponent), cs)

/-- The part of a number after its sign. -/
def unsignedNumber (negative : Bool) : Reader Json := fun cs => do
  let whole := cs.takeWhile Char.isDigit
  let cs := cs.dropWhile Char.isDigit
  if whole.isEmpty || (whole.head? == some '0' && 1 < whole.length) then none
  else
    let digits := whole.foldl Digits.push ⟨0, 0, 0⟩
    match cs with
    | '.' :: rest =>
      let fraction := rest.takeWhile Char.isDigit
      if fraction.isEmpty then none
      else
        let all := fraction.foldl Digits.push ⟨digits.word, 0, 0⟩
        finishFloat negative all.word (digits.dropped - (all.kept : Int))
          (rest.dropWhile Char.isDigit)
    | c :: _ =>
      if c = 'e' ∨ c = 'E' then finishFloat negative digits.word digits.dropped cs
      else return (← integer digits, cs)
    | [] => return (← integer digits, cs)
where
  integer (digits : Digits) : Option Json :=
    if 0 < digits.dropped then
      (scaleFloat digits.word digits.dropped).map fun x => .float (if negative then -x else x)
    else if !negative then some (.integer digits.word)
    else if digits.word = 0 ∨ 0x8000000000000000 < digits.word then
      some (.float (-(UInt64.ofNat digits.word).toFloat))
    else some (.integer (-digits.word))

def number : Reader Json
  | '-' :: rest => unsignedNumber true rest
  | cs => unsignedNumber false cs

end Number

section Text

/-- A character by its number; a pair of surrogates makes one character, and none stands alone. -/
def unicodeEscape : Reader Char := fun cs => do
  let (unit, cs) ← hexDigits 4 0 cs
  if unit < 0xD800 ∨ 0xE000 ≤ unit then return (Char.ofNat unit, cs)
  else if 0xDC00 ≤ unit then none
  else
    let (low, cs) ← hexDigits 4 0 (← expect ['\\', 'u'] cs)
    if 0xDC00 ≤ low ∧ low < 0xE000 then
      return (Char.ofNat (0x10000 + (unit - 0xD800) * 0x400 + (low - 0xDC00)), cs)
    else none

/-- What follows a backslash. -/
def escape : Reader Char
  | '\x22' :: rest => some ('\x22', rest)
  | '\\' :: rest => some ('\\', rest)
  | '/' :: rest => some ('/', rest)
  | 'b' :: rest => some (Char.ofNat 8, rest)
  | 'f' :: rest => some (Char.ofNat 12, rest)
  | 'n' :: rest => some ('\n', rest)
  | 'r' :: rest => some ('\r', rest)
  | 't' :: rest => some ('\t', rest)
  | 'u' :: rest => unicodeEscape rest
  | _ => none

/-- The rest of a string, after its opening quote. -/
def stringRest : Nat → List Char → Reader String
  | 0, _, _ => none
  | _ + 1, _, [] => none
  | fuel + 1, done, c :: rest =>
    if c = '\x22' then some (String.ofList done.reverse, rest)
    else if c = '\\' then do
      let (e, rest) ← escape rest
      stringRest fuel (e :: done) rest
    else if c.toNat < 0x20 then none
    else stringRest fuel (c :: done) rest

def quoted : Reader String := fun cs => do
  let rest ← expect ['\x22'] cs
  stringRest (rest.length + 1) [] rest

end Text

section Container

/-- The items after the first, each after a comma, up to a closing character. -/
def itemsRest {α : Type} (item : Reader α) (close : Char) : Nat → List α → Reader (List α)
  | 0, _, _ => none
  | fuel + 1, done, cs =>
    match skipBlanks cs with
    | c :: rest =>
      if c = close then some (done.reverse, rest)
      else if c = ',' then do
        let (a, rest) ← item (skipBlanks rest)
        itemsRest item close fuel (a :: done) rest
      else none
    | [] => none

/-- The items after an opening character. -/
def items {α : Type} (item : Reader α) (close : Char) : Reader (List α) := fun cs =>
  match skipBlanks cs with
  | [] => none
  | c :: rest =>
    if c = close then some ([], rest)
    else do
      let (a, rest) ← item (c :: rest)
      itemsRest item close (rest.length + 1) [a] rest

/-- A value that is no container, or else one that is only well formed. -/
def orUnreadable (read : Reader Json) : Reader Json := fun cs =>
  match read cs with
  | some r => some r
  | none => (afterValue cs).map (.unreadable, ·)

def scalar : Reader Json := fun cs =>
  match cs with
  | 'n' :: rest => (expect ['u', 'l', 'l'] rest).map (.null, ·)
  | 't' :: rest => (expect ['r', 'u', 'e'] rest).map (.bool true, ·)
  | 'f' :: rest => (expect ['a', 'l', 's', 'e'] rest).map (.bool false, ·)
  | '\x22' :: _ => (quoted cs).map fun r => (.string r.1, r.2)
  | _ => number cs

/-- A name, a colon and a value; the name itself may be unreadable. -/
def field (value : Reader Json) : Reader (Json × Json) := fun cs => do
  let (name, cs) ← if cs.head? == some '\x22' then orUnreadable scalar cs else none
  let cs ← expect [':'] (skipBlanks cs)
  let (j, cs) ← value (skipBlanks cs)
  return ((name, j), cs)

/-- The object with the given fields, if every name is readable. -/
def ofFields (fields : List (Json × Json)) : Json :=
  match fields.mapM fun f => match f.1 with | string name => some (name, f.2) | _ => none with
  | some fields => .object fields
  | none => .unreadable

/-- A value; `depth` more containers may be opened around its parts. -/
def value : Nat → Reader Json
  | 0, cs => orUnreadable scalar cs
  | depth + 1, cs =>
    match cs with
    | '[' :: rest => (items (value depth) ']' rest).map fun r => (.array r.1, r.2)
    | '\x7b' :: rest =>
      (items (field (value depth)) '\x7d' rest).map fun r => (ofFields r.1, r.2)
    | _ => orUnreadable scalar cs

end Container

/-- The value that a well-formed text denotes, with unreadable parts. -/
def outline? (text : String) : Option Json := do
  let (j, rest) ← value 127 (skipBlanks text.toList)
  if (skipBlanks rest).isEmpty then some j else none

/-- The value that a text denotes. -/
def parse? (text : String) : Option Json := (outline? text).filter isReadable

end SceneRenderer.Json
