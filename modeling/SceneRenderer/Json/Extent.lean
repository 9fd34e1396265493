import SceneRenderer.Text.Basic

/-!
Where a value of JSON text ends. Only the grammar counts: numbers may be of any size, containers
nest to any depth, and surrogates need not pair up.
-/

set_option autoImplicit false
set_option relaxedAutoImplicit false

namespace SceneRenderer.Json

open Text

def isBlank (c : Char) : Bool := c == ' ' || c == '\n' || c == '\t' || c == '\r'

def skipBlanks (cs : List Char) : List Char := cs.dropWhile isBlank

/-- Characters that stand for one character after a backslash. -/
def plainEscapes : List Char := ['\x22', '\\', '/', 'b', 'f', 'n', 'r', 't']

/-- What follows an escape, given what stands after its backslash. -/
def afterEscape : List Char → Option (List Char)
  | 'u' :: rest => (hexDigits 4 0 rest).map (·.2)
  | c :: rest => if plainEscapes.contains c then some rest else none
  | [] => none

/-- What follows a string, given what stands after its opening quote. -/
def afterString : Nat → List Char → Option (List Char)
  | 0, _ => none
  | _ + 1, [] => none
  | fuel + 1, c :: rest =>
    if c = '\x22' then some rest
    else if c = '\\' then (afterEscape rest).bind (afterString fuel)
    else if c.toNat < 0x20 then none
    else afterString fuel rest

/-- What follows at least one digit. -/
def afterDigits (cs : List Char) : Option (List Char) :=
  if (cs.takeWhile Char.isDigit).isEmpty then none else some (cs.dropWhile Char.isDigit)

/-- What follows an exponent, if there is one. -/
def afterExponent : List Char → Option (List Char)
  | [] => some []
  | c :: rest =>
    if c = 'e' ∨ c = 'E' then
      match rest with
      | '+' :: rest => afterDigits rest
      | '-' :: rest => afterDigits rest
      | _ => afterDigits rest
    else some (c :: rest)

/-- What follows the part of a number after its sign. A zero in front stands alone. -/
def afterUnsigned (cs : List Char) : Option (List Char) := do
  let rest ← afterDigits cs
  if cs.head? == some '0' && rest.length + 1 < cs.length then none
  else
    match rest with
    | '.' :: rest => afterExponent (← afterDigits rest)
    | rest => afterExponent rest

def afterNumber : List Char → Option (List Char)
  | '-' :: rest => afterUnsigned rest
  | cs => afterUnsigned cs

/-- What follows a value that is no container. -/
def afterScalar : List Char → Option (List Char)
  | 'n' :: rest => expect "ull".toList rest
  | 't' :: rest => expect "rue".toList rest
  | 'f' :: rest => expect "alse".toList rest
  | '\x22' :: rest => afterString (rest.length + 1) rest
  | cs => afterNumber cs

/-- What follows the name of a field and its colon. -/
def afterName : List Char → Option (List Char)
  | '\x22' :: rest => do expect [':'] (skipBlanks (← afterString (rest.length + 1) rest))
  | _ => none

/-- What a reader stands before. -/
inductive Awaited
  /-- A value. -/
  | value
  /-- The first part of a container, or its end. -/
  | firstPart
  /-- The next part of a container, or its end. -/
  | nextPart

/-- The place of the next value in a container with the given closing character. -/
def partStart (close : Char) (cs : List Char) : Option (List Char) :=
  if close = '\x7d' then (afterName (skipBlanks cs)).map skipBlanks else some (skipBlanks cs)

/-- What follows the outermost value, given the closing characters of the containers that are open,
the innermost first. -/
def afterNested : Nat → Awaited → List Char → List Char → Option (List Char)
  | 0, _, _, _ => none
  | fuel + 1, .value, closing, cs =>
    match cs with
    | '[' :: rest => afterNested fuel .firstPart (']' :: closing) rest
    | '\x7b' :: rest => afterNested fuel .firstPart ('\x7d' :: closing) rest
    | cs => (afterScalar cs).bind (afterNested fuel .nextPart closing)
  | _ + 1, _, [], cs => some cs
  | fuel + 1, .firstPart, close :: closing, cs =>
    match skipBlanks cs with
    | [] => none
    | c :: rest =>
      if c = close then afterNested fuel .nextPart closing rest
      else (partStart close (c :: rest)).bind (afterNested fuel .value (close :: closing))
  | fuel + 1, .nextPart, close :: closing, cs =>
    match skipBlanks cs with
    | [] => none
    | c :: rest =>
      if c = close then afterNested fuel .nextPart closing rest
      else if c = ',' then (partStart close rest).bind (afterNested fuel .value (close :: closing))
      else none

/-- What follows a value. Each step takes a character, or leads to one that does. -/
def afterValue (cs : List Char) : Option (List Char) := afterNested (2 * cs.length + 2) .value [] cs

end SceneRenderer.Json
