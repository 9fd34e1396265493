import SceneRenderer.Toml.Scalar

/-!
Reading TOML text: keys, strings, arrays, inline tables, and the lines of a document.
-/

set_option autoImplicit false
set_option relaxedAutoImplicit false

namespace SceneRenderer.Toml

open Text

/-- Arrays and inline tables nest at most this deep, and a key has at most so many parts. -/
def nestingLimit : Nat := 80

def isSpace (c : Char) : Bool := c == ' ' || c == '\t'

def skipSpaces (cs : List Char) : List Char := cs.dropWhile isSpace

/-- Characters that text may hold, line ends apart. -/
def isTextChar (c : Char) : Bool := c == '\t' || (0x20 ≤ c.toNat && c.toNat != 0x7f)

/-- Takes a line end. -/
def newline? : List Char → Option (List Char)
  | '\n' :: rest => some rest
  | '\r' :: '\n' :: rest => some rest
  | _ => none

/-- Takes a comment, if there is one. -/
def skipComment : List Char → List Char
  | '#' :: rest => rest.dropWhile isTextChar
  | cs => cs

/-- Takes blanks, comments and line ends. -/
def skipTrivia : Nat → List Char → List Char
  | 0, cs => cs
  | fuel + 1, cs =>
    let cs := skipComment (skipSpaces cs)
    match newline? cs with
    | some rest => skipTrivia fuel rest
    | none => cs

section Strings

def scalarValue (n : Nat) (cs : List Char) : Option (Char × List Char) :=
  if n < 0xD800 ∨ (0xE000 ≤ n ∧ n < 0x110000) then some (Char.ofNat n, cs) else none

/-- What follows a backslash. -/
def escape : Reader Char
  | [] => none
  | c :: cs =>
    match c with
    | '\x22' => some ('\x22', cs)
    | '\\' => some ('\\', cs)
    | 'b' => some (Char.ofNat 8, cs)
    | 'e' => some (Char.ofNat 27, cs)
    | 'f' => some (Char.ofNat 12, cs)
    | 'n' => some ('\n', cs)
    | 'r' => some ('\r', cs)
    | 't' => some ('\t', cs)
    | 'x' => (hexDigits 2 0 cs).bind fun r => scalarValue r.1 r.2
    | 'u' => (hexDigits 4 0 cs).bind fun r => scalarValue r.1 r.2
    | 'U' => (hexDigits 8 0 cs).bind fun r => scalarValue r.1 r.2
    | _ => none

/-- The rest of a string on one line, after its opening quote. -/
def lineString (quote : Char) : Nat → List Char → Reader String
  | 0, _, _ => none
  | _ + 1, _, [] => none
  | fuel + 1, done, c :: rest =>
    if c = quote then some (String.ofList done.reverse, rest)
    else if c = '\\' ∧ quote = '\x22' then do
      let (e, rest) ← escape rest
      lineString quote fuel (e :: done) rest
    else if isTextChar c then lineString quote fuel (c :: done) rest
    else none

/-- Takes blanks and line ends. -/
def skipBlankLines : Nat → List Char → List Char
  | 0, cs => cs
  | fuel + 1, cs =>
    match newline? (skipSpaces cs) with
    | some rest => skipBlankLines fuel rest
    | none => skipSpaces cs

/-- Takes a line end with the blanks before it, and all blanks and line ends after it. -/
def lineFold? (cs : List Char) : Option (List Char) :=
  (newline? (skipSpaces cs)).map fun rest => skipBlankLines (rest.length + 1) rest

/-- The rest of a string over several lines. Up to two quotes may stand before the closing ones. -/
def blockString (quote : Char) : Nat → List Char → Reader String
  | 0, _, _ => none
  | _ + 1, _, [] => none
  | fuel + 1, done, c :: rest =>
    if c = quote then
      let run := (c :: rest).takeWhile (· == quote)
      let after := (c :: rest).dropWhile (· == quote)
      if 6 ≤ run.length then none
      else if 3 ≤ run.length then some (String.ofList (done.reverse ++ run.drop 3), after)
      else blockString quote fuel (run ++ done) after
    else if c = '\\' ∧ quote = '\x22' then
      match lineFold? rest with
      | some rest => blockString quote fuel done rest
      | none =>
        match escape rest with
        | some (e, rest) => blockString quote fuel (e :: done) rest
        | none => none
    else
      match newline? (c :: rest) with
      | some rest => blockString quote fuel ('\n' :: done) rest
      | none => if isTextChar c then blockString quote fuel (c :: done) rest else none

/-- A string with the given quote. -/
def stringValue (quote : Char) (cs : List Char) : Option (String × List Char) := do
  match expect [quote, quote, quote] cs with
  | some rest =>
    let rest := (newline? rest).getD rest
    blockString quote (rest.length + 1) [] rest
  | none =>
    let rest ← expect [quote] cs
    lineString quote (rest.length + 1) [] rest

end Strings

section Keys

def isKeyChar (c : Char) : Bool := c.isAlphanum || c == '_' || c == '-'

/-- One part of a key. -/
def keyPart : Reader String
  | '\x22' :: rest => lineString '\x22' (rest.length + 1) [] rest
  | '\x27' :: rest => lineString '\x27' (rest.length + 1) [] rest
  | cs =>
    let part := cs.takeWhile isKeyChar
    if part.isEmpty then none else some (String.ofList part, cs.dropWhile isKeyChar)

/-- The parts of a dotted key. -/
def keyParts : Nat → Reader (List String)
  | 0, _ => none
  | fuel + 1, cs => do
    let (part, rest) ← keyPart cs
    match skipSpaces rest with
    | '.' :: rest =>
      let (parts, rest) ← keyParts fuel (skipSpaces rest)
      return (part :: parts, rest)
    | rest => return ([part], rest)

/-- A key of a bounded number of parts. -/
def key (cs : List Char) : Option (List String × List Char) :=
  (keyParts (cs.length + 1) (skipSpaces cs)).filter fun r => r.1.length ≤ nestingLimit

end Keys

/-- The parts of an array or inline table: each is read by `part`, commas stand between them, and
one may follow the last. -/
def parts {σ : Type} (part : σ → Reader σ) (close : Char) : Nat → σ → Reader σ
  | 0, _, _ => none
  | fuel + 1, state, cs =>
    match skipTrivia (cs.length + 1) cs with
    | [] => none
    | c :: rest =>
      if c = close then some (state, rest)
      else do
        let (state, rest) ← part state (c :: rest)
        match skipTrivia (rest.length + 1) rest with
        | [] => none
        | c :: rest =>
          if c = close then some (state, rest)
          else if c = ',' then parts part close fuel state rest
          else none

/-- A key, an equals sign and a value of an inline table, added to its entries. Comments and line
ends may stand around the sign. -/
def keyValue (value : Reader Toml) (entries : List (String × Toml)) :
    Reader (List (String × Toml)) := fun cs => do
  let (path, rest) ← key cs
  let rest ← expect ['='] (skipTrivia (rest.length + 1) rest)
  let (v, rest) ← value (skipTrivia (rest.length + 1) rest)
  return (← insertKey path v entries, rest)

/-- A value; `depth` bounds how deep arrays and inline tables nest. -/
def value : Nat → Reader Toml
  | _, [] => none
  | depth, c :: rest =>
    match c with
    | '\x22' => (stringValue '\x22' (c :: rest)).map fun r => (.string r.1, r.2)
    | '\x27' => (stringValue '\x27' (c :: rest)).map fun r => (.string r.1, r.2)
    | '[' =>
      match depth with
      | 0 => none
      | depth + 1 =>
        let item (items : List Toml) : Reader (List Toml) := fun cs =>
          (value depth cs).map fun r => (r.1 :: items, r.2)
        (parts item ']' (rest.length + 1) [] rest).map fun r => (.array r.1.reverse, r.2)
    | '\x7b' =>
      match depth with
      | 0 => none
      | depth + 1 =>
        (parts (keyValue (value depth)) '\x7d' (rest.length + 1) [] rest).map fun r =>
          (.table .inline r.1, r.2)
    | _ => takeWord (c :: rest)

/-- A header in single or double brackets. -/
def headerLine : Reader Line := fun cs => do
  let double := cs.head? == some '['
  let (path, rest) ← key (if double then cs.drop 1 else cs)
  let rest ← expect (if double then [']', ']'] else [']']) (skipSpaces rest)
  return (.header double path, rest)

/-- A key and a value. -/
def entryLine : Reader Line := fun cs => do
  let (path, rest) ← key cs
  let rest ← expect ['='] (skipSpaces rest)
  let (v, rest) ← value nestingLimit (skipSpaces rest)
  return (.entry path v, rest)

/-- Headers and entries, each to the end of its line. -/
def takeLines : Nat → List Char → Option (List Line)
  | 0, _ => none
  | fuel + 1, cs =>
    match skipTrivia (cs.length + 1) cs with
    | [] => some []
    | c :: rest => do
      let (line, rest) ← if c = '[' then headerLine rest else entryLine (c :: rest)
      match skipComment (skipSpaces rest) with
      | [] => some [line]
      | rest => return line :: (← takeLines fuel (← newline? rest))

/-- The lines of a text. -/
def documentLines? (text : String) : Option (List Line) :=
  let cs := text.toList
  let cs := if cs.head? == some '\ufeff' then cs.drop 1 else cs
  takeLines (cs.length + 1) cs

end SceneRenderer.Toml
