import SceneRenderer.Json.Codec
import SceneRenderer.Numeric.Shortest
import SceneRenderer.Toml.Parser

/-!
Records and choices in TOML. What is read as a record is a table, or an array with its fields in
order. An unknown field of a table has to be readable; items of an array beyond the fields are not
looked at. What is written is handed over field by field in the order of its type, to a library that
writes records and takes documents apart. `Library.plain` writes the values of a record before its
tables; its strings and keys have no character that needs an escape.
-/

set_option autoImplicit false
set_option relaxedAutoImplicit false

namespace SceneRenderer.Toml

open Codec

/-! ### Reading -/

/-- The fields of a record, in the order of their names; one that is absent is `none`. A date is a
record without any. -/
def fields? (names : List String) : Toml → Option (List (Option Toml))
  | table _ entries =>
    if entriesReadable (entries.filter fun e => !names.contains e.1) then
      some (names.map fun n => entries.lookup n)
    else none
  | array items => some (inOrder items)
  | tables items => some (inOrder items.reverse)
  | dateTime _ => some (names.map fun _ => none)
  | _ => none
where
  inOrder (items : List Toml) : List (Option Toml) := (List.range names.length).map (items[·]?)

/-- The name of a choice: a string, or the only key of a table, over nothing. -/
def choice? : Toml → Option String
  | string name => some name
  | table _ [(name, table _ [])] => some name
  | table _ [(name, array [])] => some name
  | _ => none

variable {α : Type}

/-- A choice among named values. -/
def readChoice (table : List (String × α)) (v : Toml) : Option α :=
  v.choice?.bind fun name => table.lookup name

/-- A single value as JSON. -/
def scalar? : Toml → Option Json
  | string s => some (.string s)
  | integer n => some (.integer n)
  | float x => some (.float x)
  | bool b => some (.bool b)
  | _ => none

/-- A field that may be absent, read by `read`. -/
def orElseBy (read : Toml → Option α) (standard : α) : Option Toml → Option α
  | none => some standard
  | some v => read v

/-- A field with a single value that may be absent. -/
def orElse [Codec α] (standard : α) : Option Toml → Option α :=
  orElseBy (fun v => v.scalar?.bind read) standard

/-! ### Writing -/

/-- A single value of a record. -/
inductive Scalar
  | bool (b : Bool)
  | word (n : UInt32)
  | number (x : Float32)
  /-- A choice without data, by its name. -/
  | choice (name : String)
deriving Repr, Inhabited

inductive Field
  /-- A single value, which may be absent. -/
  | single (value : Option Scalar)
  /-- A record of single values. -/
  | record (fields : List (String × Option Scalar))
deriving Repr, Inhabited

/-- The fields that are present. -/
def present (fields : List (String × Option Scalar)) : List (String × Scalar) :=
  fields.filterMap fun f => f.2.map (f.1, ·)

/-- The single values that are present. -/
def singles (fields : List (String × Field)) : List (String × Scalar) :=
  fields.filterMap fun
    | (name, .single (some v)) => some (name, v)
    | _ => none

/-- The records in a record, each with the fields that are present. -/
def subtables (fields : List (String × Field)) : List (String × List (String × Scalar)) :=
  fields.filterMap fun
    | (name, .record inner) => some (name, present inner)
    | _ => none

/-- What writes records as documents and takes documents apart. -/
structure Library where
  /-- The text of a record, if it has one. -/
  write (fields : List (String × Field)) : Option String
  /-- The lines of a text, if it is a document. -/
  lines? (text : String) : Option (List Line)

/-- The table that a text denotes. -/
def Library.parse? (t : Library) (text : String) : Option Toml :=
  (t.lines? text).bind ofLines?

def Scalar.text : Scalar → String
  | bool b => if b then "true" else "false"
  | word n => toString n.toNat
  | number x => NumberStyle.plain.write x
  | choice name => "\"" ++ name ++ "\""

def entryText (e : String × Scalar) : String := e.1 ++ " = " ++ e.2.text ++ "\n"

def tableText (t : String × List (String × Scalar)) : String :=
  "[" ++ t.1 ++ "]\n" ++ String.join (t.2.map entryText)

/-- The values of a record, then its tables, with an empty line between any two of these. -/
def recordText (fields : List (String × Field)) : String :=
  let top := (singles fields).map entryText
  "\n".intercalate
    ((if top.isEmpty then [] else [String.join top]) ++ (subtables fields).map tableText)

def Library.plain : Library := ⟨fun fields => some (recordText fields), documentLines?⟩

end SceneRenderer.Toml
