/-!
Documents of the TOML configuration format as trees, and the lines that they are made of. An entry
belongs to the table of the last header before it, and those before the first header belong to the
whole document. How a table came to be decides what may still be added to it: a header names a table
at most once, and dotted keys extend only tables that dotted keys made. A number too large for its
type is harmless where nobody reads it.
-/

set_option autoImplicit false
set_option relaxedAutoImplicit false

namespace SceneRenderer

/-- How a table came to be. -/
inductive TableOrigin
  /-- As the parent of a table that a header names. -/
  | parent
  /-- By its own header. -/
  | header
  /-- By a dotted key. -/
  | dotted
  /-- As a value. -/
  | inline
deriving Repr, DecidableEq, Inhabited

inductive Toml
  | string (s : String)
  | integer (n : Int)
  | float (x : Float)
  | bool (b : Bool)
  | dateTime (s : String)
  | array (items : List Toml)
  | table (origin : TableOrigin) (entries : List (String × Toml))
  /-- Tables under headers in double brackets, the last one first. -/
  | tables (items : List Toml)
  /-- A number too large for its type. -/
  | unreadable
deriving Repr, Inhabited

namespace Toml

/-- Changes the value under a key, or adds one. -/
def updateEntry (entries : List (String × Toml)) (key : String)
    (change : Option Toml → Option Toml) : Option (List (String × Toml)) :=
  match entries with
  | [] => (change none).map fun v => [(key, v)]
  | (k, v) :: rest =>
    if k = key then (change (some v)).map fun w => (k, w) :: rest
    else (updateEntry rest key change).map ((k, v) :: ·)

/-- Changes the entries of the table that a path of headers leads to, making the tables on the
way. -/
def atHeader (change : List (String × Toml) → Option (List (String × Toml))) :
    List String → List (String × Toml) → Option (List (String × Toml))
  | [], entries => change entries
  | key :: path, entries =>
    updateEntry entries key fun
      | none => (atHeader change path []).map (.table .parent)
      | some (.table .inline _) => none
      | some (.table origin inner) => (atHeader change path inner).map (.table origin)
      | some (.tables (.table origin inner :: earlier)) =>
        (atHeader change path inner).map fun inner => .tables (.table origin inner :: earlier)
      | some _ => none

/-- Adds the value of a dotted key. The table that gets it is the current one, or was made by a
dotted key; a table with a header of its own lies on the way only as the last one of an array. -/
def insertDotted (last : String) (value : Toml) :
    (dotted : Bool) → List String → List (String × Toml) → Option (List (String × Toml))
  | true, [], entries =>
    updateEntry entries last fun
      | none => some value
      | some _ => none
  | false, [], _ => none
  | _, key :: path, entries =>
    updateEntry entries key fun
      | none => (insertDotted last value true path []).map (.table .dotted)
      | some (.table .dotted inner) =>
        (insertDotted last value true path inner).map (.table .dotted)
      | some (.table .parent inner) =>
        (insertDotted last value false path inner).map (.table .parent)
      | some (.tables (.table origin inner :: earlier)) =>
        (insertDotted last value false path inner).map fun inner =>
          .tables (.table origin inner :: earlier)
      | some _ => none

/-- Names a table by its header. -/
def openTable (last : String) (entries : List (String × Toml)) : Option (List (String × Toml)) :=
  updateEntry entries last fun
    | none => some (.table .header [])
    | some (.table .parent inner) => some (.table .header inner)
    | some _ => none

/-- Begins the next table of an array of tables. -/
def pushTable (last : String) (entries : List (String × Toml)) : Option (List (String × Toml)) :=
  updateEntry entries last fun
    | none => some (.tables [.table .header []])
    | some (.tables items) => some (.tables (.table .header [] :: items))
    | some _ => none

mutual

/-- The value has no unreadable part. -/
def isReadable : Toml → Bool
  | array items => itemsReadable items
  | table _ entries => entriesReadable entries
  | tables items => itemsReadable items
  | unreadable => false
  | _ => true

def itemsReadable : List Toml → Bool
  | [] => true
  | v :: rest => v.isReadable && itemsReadable rest

def entriesReadable : List (String × Toml) → Bool
  | [] => true
  | (_, v) :: rest => v.isReadable && entriesReadable rest

end

/-! ### Documents -/

inductive Line
  /-- Names a table or, in double brackets, begins the next table of an array. -/
  | header (double : Bool) (path : List String)
  | entry (path : List String) (value : Toml)
deriving Repr, Inhabited

/-- Adds a value under a dotted key to some entries. -/
def insertKey (parts : List String) (value : Toml) (entries : List (String × Toml)) :
    Option (List (String × Toml)) :=
  match parts.reverse with
  | [] => none
  | last :: path => insertDotted last value true path.reverse entries

/-- The document so far, and the header that entries go under. -/
structure Document where
  root : List (String × Toml)
  header : List String

namespace Document

def empty : Document := ⟨[], []⟩

def add (d : Document) : Line → Option Document
  | .header double path =>
    match path.reverse with
    | [] => none
    | last :: parents =>
      (atHeader (if double then pushTable last else openTable last) parents.reverse d.root).map
        fun root => ⟨root, path⟩
  | .entry path value =>
    (atHeader (insertKey path value) d.header d.root).map fun root => ⟨root, d.header⟩

end Document

/-- The table that lines denote. -/
def ofLines? (lines : List Line) : Option Toml :=
  (lines.foldlM Document.add .empty).map fun d => .table .header d.root

end Toml

end SceneRenderer
