/-!
Values of the JSON data format. A number is an integer of at most 64 bits or a float; an object
keeps its fields in order, repeated names included. Well-formed text may also denote no value; that
is harmless where nobody reads it.
-/

set_option autoImplicit false
set_option relaxedAutoImplicit false

namespace SceneRenderer

inductive Json
  | null
  | bool (b : Bool)
  | integer (n : Int)
  | float (x : Float)
  | string (s : String)
  | array (items : List Json)
  | object (fields : List (String × Json))
  /-- What well-formed text without a value stands for: a number beyond the floats, half a surrogate
  pair, or what nests too deep. -/
  | unreadable
deriving Repr, Inhabited

namespace Json

/-- Fields without repetitions: the last value of a name stands in the place of the first. -/
def mergeFields (fields : List (String × Json)) : List (String × Json) :=
  fields.foldl (fun merged f =>
    if merged.any (·.1 == f.1) then merged.map fun g => if g.1 == f.1 then f else g
    else merged ++ [f]) []

mutual

/-- The value in which every object names a field once. -/
def merged : Json → Json
  | array items => array (mergedItems items)
  | object fields => object (mergeFields (mergedFields fields))
  | j => j

def mergedItems : List Json → List Json
  | [] => []
  | j :: rest => j.merged :: mergedItems rest

def mergedFields : List (String × Json) → List (String × Json)
  | [] => []
  | (name, j) :: rest => (name, j.merged) :: mergedFields rest

end

mutual

/-- The value has no unreadable part. -/
def isReadable : Json → Bool
  | array items => itemsReadable items
  | object fields => fieldsReadable fields
  | unreadable => false
  | _ => true

def itemsReadable : List Json → Bool
  | [] => true
  | j :: rest => j.isReadable && itemsReadable rest

def fieldsReadable : List (String × Json) → Bool
  | [] => true
  | (_, j) :: rest => j.isReadable && fieldsReadable rest

end

/-- The value under a name of an object. -/
def get? : Json → String → Option Json
  | object fields, name => fields.lookup name
  | _, _ => none

end Json

end SceneRenderer
