import SceneRenderer.Fault

/-!
The text of one shader stage. A stage has four sections, which are printed in a fixed order
whatever the order of the calls that fill them: directives, declarations, definitions, and the
statements of the main function. Directives, declarations and definitions are kept once each, so
that independent features may ask for the same one.
-/

set_option autoImplicit false
set_option relaxedAutoImplicit false

namespace SceneRenderer.Shader

inductive StageKind
  | vertex
  | fragment
deriving Repr, DecidableEq, Inhabited

def StageKind.name : StageKind → String
  | vertex => "vertex"
  | fragment => "fragment"

/-- How a global reaches a stage. -/
inductive Qualifier
  /-- Read from vertex data. -/
  | perVertex
  | uniform
  | varying
deriving Repr, DecidableEq, Inhabited

def Qualifier.keyword : Qualifier → String
  | perVertex => "attribute"
  | uniform => "uniform"
  | varying => "varying"

structure Declaration where
  qualifier : Qualifier
  type : String
  name : String
deriving Repr, DecidableEq, Inhabited

def Declaration.line (d : Declaration) : String :=
  d.qualifier.keyword ++ " " ++ d.type ++ " " ++ d.name ++ ";"

/-- A struct, constant or function under the name it is asked for by. -/
structure Definition where
  name : String
  source : String
deriving Repr, DecidableEq, Inhabited

/-- One request to a stage. -/
inductive Call
  | directive (line : String)
  | declare (declaration : Declaration)
  | define (definition : Definition)
  | statement (line : String)
  | openBlock (header : String)
  | closeBlock
deriving Repr, DecidableEq, Inhabited

structure Stage where
  directives : List String
  declarations : List Declaration
  definitions : List Definition
  /-- Statements with their indentation. -/
  statements : List String
  /-- Blocks open around the next statement, the main function included. -/
  depth : Nat
deriving Repr, DecidableEq, Inhabited

/-- Characters of identifiers. -/
def isIdentifierChar (c : Char) : Bool := c.isAlphanum || c == '_'

/-- Whether a pattern occurs in the text with no identifier character on either side. Occurrences
are taken from the left without overlap: `skip` characters belong to the last one. -/
def occursAlone (pattern : List Char) : Option Char → Nat → List Char → Bool
  | before, 0, [] => pattern.isEmpty && !before.any isIdentifierChar
  | _, _ + 1, [] => false
  | before, 0, c :: rest =>
    (pattern.isPrefixOf (c :: rest) && !before.any isIdentifierChar &&
        !((c :: rest).drop pattern.length).head?.any isIdentifierChar) ||
      occursAlone pattern (some c)
        (if pattern.isPrefixOf (c :: rest) then pattern.length - 1 else 0) rest
  | _, skip + 1, c :: rest => occursAlone pattern (some c) skip rest

/-- Whether a text mentions an identifier as a whole word. -/
def containsIdentifier (text identifier : String) : Bool :=
  occursAlone identifier.toList none 0 text.toList

/-- The parts of a text between line feeds. -/
def breakLines : List Char → List (List Char)
  | [] => [[]]
  | c :: rest =>
    match breakLines rest with
    | [] => [[c]]
    | first :: others => if c = '\n' then [] :: first :: others else (c :: first) :: others

/-- A line without the carriage return at its end. -/
def dropReturn (line : List Char) : List Char :=
  if line.getLast? = some '\r' then line.dropLast else line

/-- The lines of a text, ended by a line feed with or without a carriage return before it; an empty
last line does not count. -/
def splitLines (text : String) : List String :=
  let parts := breakLines text.toList
  let last := parts.getLastD []
  (parts.dropLast.map dropReturn ++ (if last.isEmpty then [] else [last])).map String.ofList

namespace Stage

def empty : Stage := ⟨[], [], [], [], 1⟩

def declaration? (s : Stage) (name : String) : Option Declaration :=
  s.declarations.find? fun d => d.name == name

def hasDefinition (s : Stage) (name : String) : Bool := s.definitions.any fun d => d.name == name

/-- Adds a line at the current depth. -/
def pushStatement (s : Stage) (line : String) : Stage :=
  { s with statements := s.statements ++ [String.join (List.replicate s.depth "    ") ++ line] }

/-- The effect of one call. Two declarations of a name must agree. -/
def apply (s : Stage) : Call → Except Fault Stage
  | .directive line =>
    .ok (if s.directives.contains line then s else { s with directives := s.directives ++ [line] })
  | .declare d =>
    match s.declaration? d.name with
    | some e =>
      if e.qualifier == d.qualifier && e.type == d.type then .ok s
      else .error (.conflictingDeclarations d.name)
    | none => .ok { s with declarations := s.declarations ++ [d] }
  | .define d =>
    .ok (if s.hasDefinition d.name then s else { s with definitions := s.definitions ++ [d] })
  | .statement line => .ok (s.pushStatement line)
  | .openBlock header =>
    .ok { s.pushStatement (header ++ " \x7b") with depth := s.depth + 1 }
  | .closeBlock =>
    .ok ({ s with depth := max (s.depth - 1) 1 }.pushStatement "\x7d")

/-- The effect of calls in a row. -/
def applyAll (s : Stage) (calls : List Call) : Except Fault Stage := calls.foldlM apply s

def build (calls : List Call) : Except Fault Stage := empty.applyAll calls

/-- Whether a definition or a statement mentions an identifier. -/
def mentions (s : Stage) (identifier : String) : Bool :=
  s.definitions.any (fun d => containsIdentifier d.source identifier) ||
    s.statements.any (fun line => containsIdentifier line identifier)

/-- The declared names that no definition and no statement mentions. -/
def unused (s : Stage) : List String :=
  (s.declarations.map (·.name)).filter fun name => !s.mentions name

/-- The lines of the stage. -/
def lines (s : Stage) : List String :=
  s.directives ++ s.declarations.map Declaration.line ++
    s.definitions.flatMap (fun d => splitLines d.source) ++
    "void main(void) \x7b" :: s.statements ++ ["\x7d"]

end Stage

end SceneRenderer.Shader
