import SceneRenderer.Shader.Prelude
import SceneRenderer.Shader.Name
import SceneRenderer.Shader.Stage

/-!
The requests that the synthesis of a program makes to a stage, before they are written out: names
and types are values here, and a line of text is a list of literal pieces and names.
-/

set_option autoImplicit false
set_option relaxedAutoImplicit false

namespace SceneRenderer.Shader

/-- The types of globals. -/
inductive GlslType
  | bool
  | float
  | vec2
  | vec3
  | vec4
  | mat3
  | mat4
  | sampler2D
  | samplerCube
deriving Repr, DecidableEq, Inhabited

def GlslType.text : GlslType → String
  | bool => "bool"
  | float => "float"
  | vec2 => "vec2"
  | vec3 => "vec3"
  | vec4 => "vec4"
  | mat3 => "mat3"
  | mat4 => "mat4"
  | sampler2D => "sampler2D"
  | samplerCube => "samplerCube"

/-- A part of a line. -/
inductive Piece
  | literal (s : String)
  | name (n : Name)
deriving Repr, DecidableEq, Inhabited

def Piece.text : Piece → String
  | literal s => s
  | name n => n.text

instance : Coe String Piece := ⟨.literal⟩

instance : Coe Name Piece := ⟨.name⟩

abbrev Line := List Piece

def Line.text (line : Line) : String := String.join (line.map Piece.text)

inductive Record
  | directive (line : String)
  | declare (qualifier : Qualifier) (type : GlslType) (name : Name)
  | define (item : PreludeItem)
  | statement (line : Line)
  | openBlock (header : Line)
  | closeBlock
deriving Inhabited

namespace Record

def perVertex (type : GlslType) (name : Name) : Record := declare .perVertex type name

def uniform (type : GlslType) (name : Name) : Record := declare .uniform type name

def varying (type : GlslType) (name : Name) : Record := declare .varying type name

/-- The request as text. -/
def toCall : Record → Call
  | directive line => .directive line
  | declare qualifier type name => .declare ⟨qualifier, type.text, name.text⟩
  | define item => .define ⟨item.name, item.source⟩
  | statement line => .statement line.text
  | openBlock header => .openBlock header.text
  | closeBlock => .closeBlock

end Record

/-- Some records, if a feature is on. -/
def onlyIf (enabled : Bool) (records : List Record) : List Record :=
  if enabled then records else []

/-- The stage that some records fill. -/
def Stage.ofRecords (records : List Record) : Except Fault Stage :=
  Stage.build (records.map Record.toCall)

end SceneRenderer.Shader
