import SceneRenderer.Shader.Fragment
import SceneRenderer.Shader.Key
import SceneRenderer.Shader.Vertex
import SceneRenderer.Text.Basic

/-!
The source of a program: the lines of its two stages, and a hash of them.

The program that renders a shadow map packs the depth of a fragment into the four bytes of a color;
its vertex stage places vertices just as a draw program does. Declarations are read back from the
text of a program: each stands on a line of its own, from the first column on.
-/

set_option autoImplicit false
set_option relaxedAutoImplicit false

/-! ### Shadow maps -/

namespace SceneRenderer.Shader

open Shader.Record

def depthVertexRecords (d : DepthFeatures) (o : ShaderOptions) : List Record :=
  precisionRecord o :: positionRecords d.quantized d.billboard d.stationary ++
  onlyIf d.isPoints pointSizeRecords ++
  [outputPositionRecord]

def depthFragmentRecords (o : ShaderOptions) : List Record :=
  [precisionRecord o, define .packDepth, statement ["gl_FragColor = packDepth(gl_FragCoord.z);"]]

end SceneRenderer.Shader

/-! ### Sources -/

namespace SceneRenderer.Shader

structure ProgramSource where
  vertex : List String
  fragment : List String
  hash : UInt64
deriving Repr, DecidableEq, Inhabited

/-- The text that is hashed: every line with a line feed after it. -/
def hashedText (vertex fragment : List String) : String :=
  String.join ((vertex ++ fragment).map (· ++ "\n"))

namespace ProgramSource

def ofLines (vertex fragment : List String) : ProgramSource :=
  ⟨vertex, fragment, Xxh3.hash (hashedText vertex fragment).toUTF8.data⟩

def stage (s : ProgramSource) : StageKind → List String
  | .vertex => s.vertex
  | .fragment => s.fragment

/-- The lines of a stage, with a line feed between them. -/
def stageText (s : ProgramSource) (kind : StageKind) : String := "\n".intercalate (s.stage kind)

end ProgramSource

/-- The vertex and fragment stage of a draw program. -/
def drawStages (c : Features) (o : ShaderOptions) : Except Fault (Stage × Stage) := do
  let vertex ← Stage.ofRecords (vertexRecords c o)
  let fragment ← Stage.ofRecords (← fragmentRecords c o)
  return (vertex, fragment)

/-- The vertex and fragment stage of a depth program. -/
def depthStages (d : DepthFeatures) (o : ShaderOptions) : Except Fault (Stage × Stage) := do
  let vertex ← Stage.ofRecords (depthVertexRecords d o)
  let fragment ← Stage.ofRecords (depthFragmentRecords o)
  return (vertex, fragment)

def stages (o : ShaderOptions) : ProgramKey → Except Fault (Stage × Stage)
  | .draw c => drawStages c o
  | .shadowDepth d => depthStages d o

/-- The source of the program that a key names. -/
def synthesize (o : ShaderOptions) (k : ProgramKey) : Except Fault ProgramSource := do
  let (vertex, fragment) ← stages o k
  return .ofLines vertex.lines fragment.lines

end SceneRenderer.Shader

/-! ### Declarations -/

namespace SceneRenderer.Shader

/-- The text without the semicolons at its end. -/
def dropSemicolons (text : List Char) : List Char :=
  (text.reverse.dropWhile (· == ';')).reverse

/-- The name that a line declares with the given qualifier: the second word after it. -/
def declaredName? (qualifier : Qualifier) (line : String) : Option String := do
  let start := (qualifier.keyword ++ " ").toList
  let rest := line.toList.drop start.length
  if start.isPrefixOf line.toList then
    let name ← (Text.words rest)[1]?
    return String.ofList (dropSemicolons name)
  else none

def declaredNames (qualifier : Qualifier) (lines : List String) : List String :=
  lines.filterMap (declaredName? qualifier)

/-- The uniforms that the two stages of a program declare. -/
def ProgramSource.uniforms (s : ProgramSource) : List String :=
  declaredNames .uniform s.vertex ++ declaredNames .uniform s.fragment

end SceneRenderer.Shader
