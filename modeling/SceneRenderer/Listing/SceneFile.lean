import SceneRenderer.Json.Parser
import SceneRenderer.Scene.Codec.Scene

/-!
Scene files: the state of a scene and its drawables in one JSON object.
-/

set_option autoImplicit false
set_option relaxedAutoImplicit false

namespace SceneRenderer

open Codec

structure SceneFile where
  scene : Scene
  drawables : List Drawable
deriving Inhabited

namespace SceneFile

/-- The state of a scene from the fields beside the drawables. They are gathered before they are
read. -/
def scene? (fields : List (String × Json)) : Option Scene :=
  if Json.fieldsReadable fields then
    Scene.readWith (Light.readWith (readGatheredChoice LightSpace.table)) (.object fields)
  else none

/-- The fields of the scene stand beside the list of drawables. -/
def ofJson? : Json → Option SceneFile
  | .object fields =>
    match fields? ["drawables"] (.object fields) with
    | some [drawables] => do
      return ⟨← scene? (fields.filter fun f => f.1 != "drawables"), ← orElse [] drawables⟩
    | _ => none
  | _ => none

/-- Fields of a drawable that no record knows may be unreadable. -/
def ofText? (text : String) : Option SceneFile := (Json.outline? text).bind ofJson?

end SceneFile

end SceneRenderer
