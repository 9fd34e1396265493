import SceneRenderer.Config
import SceneRenderer.Json.Codec
import SceneRenderer.Scene.Codec.Scene
import SceneRenderer.Shader.Classify

/-!
Features and options in JSON. A feature that is absent is off; textures are listed by their
channels.
-/

set_option autoImplicit false
set_option relaxedAutoImplicit false

namespace SceneRenderer.Shader

open Codec

/-- The fields of an object by name. -/
def fieldsOf? : Json → Option (String → Option Json)
  | .object fields => some fun name => fields.lookup name
  | _ => none

instance : Codec LightSlot where
  write s := .object
    [("index", write s.index), ("type", write s.type), ("space", write s.space),
      ("shadow", write s.castsShadow)]
  read j := do
    let f ← fieldsOf? j
    return ⟨← required (f "index"), ← required (f "type"), ← orElse .world (f "space"),
      ← orElse false (f "shadow")⟩

def readTexture (j : Json) : Option (TextureChannel × TextureFeature) := do
  let f ← fieldsOf? j
  return (← required (f "channel"),
    ⟨← orElse .linear (f "encoding"), ← orElse false (f "has_matrix")⟩)

/-- Of two entries for a channel the last one counts. -/
instance : Codec TextureFlags where
  write t := .array <| t.toList.map fun t => .object
    [("channel", .string t.1.jsonName), ("encoding", write t.2.encoding),
      ("has_matrix", write t.2.hasMatrix)]
  read
    | .array items => do
      let textures ← items.mapM readTexture
      return textures.foldl (fun t e => t.set e.1 (some e.2)) .empty
    | _ => none

instance : Codec FresnelFlags where
  write f := .array (f.toList.map fun c => .string c.stem)
  read j := do
    let channels : List FresnelChannel ← read j
    return channels.foldl FresnelFlags.insert .empty

instance : Codec Features where
  write c := .object
    [("has_normals", write c.hasNormals), ("has_uv", write c.hasUv),
      ("has_normal_map", write c.hasNormalMap), ("has_colors", write c.hasColors),
      ("clip_count", write c.clipCount), ("material_kind", write c.model),
      ("quantized", write c.quantized), ("receives_shadow", write c.receivesShadow),
      ("gamma_input", write c.gammaInput), ("gamma_output", write c.gammaOutput),
      ("light_slots", write c.lightSlots), ("is_points", write c.isPoints),
      ("billboard", write c.billboard), ("stationary", write c.stationary),
      ("textures", write c.textures), ("fresnel", write c.fresnel),
      ("has_light_map", write c.hasLightMap), ("has_reflection_map", write c.hasReflectionMap)]
  read j := do
    let f ← fieldsOf? j
    return {
      hasNormals := ← orElse false (f "has_normals")
      hasUv := ← orElse false (f "has_uv")
      hasNormalMap := ← orElse false (f "has_normal_map")
      hasColors := ← orElse false (f "has_colors")
      clipCount := ← orElse 0 (f "clip_count")
      model := ← orElse .lambert (f "material_kind")
      quantized := ← orElse false (f "quantized")
      receivesShadow := ← orElse false (f "receives_shadow")
      gammaInput := ← orElse false (f "gamma_input")
      gammaOutput := ← orElse false (f "gamma_output")
      lightSlots := ← orElse [] (f "light_slots")
      isPoints := ← orElse false (f "is_points")
      billboard := ← orElse .none (f "billboard")
      stationary := ← orElse false (f "stationary")
      textures := ← orElse .empty (f "textures")
      fresnel := ← orElse .empty (f "fresnel")
      hasLightMap := ← orElse false (f "has_light_map")
      hasReflectionMap := ← orElse false (f "has_reflection_map") }

instance : Codec DepthFeatures where
  write d := .object
    [("quantized", write d.quantized), ("billboard", write d.billboard),
      ("stationary", write d.stationary), ("is_points", write d.isPoints)]
  read j := do
    let f ← fieldsOf? j
    return ⟨← orElse false (f "quantized"), ← orElse .none (f "billboard"),
      ← orElse false (f "stationary"), ← orElse false (f "is_points")⟩

instance : Codec SceneFlags where
  write s := .object
    [("gamma_input", write s.gammaInput), ("gamma_output", write s.gammaOutput),
      ("has_light_map", write s.hasLightMap), ("has_reflection_map", write s.hasReflectionMap)]
  read j := do
    let f ← fieldsOf? j
    return ⟨← orElse false (f "gamma_input"), ← orElse false (f "gamma_output"),
      ← orElse false (f "has_light_map"), ← orElse false (f "has_reflection_map")⟩

/-- What is absent is standard. The bias may be any number. -/
def ShaderOptions.ofJson? (j : Json) : Option ShaderOptions := do
  let f ← fieldsOf? j
  let d := standard
  return ⟨← orElse d.precision (f "precision"), ← orElse d.kernelRadius (f "kernel_radius"),
    ← (f "depth_bias").elim (some d.depthBias) Json.number?, ← orElse d.mapSize (f "map_size"),
    ← orElse d.roundPoints (f "round_points")⟩

end SceneRenderer.Shader
