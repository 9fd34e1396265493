import SceneRenderer.Shader.Key

/-!
Program keys in words: a summary of the features that are on, and a full account of every field.
-/

set_option autoImplicit false
set_option relaxedAutoImplicit false

namespace SceneRenderer.Shader

def LightSlot.summary (s : LightSlot) : String :=
  let kind :=
    match s.type with
    | .ambient => "ambient"
    | .directional => "directional"
    | .point => "point"
    | .spot => "spot"
  toString s.index.toNat ++ ":" ++ kind ++ (if s.castsShadow then "+shadow" else "")

/-- The features that are on, in one line. -/
def Features.summary (c : Features) : String :=
  let group (name : String) (members : List String) :=
    if members.isEmpty then [] else [name ++ "[" ++ " ".intercalate members ++ "]"]
  let flags :=
    [(c.hasNormals, "normals"), (c.hasUv, "uv"), (c.hasColors, "colors"),
      (c.hasNormalMap, "normal-map"), (c.quantized, "quantized"), (c.isPoints, "points"),
      (c.stationary, "stationary"), (c.hasLightMap, "light-map"),
      (c.hasReflectionMap, "reflection-map")]
  " ".intercalate <|
    [c.model.name] ++ group "lights" (c.lightSlots.map LightSlot.summary) ++
      group "maps" (c.textures.toList.map fun t => t.1.stem) ++
      flags.filterMap (fun f => if f.1 then some f.2 else none) ++
      (if 0 < c.clipCount then ["clips=" ++ toString c.clipCount.toNat] else [])

def ProgramKey.summary : ProgramKey → String
  | .draw c => c.summary
  | .shadowDepth d =>
    " ".intercalate <| ["shadow depth"] ++ (if d.quantized then ["quantized"] else []) ++
      (if d.isPoints then ["points"] else [])

/-- A record with its fields in order. -/
def recordText (name : String) (fields : List (String × String)) : String :=
  name ++ " \x7b " ++ ", ".intercalate (fields.map fun f => f.1 ++ ": " ++ f.2) ++ " \x7d"

def listText (items : List String) : String := "[" ++ ", ".intercalate items ++ "]"

def flagText (b : Bool) : String := if b then "true" else "false"

def optionText : Option String → String
  | none => "None"
  | some s => "Some(" ++ s ++ ")"

def billboardText : Billboard → String
  | .none => "None"
  | .spherical => "Spherical"
  | .cylindrical => "Cylindrical"

def LightSlot.fullText (s : LightSlot) : String :=
  recordText "LightSlot"
    [("index", toString s.index.toNat),
      ("light_type",
        match s.type with
        | .ambient => "Ambient"
        | .directional => "Directional"
        | .point => "Point"
        | .spot => "Spot"),
      ("space",
        match s.space with
        | .world => "World"
        | .view => "View"),
      ("casts_shadow", flagText s.castsShadow)]

def TextureFeature.fullText (t : TextureFeature) : String :=
  recordText "TextureFeature"
    [("encoding",
        match t.encoding with
        | .linear => "Linear"
        | .srgb => "Srgb"
        | .gamma => "Gamma"),
      ("has_matrix", flagText t.hasMatrix)]

def TextureFlags.fullText (t : TextureFlags) : String :=
  "TextureFlags(" ++
    listText (TextureChannel.all.map fun c => optionText ((t.get c).map TextureFeature.fullText)) ++
    ")"

def Features.fullText (c : Features) : String :=
  recordText "FeatureConfig"
    [("has_normals", flagText c.hasNormals), ("has_uv", flagText c.hasUv),
      ("has_normal_map", flagText c.hasNormalMap), ("has_colors", flagText c.hasColors),
      ("clip_count", toString c.clipCount.toNat), ("material_kind", c.model.name),
      ("quantized", flagText c.quantized), ("receives_shadow", flagText c.receivesShadow),
      ("gamma_input", flagText c.gammaInput), ("gamma_output", flagText c.gammaOutput),
      ("light_slots", listText (c.lightSlots.map LightSlot.fullText)),
      ("is_points", flagText c.isPoints), ("billboard", billboardText c.billboard),
      ("stationary", flagText c.stationary), ("textures", c.textures.fullText),
      ("fresnel", "FresnelFlags(" ++ toString c.fresnel.toByte.toNat ++ ")"),
      ("has_light_map", flagText c.hasLightMap),
      ("has_reflection_map", flagText c.hasReflectionMap)]

def DepthFeatures.fullText (d : DepthFeatures) : String :=
  recordText "DepthFeatures"
    [("quantized", flagText d.quantized), ("billboard", billboardText d.billboard),
      ("stationary", flagText d.stationary), ("is_points", flagText d.isPoints)]

/-- Every field of a key, in one line. -/
def ProgramKey.fullText : ProgramKey → String
  | .draw c => "Draw(" ++ c.fullText ++ ")"
  | .shadowDepth d => "ShadowDepth(" ++ d.fullText ++ ")"

end SceneRenderer.Shader
