import SceneRenderer.File.Folder
import SceneRenderer.Json.Codec
import SceneRenderer.Shader.Options
import SceneRenderer.Toml.Record

/-!
The configuration of a renderer and its text in TOML. Settings that shape shader text are fixed
when a renderer is made.
-/

set_option autoImplicit false
set_option relaxedAutoImplicit false

namespace SceneRenderer

open Codec Shader

inductive ConfigError
  | unreadable (path : String) (failure : ReadFailure)
  /-- The text is no configuration. -/
  | invalid
  /-- The configuration has no text. -/
  | unwritable
deriving Repr, DecidableEq, Inhabited

structure ShadowConfig where
  /-- Shadow maps are filtered over this many texels on each side. -/
  kernelRadius : UInt32
  /-- Taken from depths before they are compared. -/
  depthBias : Float32
  /-- The edge of a shadow map in texels. -/
  mapSize : UInt32
deriving Repr, BEq, Inhabited

def ShadowConfig.standard : ShadowConfig := ⟨3, 0.0007, 1024⟩

structure RendererConfig where
  /-- Vertex colors are gamma encoded. -/
  gammaInput : Bool
  /-- The output is gamma encoded. -/
  gammaOutput : Bool
  gammaFactor : Float32
  precision : Precision
  shadow : ShadowConfig
  /-- Stands in for the limit of the device. -/
  maxTextureUnits : Option UInt32
  /-- Point sprites are discs. -/
  roundPoints : Bool
deriving Repr, BEq, Inhabited

def RendererConfig.standard : RendererConfig := ⟨false, false, 2.2, .high, .standard, none, true⟩

def precisionName : Precision → String
  | .high => "high"
  | .medium => "medium"

def precisionTable : List (String × Precision) := [.high, .medium].map fun p => (precisionName p, p)

instance : Codec Precision where
  write p := .string (precisionName p)
  read := readChoice precisionTable

def ShadowConfig.fieldNames : List String := ["kernel_radius", "depth_bias", "map_size"]

instance : Codec ShadowConfig where
  write s := .object
    [("kernel_radius", write s.kernelRadius), ("depth_bias", write s.depthBias),
      ("map_size", write s.mapSize)]
  read j :=
    match fields? ShadowConfig.fieldNames j with
    | some [kernelRadius, depthBias, mapSize] => do
      let d := ShadowConfig.standard
      return ⟨← orElse d.kernelRadius kernelRadius, ← orElse d.depthBias depthBias,
        ← orElse d.mapSize mapSize⟩
    | _ => none

/-- The shadow settings as they are handed to a writer. -/
def ShadowConfig.settings (s : ShadowConfig) : List (String × Option Toml.Scalar) :=
  [("kernel_radius", some (.word s.kernelRadius)), ("depth_bias", some (.number s.depthBias)),
    ("map_size", some (.word s.mapSize))]

/-- The shadow settings that a value denotes. -/
def ShadowConfig.ofToml? (v : Toml) : Option ShadowConfig :=
  match v.fields? fieldNames with
  | some [kernelRadius, depthBias, mapSize] => do
    return ⟨← Toml.orElse standard.kernelRadius kernelRadius,
      ← Toml.orElse standard.depthBias depthBias, ← Toml.orElse standard.mapSize mapSize⟩
  | _ => none

def RendererConfig.fieldNames : List String :=
  ["gamma_input", "gamma_output", "gamma_factor", "precision", "shadow", "max_texture_units",
    "round_points"]

instance : Codec RendererConfig where
  write c := .object
    [("gamma_input", write c.gammaInput), ("gamma_output", write c.gammaOutput),
      ("gamma_factor", write c.gammaFactor), ("precision", write c.precision),
      ("shadow", write c.shadow), ("max_texture_units", write c.maxTextureUnits),
      ("round_points", write c.roundPoints)]
  read j :=
    match fields? RendererConfig.fieldNames j with
    | some [gammaInput, gammaOutput, gammaFactor, precision, shadow, maxTextureUnits,
        roundPoints] => do
      let d := RendererConfig.standard
      return ⟨← orElse d.gammaInput gammaInput, ← orElse d.gammaOutput gammaOutput,
        ← orElse d.gammaFactor gammaFactor, ← orElse d.precision precision,
        ← orElse d.shadow shadow, ← orElse d.maxTextureUnits maxTextureUnits,
        ← orElse d.roundPoints roundPoints⟩
    | _ => none

namespace RendererConfig

/-- The configuration that a value denotes; what it does not mention has its standard value. -/
def ofToml? (v : Toml) : Option RendererConfig :=
  match v.fields? fieldNames with
  | some [gammaInput, gammaOutput, gammaFactor, precision, shadow, maxTextureUnits,
      roundPoints] => do
    return ⟨← Toml.orElse standard.gammaInput gammaInput,
      ← Toml.orElse standard.gammaOutput gammaOutput,
      ← Toml.orElse standard.gammaFactor gammaFactor,
      ← Toml.orElseBy (Toml.readChoice precisionTable) standard.precision precision,
      ← Toml.orElseBy ShadowConfig.ofToml? standard.shadow shadow,
      ← Toml.orElse standard.maxTextureUnits maxTextureUnits,
      ← Toml.orElse standard.roundPoints roundPoints⟩
  | _ => none

/-- The configuration as it is handed to a writer. -/
def settings (c : RendererConfig) : List (String × Toml.Field) :=
  [("gamma_input", .single (some (.bool c.gammaInput))),
    ("gamma_output", .single (some (.bool c.gammaOutput))),
    ("gamma_factor", .single (some (.number c.gammaFactor))),
    ("precision", .single (some (.choice (precisionName c.precision)))),
    ("shadow", .record c.shadow.settings),
    ("max_texture_units", .single (c.maxTextureUnits.map .word)),
    ("round_points", .single (some (.bool c.roundPoints)))]

/-- The configuration that a text denotes, read with a library. -/
def readToml (t : Toml.Library) (text : String) : Except ConfigError RendererConfig :=
  match (t.parse? text).bind ofToml? with
  | some c => .ok c
  | none => .error .invalid

/-- The text of a configuration, written with a library. -/
def writeToml (t : Toml.Library) (c : RendererConfig) : Except ConfigError String :=
  match t.write c.settings with
  | some text => .ok text
  | none => .error .unwritable

def ofToml : String → Except ConfigError RendererConfig := readToml .plain

/-- The settings that shape shader text. A shadow map has at least one texel. -/
def shaderOptions (c : RendererConfig) : ShaderOptions :=
  ⟨c.precision, c.shadow.kernelRadius, c.shadow.depthBias, max c.shadow.mapSize 1, c.roundPoints⟩

end RendererConfig

/-- The message of an error; the reasons for invalid text are not told. -/
def ConfigError.message : ConfigError → String
  | unreadable path failure => "failed to read config file " ++ path ++ ": " ++ failure.message
  | invalid => "invalid config:"
  | unwritable => "failed to serialize config:"

end SceneRenderer
