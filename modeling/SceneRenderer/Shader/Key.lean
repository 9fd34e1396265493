import SceneRenderer.Hash.Xxh3
import SceneRenderer.Scene.Geometry
import SceneRenderer.Shader.Features
import SceneRenderer.Text.Basic

/-!
Program keys. A program is known by the whole of its features, so two programs share a key only if
they are the same; the digest of a key is a short identity for listings.
-/

set_option autoImplicit false
set_option relaxedAutoImplicit false

namespace SceneRenderer.Shader

inductive ProgramKey
  | draw (features : Features)
  | shadowDepth (features : DepthFeatures)
deriving Repr, DecidableEq, Inhabited

/-- The bytes that a key is digested as: words are little endian, choices and lengths take eight
bytes, and flags one. -/
class Encode (α : Type) where
  encode : α → List UInt8

export Encode (encode)

/-- A choice among constructors, or a length. -/
def encodeTag (n : Nat) : List UInt8 := littleEndian 8 n

instance : Encode Bool := ⟨fun b => [b.toUInt8]⟩

instance : Encode UInt32 := ⟨fun w => littleEndian 4 w.toNat⟩

instance {α : Type} [Encode α] : Encode (Option α) where
  encode
    | none => encodeTag 0
    | some a => encodeTag 1 ++ encode a

instance {α : Type} [Encode α] : Encode (List α) :=
  ⟨fun l => encodeTag l.length ++ l.flatMap encode⟩

instance : Encode ShadingModel where
  encode
    | .lambert => encodeTag 0
    | .phong => encodeTag 1
    | .metallicRoughness => encodeTag 2
    | .specularGlossiness => encodeTag 3

instance : Encode LightType where
  encode
    | .ambient => encodeTag 0
    | .directional => encodeTag 1
    | .point => encodeTag 2
    | .spot => encodeTag 3

instance : Encode LightSpace where
  encode
    | .world => encodeTag 0
    | .view => encodeTag 1

instance : Encode TextureEncoding where
  encode
    | .linear => encodeTag 0
    | .srgb => encodeTag 1
    | .gamma => encodeTag 2

instance : Encode Billboard where
  encode
    | .none => encodeTag 0
    | .spherical => encodeTag 1
    | .cylindrical => encodeTag 2

instance : Encode LightSlot :=
  ⟨fun s => encode s.index ++ encode s.type ++ encode s.space ++ encode s.castsShadow⟩

instance : Encode TextureFeature := ⟨fun t => encode t.encoding ++ encode t.hasMatrix⟩

instance : Encode TextureFlags := ⟨fun t => encode (TextureChannel.all.map t.get)⟩

instance : Encode FresnelFlags := ⟨fun f => [f.toByte]⟩

instance : Encode Features where
  encode c :=
    encode c.hasNormals ++ encode c.hasUv ++ encode c.hasNormalMap ++ encode c.hasColors ++
      encode c.clipCount ++ encode c.model ++ encode c.quantized ++ encode c.receivesShadow ++
      encode c.gammaInput ++ encode c.gammaOutput ++ encode c.lightSlots ++ encode c.isPoints ++
      encode c.billboard ++ encode c.stationary ++ encode c.textures ++ encode c.fresnel ++
      encode c.hasLightMap ++ encode c.hasReflectionMap

instance : Encode DepthFeatures where
  encode d := encode d.quantized ++ encode d.billboard ++ encode d.stationary ++ encode d.isPoints

instance : Encode ProgramKey where
  encode
    | .draw c => encodeTag 0 ++ encode c
    | .shadowDepth d => encodeTag 1 ++ encode d

namespace ProgramKey

def digest (k : ProgramKey) : UInt64 := Xxh3.hash (encode k).toArray

def digestText (k : ProgramKey) : String := fixedHex 16 k.digest.toNat

def isShadowDepth : ProgramKey → Bool
  | draw _ => false
  | shadowDepth _ => true

/-- The kind of program and the digest. -/
def text (k : ProgramKey) : String :=
  let kind :=
    match k with
    | draw c => c.model.name
    | shadowDepth _ => "shadow-depth"
  kind ++ ":" ++ k.digestText

end ProgramKey

end SceneRenderer.Shader
