import SceneRenderer.Scene.Light
import SceneRenderer.Scene.Material
import SceneRenderer.Scene.State

/-!
The features that shape the text of a draw program, and the questions that the synthesis of a
program asks about them.
-/

set_option autoImplicit false
set_option relaxedAutoImplicit false

namespace SceneRenderer.Shader

/-- A light as one program sees it. -/
structure LightSlot where
  /-- The position of the light in the scene, which names its uniforms. -/
  index : UInt32
  type : LightType
  space : LightSpace
  castsShadow : Bool
deriving Repr, DecidableEq, Inhabited

namespace LightSlot

/-- Point and spot lights have a position and fall off with the distance. -/
def isPositional (s : LightSlot) : Bool := s.type == .point || s.type == .spot

def isWorldSpace (s : LightSlot) : Bool := s.space == .world

end LightSlot

/-- How a texture is sampled. -/
structure TextureFeature where
  encoding : TextureEncoding
  hasMatrix : Bool
deriving Repr, DecidableEq, Inhabited

/-- The channels with a texture. -/
structure TextureFlags where
  ambient : Option TextureFeature
  diffuse : Option TextureFeature
  baseColor : Option TextureFeature
  specular : Option TextureFeature
  glossiness : Option TextureFeature
  specularGlossiness : Option TextureFeature
  metallic : Option TextureFeature
  roughness : Option TextureFeature
  metallicRoughness : Option TextureFeature
  emissive : Option TextureFeature
  alpha : Option TextureFeature
  occlusion : Option TextureFeature
  normal : Option TextureFeature
  reflectivity : Option TextureFeature
deriving Repr, DecidableEq, Inhabited

namespace TextureFlags

def get (t : TextureFlags) : TextureChannel → Option TextureFeature
  | .ambient => t.ambient
  | .diffuse => t.diffuse
  | .baseColor => t.baseColor
  | .specular => t.specular
  | .glossiness => t.glossiness
  | .specularGlossiness => t.specularGlossiness
  | .metallic => t.metallic
  | .roughness => t.roughness
  | .metallicRoughness => t.metallicRoughness
  | .emissive => t.emissive
  | .alpha => t.alpha
  | .occlusion => t.occlusion
  | .normal => t.normal
  | .reflectivity => t.reflectivity

def ofFn (f : TextureChannel → Option TextureFeature) : TextureFlags where
  ambient := f .ambient
  diffuse := f .diffuse
  baseColor := f .baseColor
  specular := f .specular
  glossiness := f .glossiness
  specularGlossiness := f .specularGlossiness
  metallic := f .metallic
  roughness := f .roughness
  metallicRoughness := f .metallicRoughness
  emissive := f .emissive
  alpha := f .alpha
  occlusion := f .occlusion
  normal := f .normal
  reflectivity := f .reflectivity

@[simp] theorem get_ofFn (f : TextureChannel → Option TextureFeature) (c : TextureChannel) :
    (ofFn f).get c = f c := by
  cases c <;> rfl

@[simp] theorem ofFn_get (t : TextureFlags) : ofFn t.get = t := rfl

theorem ext_get {s t : TextureFlags} (h : ∀ c, s.get c = t.get c) : s = t := by
  rw [← ofFn_get s, ← ofFn_get t, funext h]

def empty : TextureFlags := ofFn fun _ => none

def set (t : TextureFlags) (channel : TextureChannel) (feature : Option TextureFeature) :
    TextureFlags :=
  ofFn fun c => if c = channel then feature else t.get c

def contains (t : TextureFlags) (c : TextureChannel) : Bool := (t.get c).isSome

/-- The channels with a texture, in order. -/
def toList (t : TextureFlags) : List (TextureChannel × TextureFeature) :=
  TextureChannel.all.filterMap fun c => (t.get c).map (c, ·)

def isEmpty (t : TextureFlags) : Bool := TextureChannel.all.all fun c => (t.get c).isNone

end TextureFlags

/-- The channels with a view-dependent blend. -/
structure FresnelFlags where
  diffuse : Bool
  specular : Bool
  alpha : Bool
  emissive : Bool
  reflectivity : Bool
deriving Repr, DecidableEq, Inhabited

namespace FresnelFlags

def contains (f : FresnelFlags) : FresnelChannel → Bool
  | .diffuse => f.diffuse
  | .specular => f.specular
  | .alpha => f.alpha
  | .emissive => f.emissive
  | .reflectivity => f.reflectivity

def ofFn (p : FresnelChannel → Bool) : FresnelFlags :=
  ⟨p .diffuse, p .specular, p .alpha, p .emissive, p .reflectivity⟩

@[simp] theorem contains_ofFn (p : FresnelChannel → Bool) (c : FresnelChannel) :
    (ofFn p).contains c = p c := by
  cases c <;> rfl

@[simp] theorem ofFn_contains (f : FresnelFlags) : ofFn f.contains = f := rfl

theorem ext_contains {f g : FresnelFlags} (h : ∀ c, f.contains c = g.contains c) : f = g := by
  rw [← ofFn_contains f, ← ofFn_contains g, funext h]

def empty : FresnelFlags := ofFn fun _ => false

def insert (f : FresnelFlags) (channel : FresnelChannel) : FresnelFlags :=
  ofFn fun c => c == channel || f.contains c

/-- The channels in the set, in order. -/
def toList (f : FresnelFlags) : List FresnelChannel := FresnelChannel.all.filter f.contains

def isEmpty (f : FresnelFlags) : Bool := f.toList.isEmpty

/-- The set as bits, the first channel lowest. -/
def toByte (f : FresnelFlags) : UInt8 :=
  f.diffuse.toUInt8 + 2 * f.specular.toUInt8 + 4 * f.alpha.toUInt8 + 8 * f.emissive.toUInt8 +
    16 * f.reflectivity.toUInt8

end FresnelFlags

/-- Everything that shapes the text of a draw program. -/
structure Features where
  hasNormals : Bool
  hasUv : Bool
  hasNormalMap : Bool
  hasColors : Bool
  /-- Clip planes that fragments are tested against. -/
  clipCount : UInt32
  model : ShadingModel
  quantized : Bool
  receivesShadow : Bool
  gammaInput : Bool
  gammaOutput : Bool
  /-- The lights other than ambient ones, in scene order. -/
  lightSlots : List LightSlot
  isPoints : Bool
  billboard : Billboard
  stationary : Bool
  textures : TextureFlags
  fresnel : FresnelFlags
  hasLightMap : Bool
  hasReflectionMap : Bool
deriving Repr, DecidableEq, Inhabited

namespace Features

/-- Lighting is evaluated: there are normals and something that uses them. -/
def isShaded (c : Features) : Bool :=
  c.hasNormals &&
    (!c.lightSlots.isEmpty || c.hasLightMap || c.hasReflectionMap || !c.fresnel.isEmpty)

def shadowSlots (c : Features) : List LightSlot := c.lightSlots.filter (·.castsShadow)

end Features

/-- Channels that feed only the lighting of a fragment. -/
def feedsLighting : TextureChannel → Bool
  | .metallic | .roughness | .metallicRoughness | .specular | .glossiness | .specularGlossiness
  | .normal | .reflectivity => true
  | .ambient | .diffuse | .baseColor | .emissive | .alpha | .occlusion => false

namespace Features

/-- Whether a channel has a texture that is read. -/
def samples (c : Features) (channel : TextureChannel) : Bool :=
  c.textures.contains channel && (!feedsLighting channel || c.isShaded)

/-- The textures that are read, in the order of their samplers. -/
def sampledTextures (c : Features) : List (TextureChannel × TextureFeature) :=
  c.textures.toList.filter fun t => c.samples t.1

/-- Texture coordinates reach the fragments. -/
def usesUv (c : Features) : Bool := c.hasUv && !c.sampledTextures.isEmpty

/-- Clears what cannot change the text of the program. -/
def normalize (c : Features) : Features :=
  let textures := TextureFlags.ofFn fun channel =>
    if c.samples channel then c.textures.get channel else none
  { c with
    receivesShadow := c.lightSlots.any (·.castsShadow)
    textures
    hasUv := c.hasUv && !textures.isEmpty
    hasNormalMap := textures.contains .normal
    hasNormals := c.hasNormals && c.isShaded
    gammaInput := c.gammaInput && c.hasColors }

end Features

/-- The features of a program that writes the depth of a shadow map. -/
structure DepthFeatures where
  quantized : Bool
  billboard : Billboard
  stationary : Bool
  isPoints : Bool
deriving Repr, DecidableEq, Inhabited

/-- The depth program that belongs to a draw program. -/
def DepthFeatures.ofFeatures (c : Features) : DepthFeatures :=
  ⟨c.quantized, c.billboard, c.stationary, c.isPoints⟩

end SceneRenderer.Shader
