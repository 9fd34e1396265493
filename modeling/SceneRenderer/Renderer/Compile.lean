import SceneRenderer.Renderer.Basic

/-!
Programs of drawables. A drawable that was marked is classified again and pointed at the programs
it needs now. The new program is acquired before the old one is released, so that a program that
others share survives the exchange.
-/

set_option autoImplicit false
set_option relaxedAutoImplicit false

namespace SceneRenderer

open Shader

/-- A drawable that is left without one of its programs. -/
structure CompileFailure where
  drawable : DrawableId
  key : ProgramKey
  error : ProgramError
deriving Repr, DecidableEq, Inhabited

namespace Renderer

variable {δ : Type}

def sceneFlags (r : Renderer δ) : SceneFlags :=
  ⟨r.config.gammaInput, r.config.gammaOutput, r.scene.environment.lightMap.isSome,
    r.scene.environment.reflectionMap.isSome⟩

/-- The features of a drawable in the scene as it is. -/
def featuresOf (r : Renderer δ) (d : Drawable) : Features :=
  classify d.geometry d.material r.scene.lights r.scene.clips d.modes r.sceneFlags

def drawKey (r : Renderer δ) (d : Drawable) : ProgramKey := .draw (r.featuresOf d)

/-- The key of the depth program, which is needed if some light casts a shadow. -/
def depthKey? (r : Renderer δ) (d : Drawable) : Option ProgramKey :=
  if r.scene.hasShadowCasters then some (.shadowDepth (.ofFeatures (r.featuresOf d))) else none

variable [Device δ]

/-- Whether a slot already stands for a key, with its program or as a failure. -/
def settled (cache : ProgramCache) (key : ProgramKey) (slot : ProgramSlot) : Bool :=
  slot.handle.bind cache.key? == some key || slot.failed == some key

/-- What comes of pointing a slot at a program. -/
structure Retargeted (δ : Type) where
  error : Option ProgramError
  slot : ProgramSlot
  cache : ProgramCache
  device : δ
  refusals : List CacheError

/-- Points a slot at the program of a key, or at none. A failure leaves the slot without program. -/
def retarget (cache : ProgramCache) (device : δ) (slot : ProgramSlot) :
    Option ProgramKey → Except Fault (Retargeted δ)
  | none =>
    let (refusals, cache, device) := releaseHandle cache device slot.handle
    .ok ⟨none, { slot with handle := none, failed := none }, cache, device, refusals⟩
  | some key =>
    if settled cache key slot then .ok ⟨none, slot, cache, device, []⟩
    else do
      let (result, cache, device) ← cache.acquire device key
      let (refusals, cache, device) := releaseHandle cache device slot.handle
      let slot := { slot with handle := none }
      match result with
      | .ok handle =>
        return ⟨none, { slot with handle := some handle, failed := none }, cache, device, refusals⟩
      | .error e => return ⟨some e, { slot with failed := some key }, cache, device, refusals⟩

/-- Compiles the programs of one drawable, if it is marked. -/
def compileDrawable (r : Renderer δ) (id : DrawableId) :
    Except Fault (List CompileFailure × Renderer δ) :=
  match r.drawables.get? id with
  | none => .ok ([], r)
  | some s =>
    if s.dirty then do
      let drawKey := r.drawKey s.drawable
      let depthKey := r.depthKey? s.drawable
      let draw ← retarget r.cache r.device s.draw (some drawKey)
      let depth ← retarget draw.cache draw.device s.depth depthKey
      let failures :=
        (draw.error.toList.map (⟨id, drawKey, ·⟩)) ++
          depthKey.toList.flatMap fun key => depth.error.toList.map (⟨id, key, ·⟩)
      let drawables := r.drawables.insert id ⟨s.drawable, draw.slot, depth.slot, false⟩
      return (failures, { r with
        cache := depth.cache
        device := depth.device
        drawables
        refusals := depth.refusals ++ draw.refusals ++ r.refusals })
    else .ok ([], r)

/-- Compiles the programs of drawables in the given order. -/
def compileIn (r : Renderer δ) : List DrawableId → Except Fault (List CompileFailure × Renderer δ)
  | [] => .ok ([], r)
  | id :: rest => do
    let (now, r) ← r.compileDrawable id
    let (later, r) ← r.compileIn rest
    return (now ++ later, r)

/-- Compiles the programs of all marked drawables. -/
def compile (r : Renderer δ) : Except Fault (List CompileFailure × Renderer δ) :=
  r.compileIn r.drawables.keys

/-- The program that draws a drawable. -/
def programOf? (r : Renderer δ) (id : DrawableId) : Option ProgramHandle :=
  (r.drawables.get? id).bind (·.draw.handle)

def programKey? (r : Renderer δ) (id : DrawableId) : Option ProgramKey :=
  (r.programOf? id).bind r.cache.key?

def programSource? (r : Renderer δ) (id : DrawableId) : Option ProgramSource :=
  (r.programOf? id).bind r.cache.source?

end Renderer

end SceneRenderer
