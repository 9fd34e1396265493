import SceneRenderer.Config
import SceneRenderer.Frame.Shadow
import SceneRenderer.Shader.Classify

/-!
The renderer: a device with the scene it draws. Drawables share programs through the cache and
buffers through the identities of their geometries. A change of the scene only marks drawables;
programs follow when they are compiled.
-/

set_option autoImplicit false
set_option relaxedAutoImplicit false

namespace SceneRenderer

open Shader

/-- The program of a drawable. -/
structure ProgramSlot where
  handle : Option ProgramHandle
  /-- The key of a program that could not be built. It is not tried again. -/
  failed : Option ProgramKey
deriving Repr, DecidableEq, Inhabited

def ProgramSlot.empty : ProgramSlot := ⟨none, none⟩

structure DrawableState where
  drawable : Drawable
  draw : ProgramSlot
  /-- The program that draws it into shadow maps. -/
  depth : ProgramSlot
  /-- Its programs may no longer be the right ones. -/
  dirty : Bool
deriving Inhabited

def DrawableState.new (drawable : Drawable) : DrawableState := ⟨drawable, .empty, .empty, true⟩

/-- A geometry on the device, shared by the drawables that have it. -/
structure GeometryEntry where
  /-- Absent where there was nothing to upload. -/
  buffers : Option GeometryBuffers
  /-- Never more than there are drawables, which words of 32 bits tell apart. -/
  users : Nat
deriving Inhabited

structure Renderer (δ : Type) where
  device : δ
  config : RendererConfig
  cache : ProgramCache
  draws : DrawRenderer
  shadows : ShadowRenderer
  scene : Scene
  drawables : Registry DrawableId DrawableState
  geometries : Registry GeometryId GeometryEntry
  /-- The width and height that the main pass draws to. -/
  viewport : UInt32 × UInt32
  clearColor : Vec4 Float32
  /-- The counters of the last shadow pass. -/
  shadowStats : FrameStats
  /-- The releases that the cache refused, latest first. -/
  refusals : List CacheError
deriving Inhabited

namespace Renderer

variable {δ : Type}

def new [Device δ] (device : δ) (config : RendererConfig) : Renderer δ where
  device
  config
  cache := .new config.shaderOptions
  draws := .new (config.maxTextureUnits.getD (Device.maxTextureUnits device))
  shadows := .new config.shadow.mapSize
  scene := .empty
  drawables := .empty
  geometries := .empty
  viewport := Device.surfaceSize device
  clearColor := ⟨0.0, 0.0, 0.0, 1.0⟩
  shadowStats := .zero
  refusals := []

def contains (r : Renderer δ) (id : DrawableId) : Bool := r.drawables.contains id

def mapDevice (r : Renderer δ) (f : δ → δ) : Renderer δ := { r with device := f r.device }

section Geometries

variable [Device δ]

/-- Adds a user of a geometry, and uploads it for the first one. A geometry without positions is
held too, with nothing uploaded. -/
def retainGeometry (r : Renderer δ) (g : Geometry) : Except DeviceError Unit × Renderer δ :=
  match r.geometries.get? g.id with
  | some entry =>
    (.ok (), { r with
      geometries := r.geometries.insert g.id { entry with users := entry.users + 1 } })
  | none =>
    let keep (buffers : Option GeometryBuffers) (device : δ) : Renderer δ :=
      { r with device, geometries := r.geometries.insert g.id ⟨buffers, 1⟩ }
    match GeometryBuffers.upload r.device g with
    | (.ok buffers, device) => (.ok (), keep (some buffers) device)
    | (.error .emptyGeometry, device) => (.ok (), keep none device)
    | (.error e, device) => (.error e, { r with device })

/-- Takes a user from a geometry; the last one takes its buffers along. -/
def releaseGeometry (r : Renderer δ) (id : GeometryId) : Renderer δ :=
  match r.geometries.get? id with
  | none => r
  | some entry =>
    if entry.users ≤ 1 then
      let commands := entry.buffers.toList.flatMap GeometryBuffers.destroy
      { r with
        device := Device.submitAll r.device commands
        geometries := r.geometries.erase id }
    else
      { r with geometries := r.geometries.insert id { entry with users := entry.users - 1 } }

end Geometries

section Drawables

variable [Device δ]

/-- Gives a use of a program back. A refusal is reported and changes nothing else. -/
def releaseHandle (cache : ProgramCache) (device : δ) :
    Option ProgramHandle → List CacheError × ProgramCache × δ
  | none => ([], cache, device)
  | some handle =>
    match cache.release handle with
    | .ok (commands, cache) => ([], cache, Device.submitAll device commands)
    | .error e => ([e], cache, device)

/-- Takes a drawable out, with its uses of programs and of its geometry. -/
def removeDrawable (r : Renderer δ) (id : DrawableId) : Bool × Renderer δ :=
  match r.drawables.get? id with
  | none => (false, r)
  | some s =>
    let (refusedDraw, cache, device) := releaseHandle r.cache r.device s.draw.handle
    let (refusedDepth, cache, device) := releaseHandle cache device s.depth.handle
    let r := { r with
      cache
      device
      drawables := r.drawables.erase id
      refusals := refusedDepth ++ refusedDraw ++ r.refusals }
    let r := r.releaseGeometry s.drawable.geometry.id
    (true, { r with draws := r.draws.forget id })

/-- Adds a drawable in place of any with the same identity. -/
def addDrawable (r : Renderer δ) (d : Drawable) : Except DeviceError Unit × Renderer δ :=
  let r := (r.removeDrawable d.id).2
  match r.retainGeometry d.geometry with
  | (.error e, r) => (.error e, r)
  | (.ok (), r) => (.ok (), { r with drawables := r.drawables.insert d.id (.new d) })

/-- Changes a drawable in a way that may change its programs. -/
def update (r : Renderer δ) (id : DrawableId) (f : Drawable → Drawable) : Bool × Renderer δ :=
  if r.contains id then
    (true,
      { r with
        drawables :=
          r.drawables.modify id fun s => { s with drawable := f s.drawable, dirty := true }
        draws := r.draws.forget id })
  else (false, r)

/-- Gives a drawable another geometry; says whether there is such a drawable. -/
def setGeometry (r : Renderer δ) (id : DrawableId) (g : Geometry) :
    Except DeviceError Bool × Renderer δ :=
  match r.drawables.get? id with
  | none => (.ok false, r)
  | some s =>
    match r.retainGeometry g with
    | (.error e, r) => (.error e, r)
    | (.ok (), r) =>
      let r := r.releaseGeometry s.drawable.geometry.id
      (.ok true, (r.update id fun d => { d with geometry := g }).2)

def setMaterial (r : Renderer δ) (id : DrawableId) (material : Material) : Bool × Renderer δ :=
  r.update id fun d => { d with material }

def setModes (r : Renderer δ) (id : DrawableId) (modes : DrawModes) : Bool × Renderer δ :=
  r.update id fun d => { d with modes }

/-- Moves a drawable, which never changes its programs. -/
def setTransform (r : Renderer δ) (id : DrawableId) (transform : Transform Float32) :
    Bool × Renderer δ :=
  (r.contains id,
    { r with
      drawables := r.drawables.modify id fun s =>
        { s with drawable := { s.drawable with transform } } })

end Drawables

section Scene

def markAll (r : Renderer δ) : Renderer δ :=
  { r with drawables := r.drawables.mapValues fun _ s => { s with dirty := true } }

def setCamera (r : Renderer δ) (camera : Camera Float32) : Renderer δ :=
  { r with scene := { r.scene with camera } }

/-- Changes the lights, and the shadow maps with them. -/
def setLights [Device δ] (r : Renderer δ) (lights : List Light) :
    Except DeviceError Unit × Renderer δ :=
  let r := { r with scene := { r.scene with lights } }.markAll
  let (result, shadows, device) := r.shadows.sync r.device lights
  (result, { r with shadows, device })

def setClips (r : Renderer δ) (clips : List ClipPlane) : Renderer δ :=
  { r with scene := { r.scene with clips } }.markAll

def setEnvironment (r : Renderer δ) (environment : Environment) : Renderer δ :=
  { r with scene := { r.scene with environment } }.markAll

def setViewport (r : Renderer δ) (width height : UInt32) : Renderer δ :=
  { r with viewport := (width, height) }

def setClearColor (r : Renderer δ) (clearColor : Vec4 Float32) : Renderer δ :=
  { r with clearColor }

end Scene

end Renderer

end SceneRenderer
