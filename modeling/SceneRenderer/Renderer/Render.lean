import SceneRenderer.Renderer.Compile

/-!
Frames: the programs are compiled, the shadow maps are drawn, and then the drawables. With the
changes of the scene they are the operations on a renderer, of which a run is a list.
-/

set_option autoImplicit false
set_option relaxedAutoImplicit false

/-! ### Frames -/

namespace SceneRenderer

open Shader

/-- What is told about a frame. -/
structure FrameReport where
  main : FrameStats
  shadow : FrameStats
  notices : List String
deriving Repr, DecidableEq, Inhabited

namespace Renderer

variable {δ : Type}

/-- The buffers of a geometry, where it was uploaded. -/
def buffers? (r : Renderer δ) (id : GeometryId) : Option GeometryBuffers :=
  (r.geometries.get? id).bind (·.buffers)

def casterOf (r : Renderer δ) (id : DrawableId) (s : DrawableState) : ShadowCaster :=
  ⟨id, s.depth.handle, s.drawable.transform, s.drawable.geometry.id,
    r.buffers? s.drawable.geometry.id, s.drawable.material.pointSize⟩

def entryOf (r : Renderer δ) (id : DrawableId) (s : DrawableState) : DrawEntry :=
  ⟨id, s.draw.handle, s.drawable.material, s.drawable.transform, s.drawable.geometry.id,
    r.buffers? s.drawable.geometry.id⟩

def globals (r : Renderer δ) : FrameGlobals :=
  ⟨r.scene.camera, r.scene.lights, r.scene.clips, r.scene.environment, r.shadows.bindings,
    r.config.gammaFactor⟩

/-- What one frame tells the device, given the order in which drawables are collected. -/
def frameIn (r : Renderer δ) (order : List DrawableId) :
    List Command × FrameReport × DrawRenderer :=
  let states := order.filterMap fun id => (r.drawables.get? id).map (id, ·)
  let (shadow, shadowStats) :=
    r.shadows.render r.cache r.scene.lights (states.map fun s => r.casterOf s.1 s.2)
  let surface : List Command :=
    [.bindRenderTarget none, .setViewport r.viewport.1 r.viewport.2,
      .clear (some r.clearColor) true]
  let (pass, draws) := r.draws.render r.cache r.globals (states.map fun s => r.entryOf s.1 s.2)
  (shadow ++ surface ++ pass.commands, ⟨pass.stats, shadowStats, pass.notices⟩, draws)

variable [Device δ]

/-- Compiles and draws with drawables visited and collected in the given orders. -/
def renderIn (r : Renderer δ) (visits order : List DrawableId) :
    Except Fault (FrameReport × Renderer δ) := do
  let (_, r) ← r.compileIn visits
  let (commands, report, draws) := r.frameIn order
  return (report,
    { r with
      device := Device.submitAll r.device commands
      draws
      shadowStats := report.shadow })

/-- Draws a frame. -/
def render (r : Renderer δ) : Except Fault (FrameReport × Renderer δ) :=
  r.renderIn r.drawables.keys r.drawables.keys

/-- Takes all drawables out, in the given order. -/
def removeAll (r : Renderer δ) (order : List DrawableId) : Renderer δ :=
  order.foldl (fun r id => (r.removeDrawable id).2) r

/-- Frees everything on the device and hands it back. -/
def destroyIn (r : Renderer δ) (order : List DrawableId) : δ :=
  let r := r.removeAll order
  let device := Device.submitAll r.device r.cache.clear.1
  Device.submitAll device r.shadows.destroy.1

def destroy (r : Renderer δ) : δ := r.destroyIn r.drawables.keys

end Renderer

end SceneRenderer

/-! ### Operations -/

namespace SceneRenderer

inductive Operation
  | addDrawable (drawable : Drawable)
  | removeDrawable (id : DrawableId)
  | setGeometry (id : DrawableId) (geometry : Geometry)
  | setMaterial (id : DrawableId) (material : Material)
  | setModes (id : DrawableId) (modes : DrawModes)
  | setTransform (id : DrawableId) (transform : Transform Float32)
  | setCamera (camera : Camera Float32)
  | setLights (lights : List Light)
  | setClips (clips : List ClipPlane)
  | setEnvironment (environment : Environment)
  | setViewport (width height : UInt32)
  | setClearColor (color : Vec4 Float32)
  | compile
  | render
deriving Inhabited

inductive Outcome
  | done
  /-- Whether there was a drawable to work on. -/
  | found (answer : Bool)
  | refused (error : DeviceError)
  | compiled (failures : List CompileFailure)
  | rendered (report : FrameReport)
deriving Inhabited

namespace Renderer

variable {δ : Type} [Device δ]

def outcomeOf {α : Type} (outcome : α → Outcome) (result : Except DeviceError α × Renderer δ) :
    Outcome × Renderer δ :=
  match result with
  | (.ok a, r) => (outcome a, r)
  | (.error e, r) => (.refused e, r)

def perform (r : Renderer δ) : Operation → Except Fault (Outcome × Renderer δ)
  | .addDrawable drawable => .ok (outcomeOf (fun () => .found true) (r.addDrawable drawable))
  | .removeDrawable id => .ok ((r.removeDrawable id).map .found fun r => r)
  | .setGeometry id geometry => .ok (outcomeOf .found (r.setGeometry id geometry))
  | .setMaterial id material => .ok ((r.setMaterial id material).map .found fun r => r)
  | .setModes id modes => .ok ((r.setModes id modes).map .found fun r => r)
  | .setTransform id transform => .ok ((r.setTransform id transform).map .found fun r => r)
  | .setCamera camera => .ok (.done, r.setCamera camera)
  | .setLights lights => .ok (outcomeOf (fun () => .done) (r.setLights lights))
  | .setClips clips => .ok (.done, r.setClips clips)
  | .setEnvironment environment => .ok (.done, r.setEnvironment environment)
  | .setViewport width height => .ok (.done, r.setViewport width height)
  | .setClearColor color => .ok (.done, r.setClearColor color)
  | .compile => r.compile.map fun c => (.compiled c.1, c.2)
  | .render => r.render.map fun f => (.rendered f.1, f.2)

end Renderer

end SceneRenderer
