import SceneRenderer.Device.Basic
import SceneRenderer.Frame.Draw

/-!
The shadow pass. Each light that casts a shadow has a map, into which all drawables are drawn with
the matrices of the light. The pass binds only what differs from the draw before, as the main pass
does, but it has no materials.

A map is an offscreen target: a texture to draw into, and a framebuffer around it with depths of its
own.
-/

set_option autoImplicit false
set_option relaxedAutoImplicit false

/-! ### Offscreen targets -/

namespace SceneRenderer

structure RenderTarget where
  id : RenderTargetId
  color : TextureId
  width : UInt32
  height : UInt32
deriving Repr, DecidableEq, Inhabited

namespace RenderTarget

variable {δ : Type} [Device δ]

/-- Creates the texture, then the framebuffer; if that fails the texture is deleted again. -/
def create (device : δ) (width height : UInt32) : Except DeviceError RenderTarget × δ :=
  match Device.createTexture device width height none with
  | (.error e, device) => (.error e, device)
  | (.ok color, device) =>
    match Device.createRenderTarget device width height color with
    | (.error e, device) => (.error e, Device.submit device (.deleteTexture color))
    | (.ok id, device) => (.ok ⟨id, color, width, height⟩, device)

/-- Draws go to the target and cover the whole of it. -/
def bind (t : RenderTarget) : List Command :=
  [.bindRenderTarget t.id, .setViewport t.width t.height]

def destroy (t : RenderTarget) : List Command := [.deleteRenderTarget t.id, .deleteTexture t.color]

end RenderTarget

end SceneRenderer

/-! ### The shadow pass -/

namespace SceneRenderer

open Shader

/-- One drawable as it is given to the pass. -/
structure ShadowCaster where
  drawable : DrawableId
  /-- The program that writes depths. -/
  program : Option ProgramHandle
  transform : Transform Float32
  geometry : GeometryId
  buffers : Option GeometryBuffers
  pointSize : Float32
deriving Inhabited

/-- Program, transform, geometry. -/
def ShadowCaster.sortKey (c : ShadowCaster) : List UInt32 :=
  [slotKey c.program, c.transform.id.raw, c.geometry.raw]

/-- What a caster needs to be drawn. -/
structure ReadyCaster where
  handle : ProgramHandle
  program : LinkedProgram
  transform : Transform Float32
  geometry : GeometryId
  buffers : GeometryBuffers
  pointSize : Float32
deriving Inhabited

def ShadowCaster.resolve? (cache : ProgramCache) (c : ShadowCaster) : Option ReadyCaster := do
  let handle ← c.program
  let buffers ← c.buffers
  let program ← cache.program? handle
  return ⟨handle, program, c.transform, c.geometry, buffers, c.pointSize⟩

structure CastState where
  bound : BoundState
  stats : FrameStats
deriving Repr, DecidableEq, Inhabited

namespace CastState

def start (stats : FrameStats) : CastState := ⟨.none, stats⟩

def skip (s : CastState) : CastState := { s with stats := s.stats.addSkip }

def bindProgram (light : Light) (c : ReadyCaster) (s : CastState) : List Command × CastState :=
  if s.bound.program = some c.handle then ([], s)
  else
    (.useProgram c.program.id ::
        c.program.bindings.uploadAll
          [.uniform .viewMatrix (.mat4 light.shadowView),
            .uniform .projMatrix (.mat4 light.shadowProjection)],
      ⟨.ofProgram c.handle, s.stats.addProgramBind⟩)

def bindTransform (c : ReadyCaster) (s : CastState) : List Command × CastState :=
  if s.bound.transform = some c.transform.id then ([], s)
  else
    (c.program.bindings.uploadAll (c.transform.uploads false),
      ⟨{ s.bound with transform := some c.transform.id }, s.stats.addTransformBind⟩)

def bindGeometry (c : ReadyCaster) (s : CastState) : List Command × CastState :=
  if s.bound.geometry = some c.geometry then ([], s)
  else
    (SceneRenderer.bindGeometry c.program.bindings c.buffers,
      ⟨{ s.bound with geometry := some c.geometry }, s.stats.addGeometryBind⟩)

/-- Binds what a caster needs and draws it. -/
def draw (light : Light) (c : ReadyCaster) (s : CastState) : List Command × CastState :=
  let (program, s) := s.bindProgram light c
  let (transform, s) := s.bindTransform c
  let (geometry, s) := s.bindGeometry c
  (program ++ transform ++ geometry ++
      c.program.bindings.uploadAll [.uniform .pointSize (.float c.pointSize)] ++ [c.buffers.draw],
    { s with stats := s.stats.addDraw })

/-- Draws what is ready and skips the rest, in order. -/
def drawAll (light : Light) (s : CastState) :
    List (Option ReadyCaster) → List Command × CastState
  | [] => ([], s)
  | none :: rest => s.skip.drawAll light rest
  | some c :: rest =>
    let (now, s) := s.draw light c
    let (later, s) := s.drawAll light rest
    (now ++ later, s)

end CastState

structure ShadowMap where
  /-- The position of the light in the scene. -/
  light : UInt32
  target : RenderTarget
deriving Repr, DecidableEq, Inhabited

structure ShadowRenderer where
  /-- The edge of a map in texels. -/
  mapSize : UInt32
  maps : List ShadowMap
deriving Repr, DecidableEq, Inhabited

/-- The positions of the lights that cast a shadow. -/
def castingLights (lights : List Light) : List UInt32 :=
  (lights.zipIdx.filter (·.1.castsShadow)).map fun l => UInt32.ofNat l.2

namespace ShadowRenderer

/-- A map has at least one texel. -/
def new (mapSize : UInt32) : ShadowRenderer := ⟨max mapSize 1, []⟩

def add (r : ShadowRenderer) (m : ShadowMap) : ShadowRenderer := { r with maps := r.maps ++ [m] }

/-- What the main pass needs of the maps. -/
def bindings (r : ShadowRenderer) : List ShadowMapBinding :=
  r.maps.map fun m => ⟨m.light, m.target.color⟩

/-- Gives up all maps. -/
def destroy (r : ShadowRenderer) : List Command × ShadowRenderer :=
  (r.maps.flatMap (·.target.destroy), { r with maps := [] })

section Sync

variable {δ : Type} [Device δ]

/-- Creates a map for each of the lights without one, up to the first that fails. -/
def createMaps (r : ShadowRenderer) (device : δ) :
    List UInt32 → Except DeviceError Unit × ShadowRenderer × δ
  | [] => (.ok (), r, device)
  | light :: rest =>
    if r.maps.any (·.light == light) then r.createMaps device rest
    else
      match RenderTarget.create device r.mapSize r.mapSize with
      | (.error e, device) => (.error e, r, device)
      | (.ok target, device) =>
        (r.add ⟨light, target⟩).createMaps device rest

/-- Leaves a map for each light that casts a shadow, in the order of the lights. Maps that stay
wanted are kept; if creating one fails, those created before it stay. -/
def sync (r : ShadowRenderer) (device : δ) (lights : List Light) :
    Except DeviceError Unit × ShadowRenderer × δ :=
  let wanted := castingLights lights
  let (kept, dropped) := r.maps.partition fun m => wanted.contains m.light
  let device := Device.submitAll device (dropped.flatMap (·.target.destroy))
  match { r with maps := kept }.createMaps device wanted with
  | (.error e, r, device) => (.error e, r, device)
  | (.ok (), r, device) =>
    (.ok (), { r with maps := sortByKey (fun m => [m.light]) r.maps }, device)

end Sync

/-- Draws the casters into one map, from white and the farthest depth on. -/
def renderMap (casters : List (Option ReadyCaster)) (lights : List Light) (stats : FrameStats)
    (m : ShadowMap) : List Command × FrameStats :=
  match lights[m.light.toNat]? with
  | none => ([], stats)
  | some light =>
    let (commands, s) := (CastState.start stats).drawAll light casters
    (m.target.bind ++ [.clear (some ⟨1.0, 1.0, 1.0, 1.0⟩) true] ++ commands, s.stats)

def renderMaps (casters : List (Option ReadyCaster)) (lights : List Light) (stats : FrameStats) :
    List ShadowMap → List Command × FrameStats
  | [] => ([], stats)
  | m :: rest =>
    let (now, stats) := renderMap casters lights stats m
    let (later, stats) := renderMaps casters lights stats rest
    (now ++ later, stats)

/-- Draws all maps and turns back to the surface; without maps there is nothing to do. -/
def render (r : ShadowRenderer) (cache : ProgramCache) (lights : List Light)
    (casters : List ShadowCaster) : List Command × FrameStats :=
  if r.maps.isEmpty then ([], .zero)
  else
    let ready := (sortByKey ShadowCaster.sortKey casters).map (ShadowCaster.resolve? cache)
    let (commands, stats) := renderMaps ready lights .zero r.maps
    (commands ++ [.bindRenderTarget none], stats)

end ShadowRenderer

end SceneRenderer
