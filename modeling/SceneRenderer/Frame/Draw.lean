import SceneRenderer.Frame.GeometryBuffers
import SceneRenderer.Frame.Upload
import SceneRenderer.Program.Cache

/-!
The main pass, and counters of a pass over the drawables. Drawables are sorted by program, material,
transform and geometry, and a draw binds only what differs from the draw before it. A program that
was not bound holds nothing of the others, so binding one makes the draw bind the rest again.
-/

set_option autoImplicit false
set_option relaxedAutoImplicit false

/-! ### Counters -/

namespace SceneRenderer

structure FrameStats where
  programBinds : UInt32
  materialBinds : UInt32
  transformBinds : UInt32
  geometryBinds : UInt32
  draws : UInt32
  skipped : UInt32
deriving Repr, DecidableEq, Inhabited

namespace FrameStats

def zero : FrameStats := ⟨0, 0, 0, 0, 0, 0⟩

instance : Add FrameStats where
  add a b :=
    ⟨a.programBinds + b.programBinds, a.materialBinds + b.materialBinds,
      a.transformBinds + b.transformBinds, a.geometryBinds + b.geometryBinds, a.draws + b.draws,
      a.skipped + b.skipped⟩

def addProgramBind (s : FrameStats) : FrameStats := { s with programBinds := s.programBinds + 1 }

def addMaterialBind (s : FrameStats) : FrameStats :=
  { s with materialBinds := s.materialBinds + 1 }

def addTransformBind (s : FrameStats) : FrameStats :=
  { s with transformBinds := s.transformBinds + 1 }

def addGeometryBind (s : FrameStats) : FrameStats :=
  { s with geometryBinds := s.geometryBinds + 1 }

def addDraw (s : FrameStats) : FrameStats := { s with draws := s.draws + 1 }

def addSkip (s : FrameStats) : FrameStats := { s with skipped := s.skipped + 1 }

end FrameStats

end SceneRenderer

/-! ### The main pass -/

namespace SceneRenderer

open Shader

/-- One drawable as it is given to the pass. -/
structure DrawEntry where
  drawable : DrawableId
  /-- Absent where no program could be built. -/
  program : Option ProgramHandle
  material : Material
  transform : Transform Float32
  geometry : GeometryId
  /-- Absent where nothing was uploaded. -/
  buffers : Option GeometryBuffers
deriving Inhabited

/-- The slot of a program as a sort key; entries without one come last. -/
def slotKey (program : Option ProgramHandle) : UInt32 :=
  match program with
  | some handle => handle.index
  | none => 0xffffffff

/-- Program, material, transform, geometry. -/
def DrawEntry.sortKey (e : DrawEntry) : List UInt32 :=
  [slotKey e.program, e.material.id.raw, e.transform.id.raw, e.geometry.raw]

/-- Sorts by a key; items with one key keep their order. -/
def sortByKey {α : Type} (key : α → List UInt32) (items : List α) : List α :=
  items.mergeSort fun a b => decide (key a ≤ key b)

/-- Why an entry is not drawn. -/
inductive SkipReason
  | noProgram
  | staleProgram
  | noBuffers
  /-- The program writes depths only. -/
  | notADrawProgram
deriving Repr, DecidableEq, Inhabited

/-- What is said about a reason, if anything. -/
def SkipReason.text? : SkipReason → Option String
  | noProgram => some "no program"
  | staleProgram => some "stale program handle"
  | noBuffers => some "no vertex buffers"
  | notADrawProgram => none

/-- What a drawable needs to be drawn. -/
structure ReadyDraw where
  handle : ProgramHandle
  program : LinkedProgram
  features : Features
  material : Material
  transform : Transform Float32
  geometry : GeometryId
  buffers : GeometryBuffers
deriving Inhabited

/-- Finds what an entry needs in the cache. -/
def DrawEntry.resolve (cache : ProgramCache) (e : DrawEntry) : Except SkipReason ReadyDraw :=
  match e.program with
  | none => .error .noProgram
  | some handle =>
    match cache.entry? handle, e.buffers with
    | none, _ => .error .staleProgram
    | some _, none => .error .noBuffers
    | some entry, some buffers =>
      match entry.key with
      | .draw features =>
        .ok ⟨handle, entry.program, features, e.material, e.transform, e.geometry, buffers⟩
      | .shadowDepth _ => .error .notADrawProgram

/-- What is bound during a pass. -/
structure BoundState where
  program : Option ProgramHandle
  material : Option MaterialId
  transform : Option TransformId
  geometry : Option GeometryId
deriving Repr, DecidableEq, Inhabited

namespace BoundState

def none : BoundState := ⟨.none, .none, .none, .none⟩

/-- A program that was just bound. -/
def ofProgram (handle : ProgramHandle) : BoundState := { none with program := some handle }

end BoundState

/-- The buffers of a geometry, and the matrices that decode them. -/
def bindGeometry (bindings : ProgramBindings) (b : GeometryBuffers) : List Command :=
  b.bind bindings ++
    bindings.uploadAll
      ((b.positionsDecode.toList.map fun m => .uniform .positionsDecodeMatrix (.mat4 m)) ++
        b.uvDecode.toList.map fun m => .uniform .uvDecodeMatrix (.mat3 m))

structure DrawState where
  bound : BoundState
  /-- The units that the bound program leaves to materials. -/
  units : TextureUnits
  stats : FrameStats
deriving Inhabited

namespace DrawState

def start (maxTextureUnits : UInt32) : DrawState := ⟨.none, .new 0 maxTextureUnits, .zero⟩

def skip (s : DrawState) : DrawState := { s with stats := s.stats.addSkip }

def bindProgram (maxTextureUnits : UInt32) (g : FrameGlobals) (d : ReadyDraw) (s : DrawState) :
    List Command × DrawState :=
  if s.bound.program = some d.handle then ([], s)
  else
    let (uploads, base) := g.uploads d.features
    (.useProgram d.program.id :: d.program.bindings.uploadAll uploads,
      ⟨.ofProgram d.handle, .new base maxTextureUnits, s.stats.addProgramBind⟩)

def bindMaterial (d : ReadyDraw) (s : DrawState) : List Command × DrawState :=
  if s.bound.material = some d.material.id then ([], s)
  else
    let (uploads, units) := d.material.uploads d.features s.units
    (d.program.bindings.uploadAll uploads,
      ⟨{ s.bound with material := some d.material.id }, units, s.stats.addMaterialBind⟩)

def bindTransform (d : ReadyDraw) (s : DrawState) : List Command × DrawState :=
  if s.bound.transform = some d.transform.id then ([], s)
  else
    (d.program.bindings.uploadAll (d.transform.uploads d.features.hasNormals),
      { s with
        bound := { s.bound with transform := some d.transform.id }
        stats := s.stats.addTransformBind })

def bindGeometry (d : ReadyDraw) (s : DrawState) : List Command × DrawState :=
  if s.bound.geometry = some d.geometry then ([], s)
  else
    (SceneRenderer.bindGeometry d.program.bindings d.buffers,
      { s with
        bound := { s.bound with geometry := some d.geometry }
        stats := s.stats.addGeometryBind })

/-- Binds what a draw needs, from the program inwards, and draws. -/
def draw (maxTextureUnits : UInt32) (g : FrameGlobals) (d : ReadyDraw) (s : DrawState) :
    List Command × DrawState :=
  let (program, s) := s.bindProgram maxTextureUnits g d
  let (material, s) := s.bindMaterial d
  let (transform, s) := s.bindTransform d
  let (geometry, s) := s.bindGeometry d
  (program ++ material ++ transform ++ geometry ++ [d.buffers.draw],
    { s with stats := s.stats.addDraw })

/-- Draws what is ready and skips the rest, in order. -/
def drawAll (maxTextureUnits : UInt32) (g : FrameGlobals) (s : DrawState) :
    List (Except SkipReason ReadyDraw) → List Command × DrawState
  | [] => ([], s)
  | .error _ :: rest => s.skip.drawAll maxTextureUnits g rest
  | .ok d :: rest =>
    let (now, s) := s.draw maxTextureUnits g d
    let (later, s) := s.drawAll maxTextureUnits g rest
    (now ++ later, s)

end DrawState

/-- A drawable that was skipped. -/
structure Skip where
  drawable : DrawableId
  reason : SkipReason
deriving Repr, DecidableEq, Inhabited

def Skip.notice? (s : Skip) : Option String :=
  s.reason.text?.map fun reason => "skipping " ++ s.drawable.text ++ ": " ++ reason

structure DrawRenderer where
  maxTextureUnits : UInt32
  /-- Drawables whose skipping was reported. -/
  reported : List DrawableId
deriving Repr, DecidableEq, Inhabited

/-- The outcome of a pass. -/
structure DrawPass where
  commands : List Command
  stats : FrameStats
  notices : List String
deriving Inhabited

namespace DrawRenderer

def new (maxTextureUnits : UInt32) : DrawRenderer := ⟨maxTextureUnits, []⟩

/-- Reports what was skipped, each drawable once. -/
def report (r : DrawRenderer) : List Skip → List String × DrawRenderer
  | [] => ([], r)
  | skip :: rest =>
    match skip.notice? with
    | some notice =>
      if r.reported.contains skip.drawable then r.report rest
      else
        let (notices, r) := { r with reported := skip.drawable :: r.reported }.report rest
        (notice :: notices, r)
    | none => r.report rest

/-- Lets the next skip of a drawable be reported again. -/
def forget (r : DrawRenderer) (id : DrawableId) : DrawRenderer :=
  { r with reported := r.reported.filter (· ≠ id) }

def skip? (cache : ProgramCache) (e : DrawEntry) : Option Skip :=
  match e.resolve cache with
  | .ok _ => none
  | .error reason => some ⟨e.drawable, reason⟩

/-- Draws the entries in the order of their keys. -/
def render (r : DrawRenderer) (cache : ProgramCache) (g : FrameGlobals) (entries : List DrawEntry) :
    DrawPass × DrawRenderer :=
  let sorted := sortByKey DrawEntry.sortKey entries
  let (commands, s) := (DrawState.start r.maxTextureUnits).drawAll r.maxTextureUnits g
    (sorted.map (DrawEntry.resolve cache))
  let (notices, r) := r.report (sorted.filterMap (skip? cache))
  (⟨commands, s.stats, notices⟩, r)

end DrawRenderer

end SceneRenderer
