import SceneRenderer.Device.Recorder
import SceneRenderer.Listing.SceneFile
import SceneRenderer.Renderer.Compile
import SceneRenderer.Shader.KeyText

/-!
The programs of a scene file. The scene is set up on a device that draws nothing, its programs are
compiled, and the drawables are grouped by the programs they share. A listing gives the keys of the
programs, or their source.
-/

set_option autoImplicit false
set_option relaxedAutoImplicit false

/-! ### Groups -/

namespace SceneRenderer

/-- Why a scene cannot be listed. -/
inductive LoadError
  | shadowMaps (error : DeviceError)
  | drawable (id : DrawableId) (error : DeviceError)
deriving Repr, DecidableEq, Inhabited

def LoadError.message : LoadError → String
  | shadowMaps _ => "Failed to create shadow maps"
  | drawable id _ => "Failed to upload drawable " ++ toString id.raw.toNat

/-- A scene with its programs compiled. -/
structure LoadedScene where
  renderer : Renderer Recorder
  /-- The drawables in the order of the file, each once. -/
  order : List DrawableId
  failures : List CompileFailure
deriving Inhabited

/-- The drawables that share a program. -/
structure ProgramGroup where
  handle : ProgramHandle
  drawables : List DrawableId
deriving Repr, DecidableEq, Inhabited

namespace LoadedScene

def addAll (r : Renderer Recorder) : List Drawable → Except LoadError Unit × Renderer Recorder
  | [] => (.ok (), r)
  | d :: rest =>
    match r.addDrawable d with
    | (.ok (), r) => addAll r rest
    | (.error e, r) => (.error (.drawable d.id e), r)

/-- The scene of a file before its programs are compiled. -/
def setUp (file : SceneFile) (config : RendererConfig) :
    Except LoadError Unit × Renderer Recorder :=
  let r := (Renderer.new Recorder.standard config).setCamera file.scene.camera
  match r.setLights file.scene.lights with
  | (.error e, r) => (.error (.shadowMaps e), r)
  | (.ok (), r) =>
    addAll ((r.setClips file.scene.clips).setEnvironment file.scene.environment) file.drawables

/-- Loads a file, with the order in which its drawables are visited to be compiled. A device whose
identities ran out stops the run. -/
def ofFileIn (file : SceneFile) (config : RendererConfig) (visits : List DrawableId) :
    Except Fault (Except LoadError LoadedScene) := do
  let (result, r) := setUp file config
  r.device.check
  match result with
  | .error e => return .error e
  | .ok () =>
    let (failures, r) ← r.compileIn visits
    r.device.check
    return .ok ⟨r, (file.drawables.map (·.id)).eraseDups, failures⟩

/-- Drawables are visited in the order in which they are kept. -/
def ofFile (file : SceneFile) (config : RendererConfig) :
    Except Fault (Except LoadError LoadedScene) :=
  ofFileIn file config (setUp file config).2.drawables.keys

/-- Adds a drawable to the group of its program. -/
def addToGroup (handle : ProgramHandle) (id : DrawableId) : List ProgramGroup → List ProgramGroup
  | [] => [⟨handle, [id]⟩]
  | g :: rest =>
    if g.handle.index = handle.index then ⟨g.handle, g.drawables ++ [id]⟩ :: rest
    else if handle.index < g.handle.index then ⟨handle, [id]⟩ :: g :: rest
    else g :: addToGroup handle id rest

/-- The groups in the order of their slots, each with its drawables in the order of the file. -/
def groups (s : LoadedScene) : List ProgramGroup :=
  s.order.foldl
    (fun groups id =>
      match s.renderer.programOf? id with
      | some handle => addToGroup handle id groups
      | none => groups) []

/-- The drawables without a program. -/
def orphans (s : LoadedScene) : List DrawableId :=
  s.order.filter fun id => (s.renderer.programOf? id).isNone

end LoadedScene

end SceneRenderer

/-! ### Listings -/

namespace SceneRenderer

open Shader

def idList (ids : List DrawableId) : String :=
  ", ".intercalate (ids.map fun id => toString id.raw.toNat)

/-- What a listing writes, and the error it ends with. -/
structure Report where
  lines : List String
  notices : List String
  error : Option String
deriving Repr, DecidableEq, Inhabited

/-- The stages to print. -/
inductive StageChoice
  | vertex
  | fragment
  | both
deriving Repr, DecidableEq, Inhabited

def StageChoice.stages : StageChoice → List StageKind
  | vertex => [.vertex]
  | fragment => [.fragment]
  | both => [.vertex, .fragment]

def sourceLines (source : ProgramSource) (choice : StageChoice) : List String :=
  choice.stages.flatMap fun stage => ("// --- " ++ stage.name ++ " ---") :: source.stage stage

namespace LoadedScene

/-- What is said while a scene is loaded. -/
def notices (s : LoadedScene) : List String :=
  s.failures.map fun f =>
    "Drawable " ++ toString f.drawable.raw.toNat ++ " failed to build: " ++ f.error.message

/-- The slot, the digest and the users of a group, and its key below. -/
def keyLines (s : LoadedScene) (verbose : Bool) (g : ProgramGroup) : List String :=
  match s.renderer.cache.entry? g.handle with
  | none => []
  | some entry =>
    ["#" ++ toString g.handle.index.toNat ++ " " ++ entry.key.digestText ++ " users=" ++
        toString entry.useCount.toNat ++ " drawables: " ++ idList g.drawables,
      "    " ++ if verbose then entry.key.fullText else entry.key.summary]

def totalLine (c : ProgramCache) : String :=
  toString c.size ++ " programs, " ++ toString c.stats.compiles ++ " compiles, " ++
    toString c.stats.hits ++ " cache hits, " ++ toString c.stats.failures ++ " failures"

/-- The keys of all programs and the drawables that share each. -/
def keys (s : LoadedScene) (verbose : Bool) : Report where
  lines :=
    s.groups.flatMap (s.keyLines verbose) ++
      (if s.orphans.isEmpty then [] else ["no program: " ++ idList s.orphans]) ++
      [totalLine s.renderer.cache]
  notices := s.notices
  error := none

def dumpLines (s : LoadedScene) (choice : StageChoice) (g : ProgramGroup) : List String :=
  match s.renderer.cache.entry? g.handle with
  | none => []
  | some entry =>
    ("// program #" ++ toString g.handle.index.toNat ++ " " ++ entry.key.digestText ++
        " drawables: " ++ idList g.drawables) :: sourceLines entry.source choice

/-- The source of all programs, or of the one that draws a drawable. -/
def dump (s : LoadedScene) (choice : StageChoice) (drawable : Option DrawableId) : Report :=
  let wanted := s.groups.filter fun g => drawable.all g.drawables.contains
  let printed := wanted.filter fun g => (s.renderer.cache.entry? g.handle).isSome
  { lines := printed.flatMap (s.dumpLines choice)
    notices := s.notices ++
      if s.orphans.isEmpty then [] else ["No program for drawables: " ++ idList s.orphans]
    error :=
      if printed.isEmpty then
        match drawable with
        | some id => some ("Drawable " ++ toString id.raw.toNat ++ " has no program")
        | none => some "Scene has no drawables"
      else none }

end LoadedScene

end SceneRenderer
