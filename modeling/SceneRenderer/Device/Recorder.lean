import SceneRenderer.Device.Basic
import SceneRenderer.Fault
import SceneRenderer.Registry
import SceneRenderer.Shader.Source

/-!
A device without a screen, which keeps a record of what it did. Its programs read the uniforms and
attributes that their text declares.
-/

set_option autoImplicit false
set_option relaxedAutoImplicit false

namespace SceneRenderer

open Shader

inductive Record
  | createdProgram (program : ProgramId)
  | createdBuffer (buffer : BufferId) (target : BufferTarget) (size : Nat)
  | createdTexture (texture : TextureId)
  | createdRenderTarget (target : RenderTargetId)
  /-- A uniform was set, told by its name instead of its place. -/
  | setUniform (program : ProgramId) (name : String) (value : UniformValue)
  /-- Any other command. -/
  | issued (command : Command)
deriving Inhabited

/-- What a program reads. -/
structure RecordedProgram where
  uniforms : List String
  attributes : Registry String UInt32
deriving Inhabited

/-- The uniforms that the texts of a program declare. One that both stages declare is one
uniform. -/
def uniformsOfText (vertex fragment : String) : List String :=
  (declaredNames .uniform (splitLines vertex) ++
    declaredNames .uniform (splitLines fragment)).eraseDups

/-- An attribute is read if it has a slot. -/
def RecordedProgram.ofText (vertex fragment : String) (attributes : List (String × UInt32)) :
    RecordedProgram where
  uniforms := uniformsOfText vertex fragment
  attributes := Registry.ofList <|
    (declaredNames .perVertex (splitLines vertex)).filterMap fun name =>
      attributes.find? (·.1 == name)

structure Recorder where
  maxTextureUnits : UInt32
  surfaceSize : UInt32 × UInt32
  /-- The last identity given away; all objects share one sequence. -/
  lastId : UInt32
  programs : Registry ProgramId RecordedProgram
  /-- The stage whose compilation fails. -/
  failingStage : Option StageKind
  failingLink : Bool
  /-- The record, latest first. -/
  reversed : List Record
  /-- That the identities ran out; nothing after it counts. -/
  fault : Option Fault
deriving Inhabited

namespace Recorder

/-- As many texture units as every device has. -/
def leastTextureUnits : UInt32 := 8

def new (maxTextureUnits : UInt32) (surfaceSize : UInt32 × UInt32) : Recorder :=
  ⟨maxTextureUnits, surfaceSize, 0, .empty, none, false, [], none⟩

def standard : Recorder := new leastTextureUnits (640, 480)

def records (r : Recorder) : List Record := r.reversed.reverse

def clearRecords (r : Recorder) : Recorder := { r with reversed := [] }

def push (r : Recorder) (record : Record) : Recorder :=
  { r with reversed := record :: r.reversed }

/-- Gives the next identity away and records the object that gets it. -/
def create {ε α : Type} (r : Recorder) (identity : UInt32 → α) (refusal : String → ε)
    (record : α → Record) : Except ε α × Recorder :=
  match checkedAdd r.lastId 1 with
  | .ok raw => (.ok (identity raw), { r with lastId := raw }.push (record (identity raw)))
  | .error f => (.error (refusal f.message), { r with fault := r.fault <|> some f })

section Create

variable {ε α : Type} {r : Recorder} (identity : UInt32 → α) (refusal : String → ε)
  (record : α → Record)

theorem create_of_lt (hleft : r.lastId.toNat + 1 < UInt32.size) :
    r.create identity refusal record = (.ok (identity (r.lastId + 1)),
      { r with lastId := r.lastId + 1 }.push (record (identity (r.lastId + 1)))) := by
  rw [create, checkedAdd_of_lt hleft]

theorem create_of_le (hgone : UInt32.size ≤ r.lastId.toNat + 1) :
    r.create identity refusal record = (.error (refusal Fault.addOverflow.message),
      { r with fault := r.fault <|> some .addOverflow }) := by
  rw [create, checkedAdd_of_le hgone]

end Create

/-- The name of a uniform by its place; a place that is none has no name. -/
def uniformName (r : Recorder) (location : UniformLocation) : String :=
  ((r.programs.get? location.program).bind (·.uniforms[location.slot.toNat]?)).getD ""

def createProgram (r : Recorder) (vertex fragment : String) (attributes : List (String × UInt32)) :
    Except ProgramError ProgramId × Recorder :=
  match r.failingStage, r.failingLink with
  | some stage, _ =>
    (.error (.compile stage ("ERROR: 0:1: forced " ++ stage.name ++ " failure")), r)
  | none, true => (.error (.link "forced link failure"), r)
  | none, false =>
    match r.create ProgramId.mk .device .createdProgram with
    | (.error e, r) => (.error e, r)
    | (.ok id, r) =>
      let program := RecordedProgram.ofText vertex fragment attributes
      (.ok id, { r with programs := r.programs.insert id program })

def uniformLocation (r : Recorder) (program : ProgramId) (name : String) :
    Option UniformLocation := do
  let slot ← (← r.programs.get? program).uniforms.findIdx? (· == name)
  return ⟨program, UInt32.ofNat slot⟩

def attributeLocation (r : Recorder) (program : ProgramId) (name : String) : Option UInt32 :=
  (r.programs.get? program).bind fun p => p.attributes.get? name

def submit (r : Recorder) : Command → Recorder
  | .setUniform location value =>
    r.push (.setUniform location.program (r.uniformName location) value)
  | .deleteProgram program =>
    { r with programs := r.programs.erase program }.push (.issued (.deleteProgram program))
  | command => r.push (.issued command)

instance : Device Recorder where
  maxTextureUnits := maxTextureUnits
  surfaceSize := surfaceSize
  createProgram := createProgram
  uniformLocation r program name := (r.uniformLocation program name, r)
  attributeLocation r program name := (r.attributeLocation program name, r)
  createBuffer r target data :=
    r.create BufferId.mk .buffer fun id => .createdBuffer id target data.length
  createTexture r _ _ _ := r.create TextureId.mk .texture .createdTexture
  createRenderTarget r _ _ _ :=
    r.create RenderTargetId.mk .renderTarget .createdRenderTarget
  submit := submit

/-- Stops if the identities ran out. -/
def check (r : Recorder) : Except Fault Unit :=
  match r.fault with
  | some f => .error f
  | none => .ok ()

/-- The value a uniform was last set to, in whatever program. -/
def lastUniform? (r : Recorder) (name : String) : Option UniformValue :=
  r.reversed.findSome? fun
    | .setUniform _ other value => if other = name then some value else none
    | _ => none

end Recorder

end SceneRenderer
