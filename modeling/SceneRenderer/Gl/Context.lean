import SceneRenderer.Gl.Call
import SceneRenderer.Gl.Constant
import SceneRenderer.Registry
import SceneRenderer.Shader.Stage

/-!
A context of the graphics interface that keeps a log of its calls and draws nothing. What can fail
in a real one is set beforehand.
-/

set_option autoImplicit false
set_option relaxedAutoImplicit false

namespace SceneRenderer.Gl

open Shader

structure Context where
  /-- The number of texture units that it reports. -/
  maxTextureUnits : Int32
  /-- The width and height of the surface that it reports. -/
  viewport : Int32 × Int32
  /-- How many names were given away; all objects share one sequence. -/
  named : Nat
  /-- The names in the order in which they are given away. Zero is no name. -/
  nameAt : Nat → UInt32
  /-- The stage whose compilation fails. -/
  failingStage : Option StageKind
  failingLink : Bool
  /-- What shaders and programs report of their failures. -/
  info : String
  framebufferStatus : UInt32
  /-- How many objects of a kind are made before one is refused. -/
  refusals : Registry ObjectKind Nat
  /-- The uniforms that programs read, where not all of them do. -/
  activeUniforms : Option (List String)
  /-- Uniforms in the order in which they were first asked for. -/
  askedUniforms : List String
  /-- The slot that each attribute was last bound to. -/
  attributeSlots : Registry String UInt32
  /-- The log, latest first. -/
  reversed : List Call
deriving Inhabited

namespace Context

def new (maxTextureUnits : Int32) (viewport : Int32 × Int32) : Context where
  maxTextureUnits
  viewport
  named := 0
  nameAt n := UInt32.ofNat (n + 1)
  failingStage := none
  failingLink := false
  info := ""
  framebufferStatus := framebufferComplete
  refusals := .empty
  activeUniforms := none
  askedUniforms := []
  attributeSlots := .empty
  reversed := []

def calls (c : Context) : List Call := c.reversed.reverse

def clearCalls (c : Context) : Context := { c with reversed := [] }

def log (c : Context) (call : Call) : Context := { c with reversed := call :: c.reversed }

/-- Calls that have no answer, in a row. -/
def logAll (c : Context) (calls : List Call) : Context := calls.foldl log c

/-- Makes an object, unless that is refused; the call is logged with the name that came back. -/
def create (c : Context) (kind : ObjectKind) (call : UInt32 → Call) : Option UInt32 × Context :=
  if c.refusals.get? kind = some 0 then
    (none, { c with refusals := c.refusals.erase kind }.log (call 0))
  else
    let name := c.nameAt c.named
    (if name = 0 then none else some name,
      { c with
        named := c.named + 1
        refusals := c.refusals.modify kind (· - 1) }.log (call name))

/-- Makes an object of a kind other than shaders, whose calls name a type too. -/
def createObject (c : Context) (kind : ObjectKind) : Option UInt32 × Context :=
  c.create kind (.create kind)

def bindAttribLocation (c : Context) (program slot : UInt32) (name : String) : Context :=
  { c with attributeSlots := c.attributeSlots.insert name slot }.log
    (.bindAttribLocation program slot name)

/-- The location of a uniform. All programs agree on it. -/
def getUniformLocation (c : Context) (program : UInt32) (name : String) :
    Option Int32 × Context :=
  let c := c.log (.getUniformLocation program name)
  let place (names : List String) : Option Int32 :=
    (names.findIdx? (· == name)).map fun i => Int32.ofNat i
  match c.activeUniforms with
  | some names => (place names, c)
  | none =>
    let askedUniforms :=
      if c.askedUniforms.contains name then c.askedUniforms else c.askedUniforms ++ [name]
    (place askedUniforms, { c with askedUniforms })

/-- The slot of an attribute. It is answered as a signed number, below zero where there is none. -/
def getAttribLocation (c : Context) (program : UInt32) (name : String) :
    Option UInt32 × Context :=
  ((c.attributeSlots.get? name).filter fun slot => slot < 0x80000000,
    c.log (.getAttribLocation program name))

end Context

end SceneRenderer.Gl
