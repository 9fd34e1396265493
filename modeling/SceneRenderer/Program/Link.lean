import SceneRenderer.Device.Basic
import SceneRenderer.Registry
import SceneRenderer.Shader.Name
import SceneRenderer.Shader.Source

/-!
Linked programs. The places of uniforms and attributes are asked for once, when a program is
linked; a uniform that the device does not report is never set.
-/

set_option autoImplicit false
set_option relaxedAutoImplicit false

namespace SceneRenderer

open Shader

structure ProgramBindings where
  uniforms : Registry String UniformLocation
  attributes : Registry VertexAttribute UInt32
deriving Inhabited

namespace ProgramBindings

def uniform? (b : ProgramBindings) (name : String) : Option UniformLocation := b.uniforms.get? name

def hasUniform (b : ProgramBindings) (name : String) : Bool := (b.uniform? name).isSome

def attribute? (b : ProgramBindings) (a : VertexAttribute) : Option UInt32 := b.attributes.get? a

/-- Sets a uniform, if the program reads it. -/
def set (b : ProgramBindings) (name : String) (value : UniformValue) : List Command :=
  match b.uniform? name with
  | some location => [.setUniform location value]
  | none => []

end ProgramBindings

structure LinkedProgram where
  id : ProgramId
  bindings : ProgramBindings
  /-- The hash of the source it was made from. -/
  sourceHash : UInt64
deriving Inhabited

namespace LinkedProgram

variable {δ κ ν : Type}

/-- Asks a question about each key and keeps the answers. -/
def askAll [DecidableEq κ] (ask : δ → κ → Option ν × δ) (device : δ) (keys : List κ) :
    Registry κ ν × δ :=
  keys.foldl
    (fun s k =>
      match ask s.2 k with
      | (some v, device) => (s.1.insert k v, device)
      | (none, device) => (s.1, device))
    (.empty, device)

/-- Asks a question about one key and keeps the answer, if there is one. -/
def askOne [DecidableEq κ] (ask : δ → κ → Option ν × δ) (s : Registry κ ν × δ) (k : κ) :
    Registry κ ν × δ :=
  match ask s.2 k with
  | (some v, device) => (s.1.insert k v, device)
  | (none, device) => (s.1, device)

section Asking

variable [DecidableEq κ] (ask : δ → κ → Option ν × δ)

theorem askAll_eq_foldl (device : δ) (keys : List κ) :
    askAll ask device keys = keys.foldl (askOne ask) (.empty, device) := rfl

theorem snd_askOne (s : Registry κ ν × δ) (k : κ) : (askOne ask s k).2 = (ask s.2 k).2 := by
  unfold askOne
  rcases ask s.2 k with ⟨_ | v, device⟩ <;> rfl

theorem get?_askOne (s : Registry κ ν × δ) (k l : κ) :
    (askOne ask s k).1.get? l =
      if l = k then (ask s.2 k).1.or (s.1.get? l) else s.1.get? l := by
  unfold askOne
  rcases ask s.2 k with ⟨_ | v, device⟩
  · exact (ite_self _).symm
  · exact Registry.get?_insert s.1 k l v

/-- What every question keeps is kept by all of them. -/
theorem askAll_keeps {p : δ → Prop} (hask : ∀ device k, p device → p (ask device k).2) {device : δ}
    (keys : List κ) (hdevice : p device) : p (askAll ask device keys).2 := by
  rw [askAll_eq_foldl]
  refine List.foldlRecOn (motive := fun s : Registry κ ν × δ ↦ p s.2) keys _ hdevice
    fun s hs k _ ↦ ?_
  rw [snd_askOne]
  exact hask s.2 k hs

end Asking

/-- The slots that attributes are bound to before a program is linked. -/
def attributeSlots : List (String × UInt32) :=
  VertexAttribute.all.map fun a => (vertexAttributeName a, a.slot)

/-- Compiles and links a source and asks for the places of what it declares. -/
def link [Device δ] (device : δ) (source : ProgramSource) : Except ProgramError LinkedProgram × δ :=
  match Device.createProgram device (source.stageText .vertex) (source.stageText .fragment)
    attributeSlots with
  | (.error e, device) => (.error e, device)
  | (.ok id, device) =>
    let (uniforms, device) :=
      askAll (fun d name => Device.uniformLocation d id name) device source.uniforms
    let (attributes, device) :=
      askAll (fun d a => Device.attributeLocation d id (vertexAttributeName a)) device
        VertexAttribute.all
    (.ok ⟨id, ⟨uniforms, attributes⟩, source.hash⟩, device)

end LinkedProgram

end SceneRenderer
