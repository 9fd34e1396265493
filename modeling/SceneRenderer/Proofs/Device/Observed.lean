import SceneRenderer.Proofs.Device.DeviceCalls
import SceneRenderer.Proofs.Frame.GpuState

/-!
Devices on which the program that was made current stays so, and on which a place that was found in
a program stays good, as long as the program is not deleted; and such a device under observation, in
changing surroundings. Right before any call the device may be set to fail in another way, and any
creation may be refused in its stead; every command is written down with the device that gets it.

What is known of the device itself carries over (`BindsSteadily.observed`).
-/

set_option autoImplicit false
set_option relaxedAutoImplicit false

namespace SceneRenderer

/-! ### Programs that stay bound -/

section Bound

open Shader

/-- The programs of a device, with the places that were found in them and with the one that is
bound. -/
structure BindsPrograms {δ : Type} [Device δ] (alive : δ → ProgramId → Prop)
    (knows : δ → UniformLocation → Prop) (bound : δ → ProgramId → Prop) : Prop where
  keepsPrograms : KeepsPrograms alive
  /-- A place stays good as long as its program. -/
  lasts : ∀ l : UniformLocation, LastsWith l.program (knows · l)
  /-- A place that is found is one in the program. -/
  located : ∀ device id name l device', alive device id →
    Device.uniformLocation device id name = (some l, device') → l.program = id ∧ knows device' l
  useProgram : ∀ device id, alive device id → bound (Device.submit device (.useProgram id)) id
  /-- A bound program stays so until another one is made current or it is deleted. -/
  submit : ∀ device command id, command.isUse = false → command ≠ .deleteProgram id →
    bound device id → bound (Device.submit device command) id

variable {δ : Type} [Device δ] {alive : δ → ProgramId → Prop} {knows : δ → UniformLocation → Prop}
  {bound : δ → ProgramId → Prop}

/-- The places of a linked program are in this program. -/
theorem BindsPrograms.located_of_link (hdevice : BindsPrograms alive knows bound)
    {device device' : δ} {source : ProgramSource} {p : LinkedProgram}
    (hlink : LinkedProgram.link device source = (.ok p, device')) {name : String}
    {l : UniformLocation} (hl : p.bindings.uniform? name = some l) :
    l.program = p.id ∧ knows device' l := by
  unfold LinkedProgram.link at hlink
  rcases hcreated : Device.createProgram device (source.stageText .vertex)
    (source.stageText .fragment) LinkedProgram.attributeSlots with ⟨e | id, created⟩
  · rw [hcreated] at hlink
    cases (Prod.mk.inj hlink).1
  · rw [hcreated] at hlink
    obtain ⟨hp, rfl⟩ := Prod.mk.inj hlink
    cases hp
    -- What was answered so far is in the program, and the program is there to be asked on.
    have hasked : ∀ name l, (LinkedProgram.askAll (fun d name ↦ Device.uniformLocation d id name)
        created source.uniforms).1.get? name = some l → l.program = id ∧
          knows (LinkedProgram.askAll (fun d name ↦ Device.uniformLocation d id name) created
            source.uniforms).2 l := by
      rw [LinkedProgram.askAll_eq_foldl]
      refine (List.foldlRecOn (motive := fun s : Registry String UniformLocation × δ ↦
        alive s.2 id ∧ ∀ name l, s.1.get? name = some l → l.program = id ∧ knows s.2 l)
        source.uniforms _ ⟨(hdevice.keepsPrograms.created _ _ _ _ _ _ hcreated).2,
          fun _ _ hnone ↦ by cases hnone⟩
        fun s hs next _ ↦ ⟨?_, fun name l hget ↦ ?_⟩).2
      · rw [LinkedProgram.snd_askOne]
        exact hdevice.keepsPrograms.uniformLocation _ _ _ _ hs.1
      · rw [LinkedProgram.get?_askOne] at hget
        rw [LinkedProgram.snd_askOne]
        have hbefore (hold : s.1.get? name = some l) :
            l.program = id ∧ knows (Device.uniformLocation s.2 id next).2 l :=
          ⟨(hs.2 name l hold).1,
            (hdevice.lasts l).uniformLocation _ _ _ (hs.2 name l hold).2⟩
        split at hget
        · rcases hanswer : Device.uniformLocation s.2 id next with ⟨_ | found, asked⟩
          · rw [hanswer] at hget hbefore
            exact hbefore hget
          · rw [hanswer] at hget
            obtain rfl : found = l := Option.some_inj.mp hget
            exact hdevice.located s.2 id next found asked hs.1 hanswer
        · exact hbefore hget
    obtain ⟨hprogram, hknown⟩ := hasked name l hl
    exact ⟨hprogram, LinkedProgram.askAll_keeps (p := (knows · l))
      (fun d a ↦ Device.attributeLocation d id (vertexAttributeName a))
      (fun d a ↦ (hdevice.lasts l).attributeLocation d id (vertexAttributeName a))
      VertexAttribute.all hknown⟩

end Bound

/-! ### Observation -/

/-- A device that can be set from outside, in the ways in which it fails for example. -/
class Adjustable (δ : Type) where
  Setting : Type
  adjust : Setting → δ → δ

open Adjustable

/-- What the surroundings do to one call. -/
structure Turn (δ : Type) [Adjustable δ] where
  setting : Setting δ
  /-- The call is refused, if it is a creation. -/
  refuses : Bool

structure Observed (δ : Type) [Adjustable δ] where
  device : δ
  /-- The turns of the next calls; after them nothing interferes. -/
  turns : List (Turn δ)
  /-- What the device was told, the latest first, each command with the device that got it. -/
  told : List (δ × Command)

namespace Observed

variable {δ : Type} [Adjustable δ]

def start (device : δ) (turns : List (Turn δ)) : Observed δ := ⟨device, turns, []⟩

/-- The device that gets the next call. -/
def ready (d : Observed δ) : δ :=
  match d.turns with
  | [] => d.device
  | t :: _ => adjust t.setting d.device

def refuses (d : Observed δ) : Bool :=
  match d.turns with
  | [] => false
  | t :: _ => t.refuses

/-- After a call that left the given device. -/
def next (d : Observed δ) (device : δ) : Observed δ := { d with device, turns := d.turns.tail }

/-- Creates with the device, unless that is refused. -/
def create {ε α : Type} (d : Observed δ) (refusal : ε) (make : δ → Except ε α × δ) :
    Except ε α × Observed δ :=
  if d.refuses then (.error refusal, d.next d.ready)
  else ((make d.ready).1, d.next (make d.ready).2)

def reason : String := "refused"

instance [Device δ] : Device (Observed δ) where
  maxTextureUnits d := Device.maxTextureUnits d.device
  surfaceSize d := Device.surfaceSize d.device
  createProgram d vertex fragment attributes :=
    d.create (.device reason) (Device.createProgram · vertex fragment attributes)
  uniformLocation d program name :=
    ((Device.uniformLocation d.ready program name).1,
      d.next (Device.uniformLocation d.ready program name).2)
  attributeLocation d program name :=
    ((Device.attributeLocation d.ready program name).1,
      d.next (Device.attributeLocation d.ready program name).2)
  createBuffer d target data := d.create (.buffer reason) (Device.createBuffer · target data)
  createTexture d width height pixels :=
    d.create (.texture reason) (Device.createTexture · width height pixels)
  createRenderTarget d width height color :=
    d.create (.renderTarget reason) (Device.createRenderTarget · width height color)
  submit d command :=
    { d.next (Device.submit d.ready command) with told := (d.ready, command) :: d.told }

/-! ### What surroundings leave alone -/

/-- A property that no setting ends. -/
def Steady (p : δ → Prop) : Prop := ∀ setting device, p device → p (adjust setting device)

variable {p : δ → Prop} {d : Observed δ}

theorem Steady.ready (hp : Steady p) (hd : p d.device) : p d.ready := by
  unfold Observed.ready
  split
  · exact hd
  · exact hp _ _ hd

theorem Steady.create (hp : Steady p) {ε α : Type} (refusal : ε) {make : δ → Except ε α × δ}
    (hmake : ∀ device, p device → p (make device).2) (hd : p d.device) :
    p (d.create refusal make).2.device := by
  unfold Observed.create
  split
  · exact hp.ready hd
  · exact hmake _ (hp.ready hd)

/-- What was created was created by the device. -/
theorem create_ok {ε α : Type} {refusal : ε} {make : δ → Except ε α × δ} {a : α} {d' : Observed δ}
    (hcreate : d.create refusal make = (.ok a, d')) : make d.ready = (.ok a, d'.device) := by
  unfold create at hcreate
  split at hcreate
  · cases (Prod.mk.inj hcreate).1
  · obtain ⟨ha, rfl⟩ := Prod.mk.inj hcreate
    exact Prod.ext ha rfl

@[simp] theorem told_create {ε α : Type} (refusal : ε) (make : δ → Except ε α × δ) :
    (d.create refusal make).2.told = d.told := by
  unfold create
  split <;> rfl

end Observed

open Observed

variable {δ : Type} [Adjustable δ] [Device δ]

theorem LastsWith.observed {program : ProgramId} {p : δ → Prop} (hp : LastsWith program p)
    (hsteady : Steady p) : LastsWith program fun d : Observed δ ↦ p d.device where
  createProgram _ _ _ _ := hsteady.create _ fun device ↦ hp.createProgram device _ _ _
  uniformLocation d _ _ hd := hp.uniformLocation d.ready _ _ (hsteady.ready hd)
  attributeLocation d _ _ hd := hp.attributeLocation d.ready _ _ (hsteady.ready hd)
  createBuffer _ _ _ := hsteady.create _ fun device ↦ hp.createBuffer device _ _
  createTexture _ _ _ _ := hsteady.create _ fun device ↦ hp.createTexture device _ _ _
  createRenderTarget _ _ _ _ := hsteady.create _ fun device ↦ hp.createRenderTarget device _ _ _
  submit d command hne hd := hp.submit d.ready command hne (hsteady.ready hd)

/-- The surroundings end no program. -/
theorem KeepsPrograms.observed {alive : δ → ProgramId → Prop} (hdevice : KeepsPrograms alive)
    (hsteady : ∀ id, Steady (alive · id)) :
    KeepsPrograms fun (d : Observed δ) id ↦ alive d.device id where
  created d vertex fragment attributes id d' hcreate := by
    obtain ⟨hnew, hlive⟩ := hdevice.created _ _ _ _ _ _ (create_ok hcreate)
    exact ⟨fun hold ↦ hnew ((hsteady id).ready hold), hlive⟩
  createProgram _ _ _ _ id :=
    (hsteady id).create _ fun device ↦ hdevice.createProgram device _ _ _ id
  uniformLocation d _ _ id hd := hdevice.uniformLocation d.ready _ _ id ((hsteady id).ready hd)
  attributeLocation d _ _ id hd := hdevice.attributeLocation d.ready _ _ id ((hsteady id).ready hd)
  createBuffer _ _ _ id := (hsteady id).create _ fun device ↦ hdevice.createBuffer device _ _ id
  createTexture _ _ _ _ id :=
    (hsteady id).create _ fun device ↦ hdevice.createTexture device _ _ _ id
  createRenderTarget _ _ _ _ id :=
    (hsteady id).create _ fun device ↦ hdevice.createRenderTarget device _ _ _ id
  submit d command id hne hd := hdevice.submit d.ready command id hne ((hsteady id).ready hd)

/-- A device that binds programs, and that no setting makes lose its programs, their places or the
bound one. -/
structure BindsSteadily (alive : δ → ProgramId → Prop) (knows : δ → UniformLocation → Prop)
    (bound : δ → ProgramId → Prop) : Prop extends BindsPrograms alive knows bound where
  steadyAlive : ∀ id, Steady (alive · id)
  steadyKnows : ∀ l, Steady (knows · l)
  steadyBound : ∀ id, Steady (bound · id)

/-- Such a device binds programs in any surroundings. -/
theorem BindsSteadily.observed {alive : δ → ProgramId → Prop} {knows : δ → UniformLocation → Prop}
    {bound : δ → ProgramId → Prop} (hdevice : BindsSteadily alive knows bound) :
    BindsPrograms (fun (d : Observed δ) id ↦ alive d.device id) (fun d l ↦ knows d.device l)
      (fun d id ↦ bound d.device id) where
  keepsPrograms := hdevice.keepsPrograms.observed hdevice.steadyAlive
  lasts l := (hdevice.lasts l).observed (hdevice.steadyKnows l)
  located d id name l d' hid hanswer := by
    obtain ⟨hl, rfl⟩ := Prod.mk.inj hanswer
    exact hdevice.located d.ready id name l _ ((hdevice.steadyAlive id).ready hid) (Prod.ext hl rfl)
  useProgram d id hid := hdevice.useProgram d.ready id ((hdevice.steadyAlive id).ready hid)
  submit d command id huse hne hid :=
    hdevice.submit d.ready command id huse hne ((hdevice.steadyBound id).ready hid)

end SceneRenderer
