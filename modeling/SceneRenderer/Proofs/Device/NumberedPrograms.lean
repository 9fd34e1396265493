import SceneRenderer.Proofs.Device.Observed
import SceneRenderer.Proofs.Device.UniformNames

/-!
Devices that number their programs. The numbers go up and none is given away twice, so what is kept
under a number stays there until it is deleted.

The recorder is such a device (`Recorder.bindsPrograms`), also when it is made to fail
(`Recorder.bindsSteadily`).
-/

set_option autoImplicit false
set_option relaxedAutoImplicit false

namespace SceneRenderer

open Shader

/-- A program whose number was given away, and that is still there and has a property. -/
def Registry.Keeps {ν : Type} (r : Registry ProgramId ν) (last : UInt32) (id : ProgramId)
    (p : ν → Prop) : Prop :=
  id.raw.toNat ≤ last.toNat ∧ ∃ v, r.get? id = some v ∧ p v

namespace Registry.Keeps

variable {ν : Type} {r : Registry ProgramId ν} {last : UInt32} {id : ProgramId} {p : ν → Prop}

theorem number (hr : r.Keeps last id p)
    (hnext : (last + 1).toNat = last.toNat + 1) : r.Keeps (last + 1) id p :=
  ⟨hnext ▸ Nat.le_succ_of_le hr.1, hr.2⟩

/-- A program under the next number is none of those before. -/
theorem insert_next (hr : r.Keeps last id p) (hnext : (last + 1).toNat = last.toNat + 1) (v : ν) :
    (r.insert ⟨last + 1⟩ v).Keeps (last + 1) id p := by
  obtain ⟨hid, w, hw, hp⟩ := hr
  refine ⟨hnext ▸ Nat.le_succ_of_le hid, w, ?_, hp⟩
  have hne : id ≠ ⟨last + 1⟩ := by
    rintro rfl
    exact Nat.not_succ_le_self _ (hnext ▸ hid)
  rw [get?_insert, if_neg hne, hw]

theorem erase (hr : r.Keeps last id p) {other : ProgramId} (hne : other ≠ id) :
    (r.erase other).Keeps last id p := by
  obtain ⟨hid, w, hw, hp⟩ := hr
  refine ⟨hid, w, ?_, hp⟩
  rw [get?_erase, if_neg (Ne.symm hne), hw]

theorem not_next (hnext : (last + 1).toNat = last.toNat + 1) : ¬ r.Keeps last ⟨last + 1⟩ p :=
  fun hr ↦ Nat.not_succ_le_self _ (hnext ▸ hr.1)

theorem of_insert {v : ν} (hp : p v) : (r.insert ⟨last⟩ v).Keeps last ⟨last⟩ p :=
  ⟨Nat.le_refl _, v, by rw [get?_insert, if_pos rfl], hp⟩

end Registry.Keeps

/-- A property that lasts as long as a program, for every program, is one of live programs. -/
theorem KeepsPrograms.of_lasts {δ : Type} [Device δ] {alive : δ → ProgramId → Prop}
    (hcreated : ∀ device vertex fragment attributes id device',
      Device.createProgram device vertex fragment attributes = (.ok id, device') →
        ¬ alive device id ∧ alive device' id)
    (hlasts : ∀ id, LastsWith id (alive · id)) : KeepsPrograms alive where
  created := hcreated
  createProgram device _ _ _ id := (hlasts id).createProgram device _ _ _
  uniformLocation device _ _ id := (hlasts id).uniformLocation device _ _
  attributeLocation device _ _ id := (hlasts id).attributeLocation device _ _
  createBuffer device _ _ id := (hlasts id).createBuffer device _ _
  createTexture device _ _ _ id := (hlasts id).createTexture device _ _ _
  createRenderTarget device _ _ _ id := (hlasts id).createRenderTarget device _ _ _
  submit device command id := (hlasts id).submit device command

namespace Recorder

/-! ### What the recorder keeps of its programs -/

/-- The recorder keeps a program that has a property. -/
def Keeps (r : Recorder) (id : ProgramId) (p : RecordedProgram → Prop) : Prop :=
  r.programs.Keeps r.lastId id p

variable {r : Recorder} {id : ProgramId} {p : RecordedProgram → Prop}

theorem Keeps.create (hr : r.Keeps id p) {ε α : Type} (identity : UInt32 → α) (refusal : String → ε)
    (record : α → Record) : (r.create identity refusal record).2.Keeps id p := by
  rcases r.create_cases identity refusal record with ⟨_, e, fault, heq⟩ | ⟨hnext, heq⟩
  · rw [heq]
    exact hr
  · rw [heq]
    exact Registry.Keeps.number hr hnext

theorem Keeps.createProgram (hr : r.Keeps id p) (vertex fragment : String)
    (attributes : List (String × UInt32)) :
    (r.createProgram vertex fragment attributes).2.Keeps id p := by
  rcases r.createProgram_cases vertex fragment attributes with ⟨_, e, fault, heq⟩ | ⟨hnext, heq⟩
  · rw [heq]
    exact hr
  · rw [heq]
    exact Registry.Keeps.insert_next hr hnext _

theorem Keeps.submit (hr : r.Keeps id p) {command : Command}
    (hne : command ≠ .deleteProgram id) : (r.submit command).Keeps id p := by
  cases command with
  | deleteProgram other =>
    exact Registry.Keeps.erase hr fun heq ↦ hne (congrArg Command.deleteProgram heq)
  | _ => exact hr

theorem lastsWith (id : ProgramId) (p : RecordedProgram → Prop) :
    LastsWith id fun r : Recorder ↦ r.Keeps id p where
  createProgram _ _ _ _ hr := hr.createProgram _ _ _
  uniformLocation _ _ _ hr := hr
  attributeLocation _ _ _ hr := hr
  createBuffer _ _ _ hr := hr.create _ _ _
  createTexture _ _ _ _ hr := hr.create _ _ _
  createRenderTarget _ _ _ _ hr := hr.create _ _ _
  submit _ _ hne hr := hr.submit hne

/-- A program that was created and not deleted. -/
def Alive (r : Recorder) (id : ProgramId) : Prop := r.Keeps id fun _ ↦ True

/-- A place of a live program at which one of its uniforms stands. -/
def Knows (r : Recorder) (l : UniformLocation) : Prop :=
  r.Keeps l.program fun p ↦ l.slot.toNat < p.uniforms.length

theorem keepsPrograms : KeepsPrograms Alive := by
  refine .of_lasts (fun r vertex fragment attributes id r' hcreate ↦ ?_) fun id ↦ lastsWith id _
  change r.createProgram vertex fragment attributes = _ at hcreate
  rcases r.createProgram_cases vertex fragment attributes with ⟨_, e, fault, heq⟩ | ⟨hnext, heq⟩
  · rw [heq] at hcreate
    cases (Prod.mk.inj hcreate).1
  · rw [heq] at hcreate
    obtain ⟨hid, rfl⟩ := Prod.mk.inj hcreate
    obtain rfl := Except.ok.inj hid
    exact ⟨Registry.Keeps.not_next hnext, Registry.Keeps.of_insert trivial⟩

/-- A slot of 32 bits is no further than the position it was taken from. -/
theorem toNat_ofNat_le (n : Nat) : (UInt32.ofNat n).toNat ≤ n := by
  rw [UInt32.toNat_ofNat']
  exact Nat.mod_le _ _

/-- On a recorder no program has to be bound for its uniforms to be set. -/
theorem bindsPrograms : BindsPrograms Alive Knows fun _ _ ↦ True where
  keepsPrograms := keepsPrograms
  lasts l := lastsWith l.program _
  located r id name l r' halive hanswer := by
    obtain ⟨hlocation, rfl⟩ := Prod.mk.inj hanswer
    obtain ⟨hid, program, hprogram, _⟩ := halive
    rw [uniformLocation_eq hprogram] at hlocation
    obtain ⟨slot, hslot, rfl⟩ := Option.map_eq_some_iff.mp hlocation
    obtain ⟨hbound, _⟩ := List.findIdx?_eq_some_iff_getElem.mp hslot
    exact ⟨rfl, hid, program, hprogram, Nat.lt_of_le_of_lt (toNat_ofNat_le slot) hbound⟩
  useProgram _ _ _ := trivial
  submit _ _ _ _ _ _ := trivial

/-- A recorder can be made to fail in a stage or in linking. -/
instance : Adjustable Recorder where
  Setting := Option StageKind × Bool
  adjust setting r := { r with failingStage := setting.1, failingLink := setting.2 }

theorem bindsSteadily : BindsSteadily Alive Knows fun _ _ ↦ True :=
  { bindsPrograms with
    steadyAlive := fun _ _ _ hr ↦ hr
    steadyKnows := fun _ _ _ hr ↦ hr
    steadyBound := fun _ _ _ _ ↦ trivial }

end Recorder

end SceneRenderer
