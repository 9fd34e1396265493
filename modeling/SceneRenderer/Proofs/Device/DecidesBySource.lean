import SceneRenderer.Proofs.Device.DeviceCalls

/-!
Devices on which it depends on the source alone whether a program can be made. A device has only so
many programs to give; one that has none left is spent, and stays so.
-/

set_option autoImplicit false
set_option relaxedAutoImplicit false

namespace SceneRenderer

open Shader

/-- A device that makes a program of every source that it takes, and of no other, as long as it is
not spent. -/
structure DecidesBySource {δ : Type} [Device δ] (takes : String → String → Prop)
    (spent : δ → Prop) : Prop where
  created : ∀ (device : δ) vertex fragment attributes id device',
    Device.createProgram device vertex fragment attributes = (.ok id, device') →
      takes vertex fragment
  refused : ∀ (device : δ) vertex fragment attributes e device',
    Device.createProgram device vertex fragment attributes = (.error e, device') →
      takes vertex fragment → spent device
  createProgram : ∀ (device : δ) vertex fragment attributes, spent device →
    spent (Device.createProgram device vertex fragment attributes).2
  uniformLocation : ∀ (device : δ) program name, spent device →
    spent (Device.uniformLocation device program name).2
  attributeLocation : ∀ (device : δ) program name, spent device →
    spent (Device.attributeLocation device program name).2
  submit : ∀ (device : δ) command, spent device → spent (Device.submit device command)

/-- A key whose source the device takes. -/
def TakesKey (takes : String → String → Prop) (o : ShaderOptions) (k : ProgramKey) : Prop :=
  ∃ source, synthesize o k = .ok source ∧
    takes (source.stageText .vertex) (source.stageText .fragment)

namespace DecidesBySource

variable {δ : Type} [Device δ] {takes : String → String → Prop} {spent : δ → Prop}

theorem submitAll (hdevice : DecidesBySource takes spent) (commands : List Command) {device : δ}
    (hspent : spent device) : spent (Device.submitAll device commands) := by
  induction commands generalizing device with
  | nil => exact hspent
  | cons command rest ih => exact ih (hdevice.submit device command hspent)

/-- A source is linked if the device takes it. -/
theorem link (hdevice : DecidesBySource takes spent) (device : δ) (source : ProgramSource) :
    (spent device → spent (LinkedProgram.link device source).2) ∧
    match (LinkedProgram.link device source).1 with
    | .ok _ => takes (source.stageText .vertex) (source.stageText .fragment)
    | .error _ => takes (source.stageText .vertex) (source.stageText .fragment) → spent device := by
  have hcreate := hdevice.createProgram device (source.stageText .vertex)
    (source.stageText .fragment) LinkedProgram.attributeSlots
  unfold LinkedProgram.link
  rcases hcreated : Device.createProgram device (source.stageText .vertex)
    (source.stageText .fragment) LinkedProgram.attributeSlots with ⟨e | id, created⟩
  · rw [hcreated] at hcreate
    exact ⟨hcreate, hdevice.refused _ _ _ _ _ _ hcreated⟩
  · rw [hcreated] at hcreate
    refine ⟨fun hspent ↦ ?_, hdevice.created _ _ _ _ _ _ hcreated⟩
    exact LinkedProgram.askAll_keeps _ (fun d a ↦ hdevice.attributeLocation d id _) _
      (LinkedProgram.askAll_keeps _ (fun d name ↦ hdevice.uniformLocation d id name) _
        (hcreate hspent))

end DecidesBySource

namespace Recorder

/-- A recorder that makes no more programs: something is forced to fail, or the last number is
gone. -/
def Spent (r : Recorder) : Prop := r.Fails ∨ r.Exhausted

theorem Supplies.not_spent {r : Recorder} {n : Nat} (hr : r.Supplies (n + 1)) : ¬ r.Spent := by
  rintro ((hstage | hlink) | hgone)
  · exact hstage hr.stage
  · rw [hr.linking] at hlink
    cases hlink
  · have hleft := hr.left
    unfold Exhausted at hgone
    omega

theorem fails_submit (r : Recorder) (command : Command) : (r.submit command).Fails ↔ r.Fails := by
  cases command <;> rfl

/-- Every source is taken until the numbers are gone. -/
theorem decidesBySource : DecidesBySource (fun _ _ ↦ True) Spent where
  created _ _ _ _ _ _ _ := trivial
  refused r vertex fragment attributes e r' hcreate _ := by
    rcases r.createProgram_cases vertex fragment attributes with ⟨hspent, _⟩ | ⟨_, heq⟩
    · exact hspent
    · rw [show Device.createProgram r _ _ _ = _ from heq] at hcreate
      cases (Prod.mk.inj hcreate).1
  createProgram r vertex fragment attributes hr := by
    show (r.createProgram vertex fragment attributes).2.Spent
    rcases r.createProgram_cases vertex fragment attributes with
      ⟨_, e, fault, heq⟩ | ⟨hnext, heq⟩
    · rw [heq]
      exact hr
    · rw [heq]
      exact hr.imp_right fun hgone ↦ absurd hgone (Nat.not_le.mpr (hnext ▸ UInt32.toNat_lt _))
  uniformLocation _ _ _ := id
  attributeLocation _ _ _ := id
  submit r command hr := by
    refine hr.imp (fails_submit r command).mpr fun hgone ↦ ?_
    show UInt32.size ≤ (r.submit command).lastId.toNat + 1
    rwa [lastId_submit]

end Recorder

end SceneRenderer
