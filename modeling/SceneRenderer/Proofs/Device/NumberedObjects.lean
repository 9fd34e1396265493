import Mathlib.Algebra.GroupWithZero.Nat
import SceneRenderer.Device.Recorder
import SceneRenderer.Proofs.Device.ObjectLedger

/-!
The recorder numbers its objects. No number is given away twice: when the last one is gone,
creations fail. So the recorder keeps its objects apart, as a renderer asks of its device
(`Recorder.keepsObjects`).

As long as there are numbers left and nothing is forced to fail, every source is linked
(`Recorder.Supplies.exists_link`).
-/

set_option autoImplicit false
set_option relaxedAutoImplicit false

namespace SceneRenderer

open Shader

/-- Questions that leave the device as it is do so in a row. -/
theorem LinkedProgram.snd_askAll {δ κ ν : Type} [DecidableEq κ] {ask : δ → κ → Option ν × δ}
    (hkept : ∀ device k, (ask device k).2 = device) (device : δ) (keys : List κ) :
    (LinkedProgram.askAll ask device keys).2 = device :=
  LinkedProgram.askAll_keeps ask (fun d k hd ↦ (hkept d k).trans hd) keys rfl

/-- A program that was created is linked; nothing else is left of the questions about it. -/
theorem LinkedProgram.exists_link_of_created {δ : Type} [Device δ] {device created : δ}
    {source : ProgramSource} {id : ProgramId}
    (hcreate : Device.createProgram device (source.stageText .vertex) (source.stageText .fragment)
      attributeSlots = (.ok id, created))
    (huniform : ∀ (d : δ) name, (Device.uniformLocation d id name).2 = d)
    (hattribute : ∀ (d : δ) name, (Device.attributeLocation d id name).2 = d) :
    ∃ p, link device source = (.ok p, created) := by
  unfold link
  rw [hcreate]
  refine ⟨_, Prod.ext rfl ?_⟩
  exact (snd_askAll (fun d _ ↦ hattribute d _) _ _).trans (snd_askAll (fun d _ ↦ huniform d _) _ _)

/-- The number of an object among all kinds of objects. -/
def DeviceObject.number : DeviceObject → UInt32
  | program id => id.raw
  | buffer id => id.raw
  | texture id => id.raw
  | renderTarget id => id.raw

namespace Recorder

/-! ### Numbers -/

/-- No object can be created any more. -/
def Exhausted (r : Recorder) : Prop := UInt32.size ≤ r.lastId.toNat + 1

/-- The next number is one more than the last. -/
def Next (r : Recorder) : Prop := (r.lastId + 1).toNat = r.lastId.toNat + 1

variable {r : Recorder}

theorem next_of_lt (hleft : r.lastId.toNat + 1 < UInt32.size) : r.Next := by
  unfold Next
  rw [UInt32.toNat_add]
  exact Nat.mod_eq_of_lt hleft

/-- Either the next number is given away, or there is none. -/
theorem create_cases {ε α : Type} (r : Recorder) (identity : UInt32 → α) (refusal : String → ε)
    (record : α → Record) :
    (r.Exhausted ∧ ∃ e fault, r.create identity refusal record = (.error e, { r with fault })) ∨
    r.Next ∧ r.create identity refusal record = (.ok (identity (r.lastId + 1)),
      { r with lastId := r.lastId + 1 }.push (record (identity (r.lastId + 1)))) := by
  by_cases hleft : r.lastId.toNat + 1 < UInt32.size
  · exact .inr ⟨next_of_lt hleft, create_of_lt _ _ _ hleft⟩
  · exact .inl ⟨Nat.not_lt.mp hleft, _, _, create_of_le _ _ _ (Nat.not_lt.mp hleft)⟩

/-- No program is made if something is forced to fail. -/
def Fails (r : Recorder) : Prop := r.failingStage ≠ none ∨ r.failingLink = true

/-- Either no program is created, or it is kept under the next number. -/
theorem createProgram_cases (r : Recorder) (vertex fragment : String)
    (attributes : List (String × UInt32)) :
    ((r.Fails ∨ r.Exhausted) ∧ ∃ e fault, r.createProgram vertex fragment attributes =
      (.error e, { r with fault })) ∨
    r.Next ∧ r.createProgram vertex fragment attributes = (.ok ⟨r.lastId + 1⟩,
      { { r with lastId := r.lastId + 1 }.push (.createdProgram ⟨r.lastId + 1⟩) with
        programs := r.programs.insert ⟨r.lastId + 1⟩ (.ofText vertex fragment attributes) }) := by
  unfold createProgram
  split
  · rename_i stage hstage
    exact .inl ⟨.inl (.inl (by rw [hstage]; exact nofun)), _, r.fault, rfl⟩
  · rename_i _ hlink
    exact .inl ⟨.inl (.inr hlink), _, r.fault, rfl⟩
  · rcases r.create_cases ProgramId.mk ProgramError.device Record.createdProgram with
      ⟨hgone, e, fault, heq⟩ | ⟨hnext, heq⟩
    · rw [heq]
      exact .inl ⟨.inr hgone, e, fault, rfl⟩
    · rw [heq]
      exact .inr ⟨hnext, rfl⟩

theorem lastId_submit (r : Recorder) (command : Command) :
    (r.submit command).lastId = r.lastId := by
  cases command <;> rfl

/-! ### Objects -/

/-- The number of an object was given away. -/
def Gave (r : Recorder) (o : DeviceObject) : Prop := o.number.toNat ≤ r.lastId.toNat

/-- A creation that gives the next number away, or none if it fails. -/
theorem creates_of_next {ε α : Type} {object : α → DeviceObject} {a : α} (hnext : r.Next)
    (hnumber : (object a).number = r.lastId + 1) {r' : Recorder}
    (hlast : r'.lastId = r.lastId + 1) :
    Creates Gave object r ((.ok a : Except ε α), r') := by
  have hgrown : r'.lastId.toNat = r.lastId.toNat + 1 := by rw [hlast, hnext]
  refine ⟨fun o ho ↦ ?_, fun _ ha ↦ ?_⟩
  · show o.number.toNat ≤ r'.lastId.toNat
    rw [hgrown]
    exact Nat.le_succ_of_le ho
  · cases ha
    unfold Gave
    rw [hnumber, hlast, hnext]
    exact ⟨Nat.not_succ_le_self _, Nat.le_refl _⟩

theorem creates_create {ε α : Type} (r : Recorder) {identity : UInt32 → α} (refusal : String → ε)
    (record : α → Record) {object : α → DeviceObject}
    (hobject : ∀ n, (object (identity n)).number = n) :
    Creates Gave object r (r.create identity refusal record) := by
  rcases r.create_cases identity refusal record with ⟨_, e, fault, heq⟩ | ⟨hnext, heq⟩
  · rw [heq]
    exact ⟨fun o ho ↦ ho, fun a ha ↦ absurd ha nofun⟩
  · rw [heq]
    exact creates_of_next hnext (hobject _) rfl

theorem keepsObjects : KeepsObjects Gave where
  createProgram r vertex fragment attributes := by
    show Creates Gave .program r (r.createProgram vertex fragment attributes)
    rcases r.createProgram_cases vertex fragment attributes with
      ⟨_, e, fault, heq⟩ | ⟨hnext, heq⟩
    · rw [heq]
      exact ⟨fun o ho ↦ ho, fun a ha ↦ absurd ha nofun⟩
    · rw [heq]
      exact creates_of_next hnext rfl rfl
  createBuffer r _ _ := r.creates_create _ _ fun _ ↦ rfl
  createTexture r _ _ _ := r.creates_create _ _ fun _ ↦ rfl
  createRenderTarget r _ _ _ := r.creates_create _ _ fun _ ↦ rfl
  uniformLocation _ _ _ _ := id
  attributeLocation _ _ _ _ := id
  submit r command o _ ho := by
    show o.number.toNat ≤ (r.submit command).lastId.toNat
    rwa [lastId_submit]

/-! ### Linking -/

/-- Where a stage is forced to fail nothing is linked. -/
theorem link_refused (r : Recorder) {stage : StageKind} (hstage : r.failingStage = some stage)
    (source : ProgramSource) : ∃ e, LinkedProgram.link r source = (.error e, r) := by
  have hcreate : ∃ e, r.createProgram (source.stageText .vertex) (source.stageText .fragment)
      LinkedProgram.attributeSlots = (.error e, r) := by
    unfold createProgram
    rw [hstage]
    exact ⟨_, rfl⟩
  obtain ⟨e, hcreate⟩ := hcreate
  refine ⟨e, ?_⟩
  unfold LinkedProgram.link
  rw [show Device.createProgram r _ _ _ = _ from hcreate]

/-- A recorder with so many numbers left, on which nothing failed or is forced to fail. -/
structure Supplies (n : Nat) (r : Recorder) : Prop where
  left : r.lastId.toNat + n < UInt32.size
  stage : r.failingStage = none
  linking : r.failingLink = false
  fault : r.fault = none

/-- Commands take no numbers. -/
theorem supplies_submit {n : Nat} (hr : r.Supplies n) (command : Command) :
    (r.submit command).Supplies n := by
  cases command <;> exact ⟨hr.left, hr.stage, hr.linking, hr.fault⟩

theorem Supplies.exists_created {n : Nat} (hr : r.Supplies (n + 1)) (vertex fragment : String)
    (attributes : List (String × UInt32)) :
    ∃ id r', r.createProgram vertex fragment attributes = (.ok id, r') ∧ r'.Supplies n := by
  have hleft : r.lastId.toNat + 1 < UInt32.size :=
    Nat.lt_of_le_of_lt (Nat.add_le_add_left (Nat.le_add_left _ _) _) hr.left
  unfold createProgram
  rw [hr.stage, hr.linking, create_of_lt _ _ _ hleft]
  refine ⟨_, _, rfl, ?_, hr.stage, hr.linking, hr.fault⟩
  show (r.lastId + 1).toNat + n < UInt32.size
  rw [next_of_lt hleft, Nat.add_assoc, Nat.add_comm 1]
  exact hr.left

/-- Every source is linked as long as there is a number left, and takes one. -/
theorem Supplies.exists_link {n : Nat} (hr : r.Supplies (n + 1)) (source : ProgramSource) :
    ∃ p r', LinkedProgram.link r source = (.ok p, r') ∧ r'.Supplies n := by
  obtain ⟨id, created, hcreate, hcreated⟩ := hr.exists_created (source.stageText .vertex)
    (source.stageText .fragment) LinkedProgram.attributeSlots
  obtain ⟨p, hlink⟩ := LinkedProgram.exists_link_of_created
    (show Device.createProgram r _ _ _ = _ from hcreate) (fun _ _ ↦ rfl) (fun _ _ ↦ rfl)
  exact ⟨p, created, hlink, hcreated⟩

theorem supplies_standard {n : Nat} (hn : n < UInt32.size) : standard.Supplies n :=
  ⟨(Nat.zero_add n).symm ▸ hn, rfl, rfl, rfl⟩

end Recorder

/-- A device that links so many sources more, whatever they are. -/
def Links {δ : Type} [Device δ] : Nat → δ → Prop
  | 0, _ => True
  | n + 1, device =>
    ∀ source, ∃ p device', LinkedProgram.link device source = (.ok p, device') ∧ Links n device'

theorem Recorder.Supplies.links {r : Recorder} {n : Nat} (hr : r.Supplies n) : Links n r := by
  induction n generalizing r with
  | zero => trivial
  | succ n ih =>
    intro source
    obtain ⟨p, r', hlink, hr'⟩ := hr.exists_link source
    exact ⟨p, r', hlink, ih hr'⟩

/-- A recorder links its programs as before if only other creations are made to fail. -/
theorem Rationed.links {d : Rationed Recorder} {n : Nat} (hd : d.device.Supplies n)
    (hprograms : d.programs = none) : Links n d := by
  induction n generalizing d with
  | zero => trivial
  | succ n ih =>
    intro source
    obtain ⟨id, created, hcreate, hcreated⟩ := hd.exists_created (source.stageText .vertex)
      (source.stageText .fragment) LinkedProgram.attributeSlots
    have hrationed : Device.createProgram d (source.stageText .vertex)
        (source.stageText .fragment) LinkedProgram.attributeSlots =
          (.ok id, { d with device := created, programs := none }) := by
      simp only [Device.createProgram, hprograms, Rationed.ration, hcreate]
      rfl
    obtain ⟨p, hlink⟩ := LinkedProgram.exists_link_of_created hrationed
      (fun (_ : Rationed Recorder) _ ↦ rfl) (fun (_ : Rationed Recorder) _ ↦ rfl)
    exact ⟨p, _, hlink, ih hcreated rfl⟩

end SceneRenderer
