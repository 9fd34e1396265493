import Mathlib.Data.Multiset.AddSub
import Mathlib.Data.Multiset.Count
import SceneRenderer.Device.Rationed
import SceneRenderer.Proofs.Device.LivePrograms

/-!
Ledgers of objects: what was created and what was deleted, event by event. An object is outstanding
from its creation to its deletion. A ledger is orderly if no object is created while it is
outstanding or deleted while it is not, so that nothing is freed twice.

The objects on a device, with a ledger of what was created and what was deleted, call by call.

`Audited` keeps the ledger of any device, and `Owns` says that it is orderly and that some objects
are the outstanding ones. Each call of a device says what becomes of what is owned; a device on
which a new object is never one that is still there (`KeepsObjects`) keeps its ledger orderly.
-/

set_option autoImplicit false
set_option relaxedAutoImplicit false

namespace SceneRenderer

inductive ObjectEvent (α : Type)
  | created (object : α)
  | deleted (object : α)
deriving DecidableEq

/-- What happened to objects, the latest first. -/
abbrev ObjectLedger (α : Type) := List (ObjectEvent α)

namespace ObjectLedger

variable {α : Type} [DecidableEq α]

/-- What was created and not yet deleted. -/
def outstanding : ObjectLedger α → Multiset α
  | [] => 0
  | .created o :: earlier => o ::ₘ outstanding earlier
  | .deleted o :: earlier => (outstanding earlier).erase o

/-- Nothing is created that is there, and nothing is deleted that is not. -/
def Orderly : ObjectLedger α → Prop
  | [] => True
  | .created o :: earlier => o ∉ outstanding earlier ∧ Orderly earlier
  | .deleted o :: earlier => o ∈ outstanding earlier ∧ Orderly earlier

/-- Nothing is created that is there. -/
def Fresh : ObjectLedger α → Prop
  | [] => True
  | .created o :: earlier => o ∉ outstanding earlier ∧ Fresh earlier
  | .deleted _ :: earlier => Fresh earlier

instance decidableFresh : DecidablePred (Fresh (α := α))
  | [] => isTrue trivial
  | .created o :: earlier =>
    have := decidableFresh earlier
    inferInstanceAs (Decidable (o ∉ outstanding earlier ∧ Fresh earlier))
  | .deleted _ :: earlier => decidableFresh earlier

variable {ledger : ObjectLedger α}

theorem Fresh.of_append {later earlier : ObjectLedger α} (hfresh : Fresh (later ++ earlier)) :
    Fresh earlier := by
  induction later with
  | nil => exact hfresh
  | cons event rest ih =>
    cases event with
    | created o => exact ih hfresh.2
    | deleted o => exact ih hfresh

theorem Orderly.nodup (horderly : Orderly ledger) : (outstanding ledger).Nodup := by
  induction ledger with
  | nil => exact Multiset.nodup_zero
  | cons event earlier ih =>
    cases event with
    | created o => exact Multiset.nodup_cons.mpr ⟨horderly.1, ih horderly.2⟩
    | deleted o => exact (ih horderly.2).erase o

/-- An object was created once more than it was deleted as long as it is outstanding, and as often
as it was deleted otherwise. -/
theorem Orderly.count_created (horderly : Orderly ledger) (o : α) :
    ledger.count (.created o) = ledger.count (.deleted o) + (outstanding ledger).count o := by
  induction ledger with
  | nil => rfl
  | cons event earlier ih =>
    cases event with
    | created o' =>
      have hearlier := ih horderly.2
      by_cases ho : o' = o
      · subst ho
        simp [outstanding, hearlier]
        omega
      · simp [outstanding, hearlier, ho, Ne.symm ho]
    | deleted o' =>
      have hearlier := ih horderly.2
      by_cases ho : o' = o
      · subst ho
        have hpos := Multiset.count_pos.mpr horderly.1
        simp [outstanding, hearlier]
        omega
      · simp [outstanding, hearlier, ho, Ne.symm ho]

/-- What is outstanding can be deleted, each object once. -/
theorem Orderly.deleteAll (horderly : Orderly ledger) {objects : List α} {owned : Multiset α}
    (hparts : outstanding ledger = ↑objects + owned) :
    Orderly ((objects.map .deleted).reverse ++ ledger) ∧
      outstanding ((objects.map .deleted).reverse ++ ledger) = owned := by
  induction objects generalizing ledger with
  | nil => exact ⟨horderly, hparts.trans (Multiset.zero_add _)⟩
  | cons o rest ih =>
    rw [List.map_cons, List.reverse_cons, List.append_assoc]
    rw [← Multiset.cons_coe, Multiset.cons_add] at hparts
    have hdeleted : Orderly (.deleted o :: ledger) :=
      ⟨hparts ▸ Multiset.mem_cons_self o _, horderly⟩
    refine ih hdeleted ?_
    show (outstanding ledger).erase o = _
    rw [hparts, Multiset.erase_cons_head]

/-- What was deleted, the latest first. -/
def deletions (ledger : ObjectLedger α) : List α :=
  ledger.filterMap fun
    | .created _ => none
    | .deleted o => some o

end ObjectLedger

/-- An object that has to be deleted by whoever created it. -/
inductive DeviceObject
  | program (id : ProgramId)
  | buffer (id : BufferId)
  | texture (id : TextureId)
  | renderTarget (id : RenderTargetId)
deriving DecidableEq

open ObjectLedger

/-- The object that a command deletes. -/
def Command.deleted? : Command → Option DeviceObject
  | .deleteProgram id => some (.program id)
  | .deleteBuffer id => some (.buffer id)
  | .deleteTexture id => some (.texture id)
  | .deleteRenderTarget id => some (.renderTarget id)
  | _ => none

theorem Command.SparesObjects.deleted? {c : Command} (hc : c.SparesObjects) :
    c.deleted? = none := by
  cases c <;> first | exact hc.elim | rfl

/-! ### Devices that keep objects apart -/

/-- A creation: whatever was alive stays so, and what is new was not alive before. -/
def Creates {δ ε α : Type} (alive : δ → DeviceObject → Prop) (object : α → DeviceObject)
    (device : δ) (answer : Except ε α × δ) : Prop :=
  (∀ o, alive device o → alive answer.2 o) ∧
    ∀ a, answer.1 = .ok a → ¬ alive device (object a) ∧ alive answer.2 (object a)

/-- The objects of a device, told apart by kind and identity as long as they live. -/
structure KeepsObjects {δ : Type} [Device δ] (alive : δ → DeviceObject → Prop) : Prop where
  createProgram : ∀ device vertex fragment attributes,
    Creates alive .program device (Device.createProgram device vertex fragment attributes)
  createBuffer : ∀ device target data,
    Creates alive .buffer device (Device.createBuffer device target data)
  createTexture : ∀ device width height pixels,
    Creates alive .texture device (Device.createTexture device width height pixels)
  createRenderTarget : ∀ device width height color,
    Creates alive .renderTarget device (Device.createRenderTarget device width height color)
  uniformLocation : ∀ device program name o, alive device o →
    alive (Device.uniformLocation device program name).2 o
  attributeLocation : ∀ device program name o, alive device o →
    alive (Device.attributeLocation device program name).2 o
  /-- Only its deletion ends an object. -/
  submit : ∀ device command o, command.deleted? ≠ some o → alive device o →
    alive (Device.submit device command) o

variable {δ : Type} [Device δ] {alive : δ → DeviceObject → Prop}

/-- Such a device keeps its programs apart in particular. -/
theorem KeepsObjects.keepsPrograms (hdevice : KeepsObjects alive) :
    KeepsPrograms fun device id ↦ alive device (.program id) where
  created device vertex fragment attributes id device' hcreate := by
    have hcreates := (hdevice.createProgram device vertex fragment attributes).2
    rw [hcreate] at hcreates
    exact hcreates id rfl
  createProgram device vertex fragment attributes id :=
    (hdevice.createProgram device vertex fragment attributes).1 _
  uniformLocation device program name id := hdevice.uniformLocation device program name _
  attributeLocation device program name id := hdevice.attributeLocation device program name _
  createBuffer device target data id := (hdevice.createBuffer device target data).1 _
  createTexture device width height pixels id :=
    (hdevice.createTexture device width height pixels).1 _
  createRenderTarget device width height color id :=
    (hdevice.createRenderTarget device width height color).1 _
  submit device command id hne := by
    refine hdevice.submit device command _ fun hdeleted ↦ hne ?_
    cases command with
    | deleteProgram id' =>
      rw [DeviceObject.program.inj (Option.some.inj hdeleted)]
    | _ => simp [Command.deleted?] at hdeleted

/-! ### Failing creations -/

namespace Rationed

variable {δ : Type} {alive : δ → DeviceObject → Prop}

/-- A creation that is made to fail creates nothing. -/
theorem creates_ration {ε α : Type} {limit : Ration} {refusal : ε} {object : α → DeviceObject}
    {device : δ} {create : δ → Except ε α × δ}
    (hcreates : Creates alive object device (create device)) :
    Creates alive object device
      ((ration limit refusal device create).1, (ration limit refusal device create).2.1) := by
  unfold ration
  split
  · exact ⟨fun o ho ↦ ho, fun a ha ↦ absurd ha nofun⟩
  · split <;> rename_i hcreate <;> rwa [hcreate] at hcreates

theorem keepsObjects [Device δ] (hdevice : KeepsObjects alive) :
    KeepsObjects fun (d : Rationed δ) o ↦ alive d.device o where
  createProgram d vertex fragment attributes :=
    creates_ration (hdevice.createProgram d.device vertex fragment attributes)
  createBuffer d target data := creates_ration (hdevice.createBuffer d.device target data)
  createTexture d width height pixels :=
    creates_ration (hdevice.createTexture d.device width height pixels)
  createRenderTarget d width height color :=
    creates_ration (hdevice.createRenderTarget d.device width height color)
  uniformLocation d := hdevice.uniformLocation d.device
  attributeLocation d := hdevice.attributeLocation d.device
  submit d := hdevice.submit d.device

end Rationed

/-! ### Audits -/

/-- A device with the ledger of what it was told. -/
structure Audited (δ : Type) where
  device : δ
  ledger : ObjectLedger DeviceObject

namespace Audited

def start (device : δ) : Audited δ := ⟨device, []⟩

/-- Writes a creation down, if it was one. -/
def record {ε α : Type} (d : Audited δ) (object : α → DeviceObject) (answer : Except ε α × δ) :
    Except ε α × Audited δ :=
  match answer with
  | (.ok a, device) => (.ok a, ⟨device, .created (object a) :: d.ledger⟩)
  | (.error e, device) => (.error e, ⟨device, d.ledger⟩)

instance : Device (Audited δ) where
  maxTextureUnits d := Device.maxTextureUnits d.device
  surfaceSize d := Device.surfaceSize d.device
  createProgram d vertex fragment attributes :=
    d.record .program (Device.createProgram d.device vertex fragment attributes)
  uniformLocation d program name :=
    let (location, device) := Device.uniformLocation d.device program name
    (location, { d with device })
  attributeLocation d program name :=
    let (location, device) := Device.attributeLocation d.device program name
    (location, { d with device })
  createBuffer d target data := d.record .buffer (Device.createBuffer d.device target data)
  createTexture d width height pixels :=
    d.record .texture (Device.createTexture d.device width height pixels)
  createRenderTarget d width height color :=
    d.record .renderTarget (Device.createRenderTarget d.device width height color)
  submit d command :=
    ⟨Device.submit d.device command,
      (command.deleted?.map ObjectEvent.deleted).toList ++ d.ledger⟩

omit [Device δ] in
theorem creates_record {ε α : Type} {d : Audited δ} {object : α → DeviceObject}
    {answer : Except ε α × δ} (hcreates : Creates alive object d.device answer) :
    Creates (fun d o ↦ alive d.device o) object d (d.record object answer) := by
  obtain ⟨e | a, device⟩ := answer
  · exact ⟨hcreates.1, fun a ha ↦ absurd ha nofun⟩
  · exact hcreates

/-- The ledger is no matter for the objects of the device. -/
theorem keepsObjects (hdevice : KeepsObjects alive) :
    KeepsObjects fun (d : Audited δ) o ↦ alive d.device o where
  createProgram d _ _ _ := creates_record (hdevice.createProgram d.device _ _ _)
  createBuffer d _ _ := creates_record (hdevice.createBuffer d.device _ _)
  createTexture d _ _ _ := creates_record (hdevice.createTexture d.device _ _ _)
  createRenderTarget d _ _ _ := creates_record (hdevice.createRenderTarget d.device _ _ _)
  uniformLocation d := hdevice.uniformLocation d.device
  attributeLocation d := hdevice.attributeLocation d.device
  submit d := hdevice.submit d.device

omit [Device δ] in
theorem device_record {ε α : Type} (d : Audited δ) (object : α → DeviceObject)
    (answer : Except ε α × δ) : (d.record object answer).2.device = answer.2 := by
  obtain ⟨e | a, device⟩ := answer <;> rfl

omit [Device δ] in
/-- A creation deletes nothing. -/
theorem deletions_record {ε α : Type} (d : Audited δ) (object : α → DeviceObject)
    (answer : Except ε α × δ) :
    deletions (d.record object answer).2.ledger = deletions d.ledger := by
  obtain ⟨e | a, device⟩ := answer <;> rfl

/-- The ledger is no matter for the programs of the device. -/
theorem keepsPrograms {alive : δ → ProgramId → Prop} (hdevice : KeepsPrograms alive) :
    KeepsPrograms fun (d : Audited δ) id ↦ alive d.device id where
  created d vertex fragment attributes id d' hcreate := by
    change d.record .program (Device.createProgram d.device vertex fragment attributes) = _
      at hcreate
    rcases hcreated : Device.createProgram d.device vertex fragment attributes with ⟨e | a, device⟩
    · rw [hcreated] at hcreate
      exact absurd (Prod.mk.inj hcreate).1 nofun
    · rw [hcreated] at hcreate
      cases hcreate
      exact hdevice.created _ _ _ _ id device hcreated
  createProgram d vertex fragment attributes id hid :=
    (device_record d .program _).symm ▸
      hdevice.createProgram d.device vertex fragment attributes id hid
  uniformLocation d := hdevice.uniformLocation d.device
  attributeLocation d := hdevice.attributeLocation d.device
  createBuffer d target data id hid :=
    (device_record d .buffer _).symm ▸ hdevice.createBuffer d.device target data id hid
  createTexture d width height pixels id hid :=
    (device_record d .texture _).symm ▸ hdevice.createTexture d.device width height pixels id hid
  createRenderTarget d width height color id hid :=
    (device_record d .renderTarget _).symm ▸
      hdevice.createRenderTarget d.device width height color id hid
  submit d := hdevice.submit d.device

theorem ledger_submitAll (d : Audited δ) (commands : List Command) :
    (Device.submitAll d commands).ledger =
      ((commands.filterMap Command.deleted?).map .deleted).reverse ++ d.ledger := by
  induction commands generalizing d with
  | nil => rfl
  | cons command rest ih =>
    refine (ih (Device.submit d command)).trans ?_
    show _ ++ ((command.deleted?.map ObjectEvent.deleted).toList ++ d.ledger) = _
    cases hdeleted : command.deleted? with
    | none => rw [List.filterMap_cons_none hdeleted]; rfl
    | some o => rw [List.filterMap_cons_some hdeleted]; simp

end Audited

/-! ### Ownership -/

/-- Some objects are those that are outstanding on a device, each of them once; and they are
alive. -/
structure Owns (alive : δ → DeviceObject → Prop) (d : Audited δ) (owned : Multiset DeviceObject) :
    Prop where
  orderly : Orderly d.ledger
  outstanding : outstanding d.ledger = owned
  alive : ∀ o ∈ owned, alive d.device o

/-- What is owned after an attempt at something: what there was before, and what was asked for if
it succeeded. -/
def OwnsAnswer {ε α : Type} (alive : δ → DeviceObject → Prop) (objects : α → Multiset DeviceObject)
    (owned : Multiset DeviceObject) : Except ε α × Audited δ → Prop
  | (.ok a, d) => Owns alive d (objects a + owned)
  | (.error _, d) => Owns alive d owned

namespace Owns

variable {d : Audited δ} {owned : Multiset DeviceObject}

omit [Device δ] in
theorem start (device : δ) : Owns alive (.start device) 0 :=
  ⟨trivial, rfl, fun _ ho ↦ absurd ho (Multiset.notMem_zero _)⟩

omit [Device δ] in
/-- A creation that succeeds adds an object to what is owned. -/
theorem record {ε α : Type} (hd : Owns alive d owned) {object : α → DeviceObject}
    {answer : Except ε α × δ} (hcreates : Creates alive object d.device answer) :
    OwnsAnswer alive (fun a ↦ {object a}) owned (d.record object answer) := by
  obtain ⟨e | a, device⟩ := answer
  · exact ⟨hd.orderly, hd.outstanding, fun o ho ↦ hcreates.1 o (hd.alive o ho)⟩
  · obtain ⟨hnew, hlive⟩ := hcreates.2 a rfl
    have hmissing : object a ∉ owned := fun ho ↦ hnew (hd.alive _ ho)
    refine ⟨⟨?_, hd.orderly⟩, ?_, fun o ho ↦ ?_⟩
    · rwa [hd.outstanding]
    · show object a ::ₘ ObjectLedger.outstanding d.ledger = _
      rw [hd.outstanding, Multiset.singleton_add]
    · rcases Multiset.mem_add.mp ho with hself | hother
      · rw [Multiset.mem_singleton.mp hself]
        exact hlive
      · exact hcreates.1 o (hd.alive o hother)

variable (hdevice : KeepsObjects alive)

include hdevice

theorem createProgram (hd : Owns alive d owned) (vertex fragment : String)
    (attributes : List (String × UInt32)) :
    OwnsAnswer alive (fun id ↦ {.program id}) owned
      (Device.createProgram d vertex fragment attributes) :=
  hd.record (hdevice.createProgram d.device vertex fragment attributes)

theorem createBuffer (hd : Owns alive d owned) (target : BufferTarget) (data : List UInt8) :
    OwnsAnswer alive (fun id ↦ {.buffer id}) owned (Device.createBuffer d target data) :=
  hd.record (hdevice.createBuffer d.device target data)

theorem createTexture (hd : Owns alive d owned) (width height : UInt32)
    (pixels : Option (List UInt8)) : OwnsAnswer alive (fun id ↦ {.texture id}) owned
      (Device.createTexture d width height pixels) :=
  hd.record (hdevice.createTexture d.device width height pixels)

theorem createRenderTarget (hd : Owns alive d owned) (width height : UInt32) (color : TextureId) :
    OwnsAnswer alive (fun id ↦ {.renderTarget id}) owned
      (Device.createRenderTarget d width height color) :=
  hd.record (hdevice.createRenderTarget d.device width height color)

/-- A command takes what it deletes out of what is owned. -/
theorem submit {command : Command}
    (hd : Owns alive d (command.deleted?.elim 0 (fun o ↦ {o}) + owned)) :
    Owns alive (Device.submit d command) owned := by
  have hstays (o : DeviceObject) (ho : o ∈ owned) (hne : command.deleted? ≠ some o) :
      alive (Device.submit d.device command) o :=
    hdevice.submit d.device command o hne (hd.alive o (Multiset.mem_add.mpr (.inr ho)))
  cases hdeleted : command.deleted? with
  | none =>
    rw [hdeleted] at hd
    refine ⟨?_, ?_, fun o ho ↦ hstays o ho (by rw [hdeleted]; exact nofun)⟩
    · show Orderly ((command.deleted?.map ObjectEvent.deleted).toList ++ d.ledger)
      rw [hdeleted]
      exact hd.orderly
    · show ObjectLedger.outstanding ((command.deleted?.map ObjectEvent.deleted).toList ++
        d.ledger) = _
      rw [hdeleted]
      exact hd.outstanding.trans (Multiset.zero_add _)
  | some o =>
    rw [hdeleted, Option.elim_some, Multiset.singleton_add] at hd
    have hnodup : (o ::ₘ owned).Nodup := hd.outstanding ▸ hd.orderly.nodup
    refine ⟨?_, ?_, fun o' ho' ↦ hstays o' ho' ?_⟩
    · show Orderly ((command.deleted?.map ObjectEvent.deleted).toList ++ d.ledger)
      rw [hdeleted]
      exact ⟨hd.outstanding ▸ Multiset.mem_cons_self o owned, hd.orderly⟩
    · show ObjectLedger.outstanding ((command.deleted?.map ObjectEvent.deleted).toList ++
        d.ledger) = _
      rw [hdeleted]
      show (ObjectLedger.outstanding d.ledger).erase o = owned
      rw [hd.outstanding, Multiset.erase_cons_head]
    · rintro heq
      rw [hdeleted, Option.some_inj] at heq
      exact (Multiset.nodup_cons.mp hnodup).1 (heq ▸ ho')

/-- Commands in a row take out what they delete. -/
theorem submitAll {commands : List Command}
    (hd : Owns alive d (↑(commands.filterMap Command.deleted?) + owned)) :
    Owns alive (Device.submitAll d commands) owned := by
  induction commands generalizing d with
  | nil => rwa [List.filterMap_nil, Multiset.coe_nil, Multiset.zero_add] at hd
  | cons command rest ih =>
    refine ih (d := Device.submit d command) (submit hdevice ?_)
    cases hdeleted : command.deleted? with
    | none =>
      rw [List.filterMap_cons_none hdeleted] at hd
      rwa [Option.elim_none, Multiset.zero_add]
    | some o =>
      rw [List.filterMap_cons_some hdeleted, ← Multiset.cons_coe, Multiset.cons_add] at hd
      rwa [Option.elim_some, Multiset.singleton_add]

/-- Commands that delete nothing leave what is owned. -/
theorem submitAll_of_spares (hd : Owns alive d owned) {commands : List Command}
    (hspares : ∀ c ∈ commands, c.SparesObjects) :
    Owns alive (Device.submitAll d commands) owned := by
  refine submitAll hdevice ?_
  have hnone : commands.filterMap Command.deleted? = [] :=
    List.filterMap_eq_nil_iff.mpr fun c hc ↦ (hspares c hc).deleted?
  rwa [hnone, Multiset.coe_nil, Multiset.zero_add]

end Owns

end SceneRenderer
