import Mathlib.Algebra.Order.Group.Multiset
import Mathlib.Tactic.Abel
import SceneRenderer.Proofs.Device.ObjectLedger
import SceneRenderer.Proofs.Program.Accounts
import SceneRenderer.Renderer.Compile

/-!
Who owns which objects of a device: the buffers of a geometry, the texture and the framebuffer of a
target, the programs of a cache. Every function that creates them either hands all of them over or,
where a creation fails on the way, deletes those it had created before.
-/

set_option autoImplicit false
set_option relaxedAutoImplicit false

namespace SceneRenderer

open Shader

variable {δ : Type} [Device δ] {alive : δ → DeviceObject → Prop} {d d' : Audited δ}
  {owned : Multiset DeviceObject}

omit [Device δ] in
theorem Owns.of_eq {owned' : Multiset DeviceObject} (hd : Owns alive d owned)
    (heq : owned = owned') : Owns alive d owned' := heq ▸ hd

/-! ### Geometries -/

/-- The buffers of attributes. -/
def AttributeBuffer.objects (buffers : List AttributeBuffer) : List DeviceObject :=
  buffers.map fun b ↦ .buffer b.buffer

def IndexBuffer.objects (index : Option IndexBuffer) : List DeviceObject :=
  index.toList.map fun i ↦ .buffer i.buffer

namespace GeometryBuffers

def objects (b : GeometryBuffers) : List DeviceObject :=
  AttributeBuffer.objects b.attributes ++ IndexBuffer.objects b.index

theorem deleted_deleteAll (buffers : List AttributeBuffer) :
    (deleteAll buffers).filterMap Command.deleted? = AttributeBuffer.objects buffers := by
  rw [deleteAll, List.filterMap_map]
  exact congrFun List.filterMap_eq_map _

theorem deleted_destroy (b : GeometryBuffers) :
    b.destroy.filterMap Command.deleted? = b.objects := by
  rw [destroy, List.filterMap_append, deleted_deleteAll, List.filterMap_map]
  exact congrArg (AttributeBuffer.objects b.attributes ++ ·) (congrFun List.filterMap_eq_map _)

end GeometryBuffers

namespace Owns

variable (hdevice : KeepsObjects alive)

include hdevice

theorem uploadArrays (quantized : Bool) {done : List AttributeBuffer}
    (hd : Owns alive d (↑(AttributeBuffer.objects done) + owned))
    (arrays : List (VertexAttribute × VertexArray)) :
    OwnsAnswer alive (fun attributes ↦ ↑(AttributeBuffer.objects attributes)) owned
      (GeometryBuffers.uploadArrays quantized d done arrays) := by
  induction arrays generalizing d done with
  | nil => exact hd
  | cons array rest ih =>
    obtain ⟨a, array⟩ := array
    have hcreate := hd.createBuffer hdevice .vertex array.bytes
    unfold GeometryBuffers.uploadArrays
    rcases hcreated : Device.createBuffer d .vertex array.bytes with ⟨e | buffer, created⟩
    · rw [hcreated] at hcreate
      refine Owns.submitAll hdevice ?_
      rwa [GeometryBuffers.deleted_deleteAll]
    · rw [hcreated] at hcreate
      refine ih (hcreate.of_eq ?_)
      have hdone : AttributeBuffer.objects (done ++ [⟨a, buffer,
          GeometryBuffers.attributeLayout quantized a array.component⟩]) =
          AttributeBuffer.objects done ++ [.buffer buffer] :=
        List.map_append
      show {.buffer buffer} + (_ + owned) = _
      rw [hdone, ← Multiset.coe_add, Multiset.coe_singleton]
      abel

theorem uploadIndices (hd : Owns alive d owned) (g : Geometry) :
    OwnsAnswer alive (fun index ↦ ↑(IndexBuffer.objects index)) owned
      (GeometryBuffers.uploadIndices d g) := by
  unfold GeometryBuffers.uploadIndices
  split
  · exact hd.of_eq (Multiset.zero_add _).symm
  · rename_i indices _
    have hcreate := hd.createBuffer hdevice .index indices.bytes
    rcases hcreated : Device.createBuffer d .index indices.bytes with ⟨e | buffer, created⟩
    · rwa [hcreated] at hcreate
    · rwa [hcreated] at hcreate

/-- An upload creates all buffers of a geometry, or leaves none. -/
theorem upload (hd : Owns alive d owned) (g : Geometry) :
    OwnsAnswer alive (fun b ↦ ↑b.objects) owned (GeometryBuffers.upload d g) := by
  unfold GeometryBuffers.upload
  split
  · exact hd
  · have hstart : Owns alive d (↑(AttributeBuffer.objects []) + owned) :=
      hd.of_eq (Multiset.zero_add _).symm
    have harrays := uploadArrays hdevice g.isQuantized hstart g.uploads
    rcases harray : GeometryBuffers.uploadArrays g.isQuantized d [] g.uploads with
      ⟨e | attributes, uploaded⟩
    · rwa [harray] at harrays
    · rw [harray] at harrays
      have hindices := uploadIndices hdevice harrays g
      dsimp only
      rcases hindex : GeometryBuffers.uploadIndices uploaded g with ⟨e | index, device'⟩
      · rw [hindex] at hindices
        refine Owns.submitAll hdevice ?_
        rwa [GeometryBuffers.deleted_deleteAll]
      · rw [hindex] at hindices
        refine hindices.of_eq ?_
        show _ + (_ + owned) = ↑(AttributeBuffer.objects attributes ++ IndexBuffer.objects index) +
          owned
        rw [← Multiset.coe_add]
        abel

end Owns

/-! ### Targets and shadow maps -/

def RenderTarget.objects (t : RenderTarget) : List DeviceObject :=
  [.renderTarget t.id, .texture t.color]

/-- One target with its texture for each map. -/
def ShadowRenderer.objects (r : ShadowRenderer) : List DeviceObject :=
  r.maps.flatMap (·.target.objects)

theorem ShadowRenderer.deleted_destroy (maps : List ShadowMap) :
    (maps.flatMap (·.target.destroy)).filterMap Command.deleted? =
      maps.flatMap (·.target.objects) := by
  rw [List.filterMap_flatMap]
  rfl

namespace Owns

variable (hdevice : KeepsObjects alive)

include hdevice

/-- A target is created with its texture, or neither is left. -/
theorem createTarget (hd : Owns alive d owned) (width height : UInt32) :
    OwnsAnswer alive (fun t ↦ ↑t.objects) owned (RenderTarget.create d width height) := by
  have htexture := hd.createTexture hdevice width height none
  unfold RenderTarget.create
  rcases hcreated : Device.createTexture d width height none with ⟨e | color, created⟩
  · rwa [hcreated] at htexture
  · rw [hcreated] at htexture
    have htarget := createRenderTarget hdevice htexture width height color
    dsimp only
    rcases hcreate : Device.createRenderTarget created width height color with ⟨e | id, device'⟩
    · rw [hcreate] at htarget
      exact Owns.submit hdevice htarget
    · rw [hcreate] at htarget
      exact htarget.of_eq (add_assoc _ _ _).symm

theorem createMaps {r : ShadowRenderer} (hd : Owns alive d (↑r.objects + owned))
    (lights : List UInt32) :
    Owns alive (r.createMaps d lights).2.2 (↑(r.createMaps d lights).2.1.objects + owned) := by
  induction lights generalizing r d with
  | nil => exact hd
  | cons light rest ih =>
    unfold ShadowRenderer.createMaps
    split
    · exact ih hd
    · have hcreate := hd.createTarget hdevice r.mapSize r.mapSize
      rcases hcreated : RenderTarget.create d r.mapSize r.mapSize with ⟨e | target, created⟩
      · rwa [hcreated] at hcreate
      · rw [hcreated] at hcreate
        refine ih (hcreate.of_eq ?_)
        have hobjects : (r.add ⟨light, target⟩).objects = r.objects ++ target.objects := by
          simp [ShadowRenderer.objects, ShadowRenderer.add]
        rw [hobjects, ← Multiset.coe_add]
        abel

/-- Shadow maps that are no longer wanted are deleted, and those that were created are owned, also
where creating one of them fails. -/
theorem sync {r : ShadowRenderer} (hd : Owns alive d (↑r.objects + owned)) (lights : List Light) :
    Owns alive (r.sync d lights).2.2 (↑(r.sync d lights).2.1.objects + owned) := by
  have hparts : (↑r.objects : Multiset DeviceObject) =
      ↑((r.droppedFor lights).flatMap (·.target.objects)) + ↑(r.keptFor lights).objects := by
    rw [Multiset.coe_add, Multiset.coe_eq_coe, ShadowRenderer.objects, ShadowRenderer.objects,
      ← List.flatMap_append]
    exact ((List.filter_append_perm _ r.maps).symm.trans List.perm_append_comm).flatMap_right _
  have hkept : Owns alive (Device.submitAll d ((r.droppedFor lights).flatMap (·.target.destroy)))
      (↑(r.keptFor lights).objects + owned) := by
    refine Owns.submitAll hdevice (hd.of_eq ?_)
    rw [ShadowRenderer.deleted_destroy, hparts, add_assoc]
  obtain ⟨_, _, hperm, hsynced⟩ := r.sync_cases d lights
  rw [hsynced]
  refine (createMaps hdevice hkept (castingLights lights)).of_eq (congrArg (· + owned) ?_)
  exact Multiset.coe_eq_coe.mpr (hperm.symm.flatMap_right _)

end Owns

/-! ### Programs -/

namespace ProgramCache

variable {c c' : ProgramCache}

/-- The program in a slot. -/
def slotObjects (s : CacheSlot) : List DeviceObject :=
  s.entry.toList.map fun e ↦ .program e.program.id

/-- The programs of the entries. -/
def objects (c : ProgramCache) : List DeviceObject := c.slots.toList.flatMap slotObjects

/-- Slots before and after one of them is changed. -/
theorem objects_modify (slots : Array CacheSlot) {i : Nat} (hi : i < slots.size)
    (f : CacheSlot → CacheSlot) : ∃ rest,
      (slots.toList.flatMap slotObjects).Perm (slotObjects slots[i] ++ rest) ∧
      ((slots.modify i f).toList.flatMap slotObjects).Perm (slotObjects (f slots[i]) ++ rest) := by
  have hlength : i < slots.toList.length := by simpa using hi
  have hgathered (s : CacheSlot) (front back : List CacheSlot) :
      ((front ++ s :: back).flatMap slotObjects).Perm
        (slotObjects s ++ (front ++ back).flatMap slotObjects) := by
    rw [List.flatMap_append, List.flatMap_cons, List.flatMap_append]
    exact List.perm_append_comm_assoc _ _ _
  refine ⟨(slots.toList.take i ++ slots.toList.drop (i + 1)).flatMap slotObjects, ?_, ?_⟩
  · have hsplit : slots.toList = slots.toList.take i ++ slots[i] :: slots.toList.drop (i + 1) := by
      conv_lhs => rw [← List.take_append_drop i slots.toList, List.drop_eq_getElem_cons hlength]
      rfl
    exact (List.Perm.of_eq (congrArg (List.flatMap slotObjects) hsplit)).trans (hgathered _ _ _)
  · rw [Array.toList_modify, List.modify_eq_take_cons_drop hlength]
    exact hgathered _ _ _

/-- A change of an entry that leaves its program. -/
theorem objects_modifyEntry (c : ProgramCache) (h : ProgramHandle) {f : CacheEntry → CacheEntry}
    (hf : ∀ e, (f e).program = e.program) : (c.modifyEntry h f).objects = c.objects := by
  have hslot (s : CacheSlot) : slotObjects { s with entry := s.entry.map f } = slotObjects s := by
    unfold slotObjects
    cases s.entry with
    | none => rfl
    | some e => simp [hf]
  show ((c.slots.modify h.index.toNat _).toList.flatMap slotObjects) = _
  rw [Array.toList_modify, objects]
  generalize c.slots.toList = slots
  generalize h.index.toNat = i
  induction slots generalizing i with
  | nil => cases i <;> rfl
  | cons s rest ih =>
    cases i with
    | zero => exact congrArg (· ++ rest.flatMap slotObjects) (hslot s)
    | succ i => exact congrArg (slotObjects s ++ ·) (ih i)

/-- A program that is stored is one more. -/
theorem objects_store (hc : c.Sound) (e : CacheEntry) :
    (c.store e).2.objects.Perm (.program e.program.id :: c.objects) := by
  unfold store
  split
  · rename_i index free hfree
    obtain ⟨hlt, hvacant⟩ := (hc.mem_free index).mp (hfree ▸ List.mem_cons_self)
    obtain ⟨rest, hbefore, hafter⟩ :=
      objects_modify c.slots hlt fun s ↦ { s with entry := some e }
    have hnone : slotObjects c.slots[index.toNat] = [] := by
      rw [entryAt?, Array.getElem?_eq_getElem hlt] at hvacant
      rw [slotObjects, show c.slots[index.toNat].entry = none from hvacant]
      rfl
    rw [hnone] at hbefore
    exact hafter.trans (hbefore.symm.cons _)
  · show ((c.slots.push ⟨0, some e⟩).toList.flatMap slotObjects).Perm _
    rw [Array.toList_push, List.flatMap_append]
    exact List.perm_append_comm

/-- A program that is destroyed is one less. -/
theorem objects_destroyAt {i : UInt32} {e : CacheEntry} (he : c.entryAt? i = some e) :
    c.objects.Perm (.program e.program.id :: (c.destroyAt i e).2.objects) := by
  have hlt := lt_size_of_entryAt? he
  obtain ⟨rest, hbefore, hafter⟩ := objects_modify c.slots hlt CacheSlot.vacate
  rw [entryAt?, Array.getElem?_eq_getElem hlt] at he
  have hentry : c.slots[i.toNat].entry = some e := he
  have hsome : slotObjects c.slots[i.toNat] = [.program e.program.id] := by
    rw [slotObjects, hentry]
    rfl
  have hnone : slotObjects c.slots[i.toNat].vacate = [] := by
    rw [CacheSlot.vacate, hentry]
    rfl
  rw [hsome] at hbefore
  rw [hnone] at hafter
  exact hbefore.trans (hafter.symm.cons _)

/-- Clearing deletes every program there is. -/
theorem deleted_clear (c : ProgramCache) :
    c.clear.1.filterMap Command.deleted? = c.objects := by
  have hslots : c.objects = c.slots.toList.zipIdx.flatMap fun s ↦ slotObjects s.1 := by
    conv_lhs => rw [objects, ← List.zipIdx_map_fst 0 c.slots.toList, List.flatMap_map]
  show (c.taken.map fun t ↦ Command.deleteProgram t.2.program.id).filterMap _ = _
  rw [hslots, taken, List.filterMap_map, List.filterMap_filterMap, List.filterMap_eq_flatMap_toList]
  congr 1
  funext s
  cases hentry : s.1.entry <;> simp [slotObjects, hentry, Command.deleted?]

end ProgramCache

namespace Owns

omit [Device δ] in
theorem askAll {κ ν : Type} [DecidableEq κ] (ask : Audited δ → κ → Option ν × Audited δ)
    (hask : ∀ d k, Owns alive d owned → Owns alive (ask d k).2 owned)
    (hd : Owns alive d owned) (keys : List κ) :
    Owns alive (LinkedProgram.askAll ask d keys).2 owned :=
  LinkedProgram.askAll_keeps ask hask keys hd

variable (hdevice : KeepsObjects alive)

include hdevice

theorem uniformLocation (hd : Owns alive d owned) (program : ProgramId) (name : String) :
    Owns alive (Device.uniformLocation d program name).2 owned :=
  ⟨hd.orderly, hd.outstanding,
    fun o ho ↦ hdevice.uniformLocation d.device program name o (hd.alive o ho)⟩

theorem attributeLocation (hd : Owns alive d owned) (program : ProgramId) (name : String) :
    Owns alive (Device.attributeLocation d program name).2 owned :=
  ⟨hd.orderly, hd.outstanding,
    fun o ho ↦ hdevice.attributeLocation d.device program name o (hd.alive o ho)⟩

theorem link (hd : Owns alive d owned) (source : ProgramSource) :
    OwnsAnswer alive (fun p ↦ {.program p.id}) owned (LinkedProgram.link d source) := by
  have hcreate := hd.createProgram hdevice (source.stageText .vertex) (source.stageText .fragment)
    LinkedProgram.attributeSlots
  unfold LinkedProgram.link
  rcases hcreated : Device.createProgram d (source.stageText .vertex)
    (source.stageText .fragment) LinkedProgram.attributeSlots with ⟨e | id, created⟩
  · rwa [hcreated] at hcreate
  · rw [hcreated] at hcreate
    have huniforms := askAll (fun d name ↦ Device.uniformLocation d id name)
      (fun _ name hd ↦ uniformLocation hdevice hd id name) hcreate source.uniforms
    exact askAll (fun d a ↦ Device.attributeLocation d id (vertexAttributeName a))
      (fun _ a hd ↦ attributeLocation hdevice hd id _) huniforms VertexAttribute.all

/-- An acquired program is one that is there, or a new one. -/
theorem acquire {c c' : ProgramCache} (hc : c.Sound) (hd : Owns alive d (↑c.objects + owned))
    {k : ProgramKey} {result : Except ProgramError ProgramHandle}
    (hacquire : c.acquire d k = .ok (result, c', d')) : Owns alive d' (↑c'.objects + owned) := by
  rcases ProgramCache.acquireWith_ok hacquire with
    ⟨h, _, uses, _, _, _, _, rfl, rfl⟩ | ⟨_, source, _, hlinked⟩
  · refine hd.of_eq (congrArg (fun objects : List DeviceObject ↦ ↑objects + owned) ?_)
    exact (c.objects_modifyEntry h (f := fun e ↦ { e with useCount := uses }) fun _ ↦ rfl).symm
  · have hlink := link hdevice hd source
    rcases hlinked with ⟨e, hanswer, _, rfl⟩ | ⟨program, hanswer, _, rfl⟩
    · rw [hanswer] at hlink
      exact hlink
    · rw [hanswer] at hlink
      refine hlink.of_eq ?_
      rw [Multiset.coe_eq_coe.mpr (ProgramCache.objects_store hc ⟨k, source, program, 1⟩),
        ← Multiset.cons_coe, ← Multiset.singleton_add, add_assoc]

/-- A program goes with its last use. -/
theorem releaseHandle {c : ProgramCache} (hd : Owns alive d (↑c.objects + owned))
    (holder : Option ProgramHandle) :
    Owns alive (Renderer.releaseHandle c d holder).2.2
      (↑(Renderer.releaseHandle c d holder).2.1.objects + owned) := by
  cases holder with
  | none => exact hd
  | some h =>
    unfold Renderer.releaseHandle
    dsimp only
    rw [ProgramCache.release_eq]
    cases he : c.entry? h with
    | none => exact hd
    | some e =>
      dsimp only
      by_cases hlast : e.useCount ≤ 1
      · rw [if_pos hlast]
        refine Owns.submitAll hdevice (hd.of_eq ?_)
        obtain ⟨_, hentry⟩ := ProgramCache.entry?_eq_some_iff.mp he
        rw [Multiset.coe_eq_coe.mpr (ProgramCache.objects_destroyAt hentry), ← Multiset.cons_coe,
          ← Multiset.singleton_add, add_assoc]
        rfl
      · rw [if_neg hlast]
        refine hd.of_eq (congrArg (fun objects : List DeviceObject ↦ ↑objects + owned) ?_)
        exact (c.objects_modifyEntry h (f := fun e ↦ { e with useCount := e.useCount - 1 })
          fun _ ↦ rfl).symm

/-- A slot that is pointed elsewhere gives its program back and takes another. -/
theorem retarget {c : ProgramCache} (hc : c.Sound) (hd : Owns alive d (↑c.objects + owned))
    {slot : ProgramSlot} {key : Option ProgramKey} {t : Renderer.Retargeted (Audited δ)}
    (hretarget : Renderer.retarget c d slot key = .ok t) :
    Owns alive t.device (↑t.cache.objects + owned) := by
  cases key with
  | none =>
    obtain rfl := Except.ok.inj hretarget
    exact releaseHandle hdevice hd slot.handle
  | some key =>
    simp only [Renderer.retarget] at hretarget
    split at hretarget
    · obtain rfl := Except.ok.inj hretarget
      exact hd
    · rcases hacquire : c.acquire d key with fault | ⟨result, c', d'⟩
      · rw [hacquire] at hretarget
        exact absurd hretarget nofun
      · rw [hacquire] at hretarget
        have hreleased := releaseHandle hdevice (acquire hdevice hc hd hacquire) slot.handle
        cases result with
        | error e =>
          obtain rfl := Except.ok.inj hretarget
          exact hreleased
        | ok handle =>
          obtain rfl := Except.ok.inj hretarget
          exact hreleased

end Owns

end SceneRenderer
