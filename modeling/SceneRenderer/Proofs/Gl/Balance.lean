import SceneRenderer.Proofs.Gl.ObjectLog
import SceneRenderer.Proofs.Gl.Programs
import SceneRenderer.Proofs.Registry

/-!
The objects of a context belong to the backend. Whatever is asked of it, in whatever order, and
whatever the context refuses, after every request the objects that are there are exactly those that
the backend keeps under its identities; when it is destroyed, all of them are deleted, each once.

`Balanced.serve` is the step lemma; the main statement is `Backend.ran_balanced`.
-/

set_option autoImplicit false
set_option relaxedAutoImplicit false

namespace SceneRenderer

/-! ### Identities -/

namespace Registry

variable {κ ν : Type}

/-- No key has an identity beyond the last one. -/
def Within (r : Registry κ ν) (identity : κ → UInt32) (last : UInt32) : Prop :=
  ∀ k ∈ r.keys, (identity k).toNat ≤ last.toNat

variable {r : Registry κ ν} {identity : κ → UInt32} {last : UInt32}

theorem within_empty : (empty : Registry κ ν).Within identity last :=
  fun _ hk ↦ absurd hk List.not_mem_nil

theorem Within.mono {last' : UInt32} (hr : r.Within identity last)
    (hlast : last.toNat ≤ last'.toNat) : r.Within identity last' :=
  fun k hk ↦ (hr k hk).trans hlast

variable [DecidableEq κ]

theorem Within.get?_eq_none (hr : r.Within identity last) {k : κ}
    (hk : last.toNat < (identity k).toNat) : r.get? k = none :=
  get?_eq_none_iff.mpr fun hin ↦ Nat.not_lt.mpr (hr k hin) hk

theorem Within.erase (hr : r.Within identity last) (k : κ) : (r.erase k).Within identity last := by
  intro l hl
  obtain ⟨e, he, rfl⟩ := List.mem_map.mp hl
  exact hr _ (List.mem_map_of_mem (List.mem_filter.mp he).1)

theorem Within.insert (hr : r.Within identity last) {k : κ} (hk : (identity k).toNat ≤ last.toNat)
    (v : ν) : (r.insert k v).Within identity last := by
  intro l hl
  obtain ⟨w, hw⟩ := Option.isSome_iff_exists.mp (contains_iff.mpr hl)
  rw [get?_insert] at hw
  split at hw
  · rename_i hl
    rwa [hl]
  · exact hr l (mem_keys_of_get? hw)

end Registry

namespace Gl

open Shader ObjectLedger Context

def NativeProgram.objects (p : NativeProgram) : List NamedObject := [⟨.program, p.name⟩]

def NativeTarget.objects (t : NativeTarget) : List NamedObject :=
  [⟨.framebuffer, t.framebuffer⟩, ⟨.renderbuffer, t.depth⟩]

namespace Backend

/-- The objects that are kept under identities. -/
def natives (b : Backend) : Multiset NamedObject :=
  b.programs.holdings NativeProgram.objects +
    (b.buffers.holdings (fun name ↦ [⟨.buffer, name⟩]) +
      (b.textures.holdings (fun name ↦ [⟨.texture, name⟩]) +
        b.targets.holdings NativeTarget.objects))

/-- The objects of the context are those that are kept, and new identities are unused. -/
structure Balanced (b : Backend) : Prop where
  accounted : b.context.Accounted b.natives
  programs : b.programs.Within (·.raw) b.lastId
  buffers : b.buffers.Within (·.raw) b.lastId
  textures : b.textures.Within (·.raw) b.lastId
  targets : b.targets.Within (·.raw) b.lastId

variable {b : Backend}

/-! ### Requests -/

/-- What can be asked of a backend. -/
inductive Request
  | createProgram (vertex fragment : String) (attributes : List (String × UInt32))
  | uniformLocation (program : ProgramId) (name : String)
  | attributeLocation (program : ProgramId) (name : String)
  | createBuffer (target : BufferTarget) (data : List UInt8)
  | createTexture (width height : UInt32) (pixels : Option (List UInt8))
  | createRenderTarget (width height : UInt32) (color : TextureId)
  | submit (command : Command)
  | destroy

/-- The backend after a request. -/
def serve (b : Backend) : Request → Backend
  | .createProgram vertex fragment attributes => (b.createProgram vertex fragment attributes).2
  | .uniformLocation program name => (b.uniformLocation program name).2
  | .attributeLocation program name => (b.attributeLocation program name).2
  | .createBuffer target data => (b.createBuffer target data).2
  | .createTexture width height pixels => (b.createTexture width height pixels).2
  | .createRenderTarget width height color => (b.createRenderTarget width height color).2
  | .submit command => b.submit command
  | .destroy => b.destroy

/-- A backend that was asked for things in a row. Before each request the context may come to refuse
or to give names away in any other way; only its log stays. After a fault nothing more is asked. -/
inductive Ran : Backend → Prop
  | new {context : Context} (hlog : context.reversed = []) : Ran (.new context)
  | serve {b : Backend} (hb : Ran b) (hfault : b.fault = none) {context : Context}
    (hlog : context.reversed = b.context.reversed) (request : Request) :
    Ran ({ b with context }.serve request)

/-! ### One request -/

theorem Balanced.logAll_of_quiet {calls : List Call} (hb : b.Balanced)
    (hquiet : ∀ call ∈ calls, call.created? = none ∧ call.deleted? = none) :
    (b.logAll calls).Balanced :=
  ⟨hb.accounted.logAll_of_quiet _ hquiet, hb.programs, hb.buffers, hb.textures, hb.targets⟩

/-- An identity is given away as long as there is one. -/
theorem identify_eq {ε α : Type} {identity : UInt32 → α} {refusal : String → ε}
    {keep : Backend → α → Backend} (hfault : (b.identify identity refusal keep).2.fault = none) :
    (b.lastId + 1).toNat = b.lastId.toNat + 1 ∧ (b.identify identity refusal keep).2 =
      keep { b with lastId := b.lastId + 1 } (identity (b.lastId + 1)) := by
  rcases b.identify_cases identity refusal keep with ⟨hnext, heq⟩ | heq
  · exact ⟨hnext, congrArg Prod.snd heq⟩
  · rw [heq] at hfault
    cases hold : b.fault <;> simp [noteFault, hold] at hfault

/-- Nothing was kept under a new identity, and all old ones are still within bounds. -/
theorem Balanced.grow (hb : b.Balanced) (hnext : (b.lastId + 1).toNat = b.lastId.toNat + 1) :
    { b with lastId := b.lastId + 1 }.Balanced :=
  have hle : b.lastId.toNat ≤ (b.lastId + 1).toNat := hnext ▸ Nat.le_succ _
  ⟨hb.accounted, hb.programs.mono hle, hb.buffers.mono hle, hb.textures.mono hle,
    hb.targets.mono hle⟩

/-- A new identity is none that something is kept under. -/
theorem lt_next (hnext : (b.lastId + 1).toNat = b.lastId.toNat + 1) :
    b.lastId.toNat < (b.lastId + 1).toNat := hnext ▸ Nat.lt_succ_self _

section Natives

theorem natives_insertProgram {id : ProgramId} (hnone : b.programs.get? id = none)
    (p : NativeProgram) :
    { b with programs := b.programs.insert id p }.natives = ↑p.objects + b.natives := by
  simp only [natives, Registry.holdings_insert_of_none hnone]
  ac_rfl

theorem natives_insertBuffer {id : BufferId} (hnone : b.buffers.get? id = none) (name : UInt32) :
    { b with buffers := b.buffers.insert id name }.natives =
      ↑[(⟨.buffer, name⟩ : NamedObject)] + b.natives := by
  simp only [natives, Registry.holdings_insert_of_none hnone]
  ac_rfl

theorem natives_insertTexture {id : TextureId} (hnone : b.textures.get? id = none) (name : UInt32) :
    { b with textures := b.textures.insert id name }.natives =
      ↑[(⟨.texture, name⟩ : NamedObject)] + b.natives := by
  simp only [natives, Registry.holdings_insert_of_none hnone]
  ac_rfl

theorem natives_insertTarget {id : RenderTargetId} (hnone : b.targets.get? id = none)
    (t : NativeTarget) :
    { b with targets := b.targets.insert id t }.natives = ↑t.objects + b.natives := by
  simp only [natives, Registry.holdings_insert_of_none hnone]
  ac_rfl

theorem natives_locate {id : ProgramId} {p : NativeProgram} (hp : b.programs.get? id = some p)
    (locations : List (String × Int32)) :
    { b with programs := b.programs.insert id { p with locations } }.natives = b.natives := by
  have hsame : { p with locations }.objects = p.objects := rfl
  simp only [natives, Registry.holdings_insert_of_eq hp hsame]

theorem natives_eraseProgram (b : Backend) (id : ProgramId) :
    b.natives = ↑((b.programs.get? id).toList.flatMap NativeProgram.objects) +
      { b with programs := b.programs.erase id }.natives := by
  rw [natives, Registry.holdings_eq_erase b.programs id]
  exact add_assoc _ _ _

theorem natives_eraseBuffer (b : Backend) (id : BufferId) :
    b.natives = ↑((b.buffers.get? id).toList.flatMap fun name ↦ [(⟨.buffer, name⟩ : NamedObject)]) +
      { b with buffers := b.buffers.erase id }.natives := by
  simp only [natives, Registry.holdings_eq_erase b.buffers id]
  ac_rfl

theorem natives_eraseTexture (b : Backend) (id : TextureId) :
    b.natives =
      ↑((b.textures.get? id).toList.flatMap fun name ↦ [(⟨.texture, name⟩ : NamedObject)]) +
        { b with textures := b.textures.erase id }.natives := by
  simp only [natives, Registry.holdings_eq_erase b.textures id]
  ac_rfl

theorem natives_eraseTarget (b : Backend) (id : RenderTargetId) :
    b.natives = ↑((b.targets.get? id).toList.flatMap NativeTarget.objects) +
      { b with targets := b.targets.erase id }.natives := by
  simp only [natives, Registry.holdings_eq_erase b.targets id]
  ac_rfl

end Natives

section Creations

variable (hb : b.Balanced)

include hb

theorem Balanced.createProgram (vertex fragment : String) (attributes : List (String × UInt32))
    (hfault : (b.createProgram vertex fragment attributes).2.fault = none) :
    (b.createProgram vertex fragment attributes).2.Balanced := by
  have hbuilt := accounted_buildProgram hb.accounted vertex fragment attributes
  unfold Backend.createProgram at hfault ⊢
  rcases hbuild : buildProgram b.context vertex fragment attributes with ⟨e | name, context⟩
  · rw [hbuild] at hbuilt
    exact ⟨hbuilt, hb.programs, hb.buffers, hb.textures, hb.targets⟩
  · rw [hbuild] at hbuilt hfault
    obtain ⟨hnext, hkept⟩ := identify_eq hfault
    have hgrown := hb.grow hnext
    have hunused : b.programs.get? ⟨b.lastId + 1⟩ = none :=
      hb.programs.get?_eq_none (lt_next hnext)
    dsimp only
    rw [hkept]
    refine ⟨?_, hgrown.programs.insert le_rfl _,
      hgrown.buffers, hgrown.textures, hgrown.targets⟩
    show Accounted _ { b with programs := b.programs.insert ⟨b.lastId + 1⟩ ⟨name, []⟩ }.natives
    rwa [natives_insertProgram hunused]

theorem Balanced.createBuffer (target : BufferTarget) (data : List UInt8)
    (hfault : (b.createBuffer target data).2.fault = none) :
    (b.createBuffer target data).2.Balanced := by
  unfold Backend.createBuffer at hfault ⊢
  rcases hcreate : b.context.createObject .buffer with ⟨_ | name, context⟩
  · exact ⟨hb.accounted.of_refused (makes_create _) hcreate, hb.programs, hb.buffers, hb.textures,
      hb.targets⟩
  · rw [hcreate] at hfault
    have hmade := (hb.accounted.of_create (makes_create _) hcreate).logAll_of_quiet
      [.bindBuffer (bufferBinding target) name,
        .bufferData (bufferBinding target) data staticDraw, .bindBuffer (bufferBinding target) 0]
      (by simp [Call.created?, Call.deleted?])
    obtain ⟨hnext, hkept⟩ := identify_eq hfault
    have hgrown := hb.grow hnext
    have hunused : b.buffers.get? ⟨b.lastId + 1⟩ = none :=
      hb.buffers.get?_eq_none (lt_next hnext)
    dsimp only
    rw [hkept]
    refine ⟨?_, hgrown.programs,
      hgrown.buffers.insert le_rfl _, hgrown.textures, hgrown.targets⟩
    show Accounted _ { b with buffers := b.buffers.insert ⟨b.lastId + 1⟩ name }.natives
    rwa [natives_insertBuffer hunused]

theorem Balanced.createTexture (width height : UInt32) (pixels : Option (List UInt8))
    (hfault : (b.createTexture width height pixels).2.fault = none) :
    (b.createTexture width height pixels).2.Balanced := by
  unfold Backend.createTexture at hfault ⊢
  rcases hcreate : b.context.createObject .texture with ⟨_ | name, context⟩
  · exact ⟨hb.accounted.of_refused (makes_create _) hcreate, hb.programs, hb.buffers, hb.textures,
      hb.targets⟩
  · rw [hcreate] at hfault
    have hmade := (hb.accounted.of_create (makes_create _) hcreate).logAll_of_quiet
      ([.bindTexture texture2d name,
        .texImage texture2d rgba (size width) (size height) unsignedByte pixels.isSome] ++
          (textureParameters.map fun p ↦ .texParameter texture2d p.1 p.2) ++
          [.bindTexture texture2d 0])
      (by simp [Call.created?, Call.deleted?, textureParameters])
    obtain ⟨hnext, hkept⟩ := identify_eq hfault
    have hgrown := hb.grow hnext
    have hunused : b.textures.get? ⟨b.lastId + 1⟩ = none :=
      hb.textures.get?_eq_none (lt_next hnext)
    dsimp only
    rw [hkept]
    refine ⟨?_, hgrown.programs, hgrown.buffers,
      hgrown.textures.insert le_rfl _, hgrown.targets⟩
    show Accounted _ { b with textures := b.textures.insert ⟨b.lastId + 1⟩ name }.natives
    rwa [natives_insertTexture hunused]

theorem Balanced.createRenderTarget (width height : UInt32) (color : TextureId)
    (hfault : (b.createRenderTarget width height color).2.fault = none) :
    (b.createRenderTarget width height color).2.Balanced := by
  unfold Backend.createRenderTarget at hfault ⊢
  rcases hcolor : b.textures.get? color with _ | texture
  · exact hb
  · rw [hcolor] at hfault
    have hbuilt := accounted_buildTarget hb.accounted width height texture
    dsimp only at hfault ⊢
    rcases hbuild : buildTarget b.context width height texture with ⟨e | t, context⟩
    · rw [hbuild] at hbuilt
      exact ⟨hbuilt, hb.programs, hb.buffers, hb.textures, hb.targets⟩
    · rw [hbuild] at hbuilt hfault
      obtain ⟨hnext, hkept⟩ := identify_eq hfault
      have hgrown := hb.grow hnext
      have hunused : b.targets.get? ⟨b.lastId + 1⟩ = none :=
        hb.targets.get?_eq_none (lt_next hnext)
      dsimp only
      rw [hkept]
      refine ⟨?_, hgrown.programs, hgrown.buffers,
        hgrown.textures, hgrown.targets.insert le_rfl _⟩
      show Accounted _ { b with targets := b.targets.insert ⟨b.lastId + 1⟩ t }.natives
      rwa [natives_insertTarget hunused]

end Creations

/-- A location that was found is kept beside those before it. -/
theorem Balanced.uniformLocation (hb : b.Balanced) (id : ProgramId) (name : String) :
    (b.uniformLocation id name).2.Balanced := by
  unfold Backend.uniformLocation
  cases hp : b.programs.get? id with
  | none => exact hb
  | some p =>
    dsimp only
    split
    · exact hb
    · have hkept := hb.accounted.of_ledger (ledger_getUniformLocation b.context p.name name)
      split <;> rename_i hlocation <;> rw [hlocation] at hkept
      · exact ⟨hkept, hb.programs, hb.buffers, hb.textures, hb.targets⟩
      · rename_i location asked
        refine ⟨?_, hb.programs.insert (hb.programs id (Registry.mem_keys_of_get? hp)) _,
          hb.buffers, hb.textures, hb.targets⟩
        show asked.Accounted { b with
          programs := b.programs.insert id ⟨p.name, p.locations ++ [(name, location)]⟩ }.natives
        rwa [natives_locate hp]

theorem Balanced.attributeLocation (hb : b.Balanced) (id : ProgramId) (name : String) :
    (b.attributeLocation id name).2.Balanced := by
  unfold Backend.attributeLocation
  cases b.programs.get? id with
  | none => exact hb
  | some p =>
    exact ⟨hb.accounted.of_ledger (ledger_log _ _), hb.programs, hb.buffers, hb.textures,
      hb.targets⟩

theorem Balanced.setUniform (hb : b.Balanced) (l : UniformLocation) (value : UniformValue) :
    (b.setUniform l value).Balanced := by
  unfold Backend.setUniform
  split
  · split
    · exact hb.logAll_of_quiet (by cases value <;> simp [uniformCall, Call.created?, Call.deleted?])
    · exact hb
  · exact ⟨hb.accounted, hb.programs, hb.buffers, hb.textures, hb.targets⟩

theorem Balanced.bindTexture (hb : b.Balanced) (unit : UInt32) (target : TextureTarget)
    (texture : TextureId) : (b.bindTexture unit target texture).Balanced := by
  unfold Backend.bindTexture
  split
  · exact hb
  · split
    · exact hb.logAll_of_quiet (by simp [Call.created?, Call.deleted?])
    · exact ⟨hb.accounted, hb.programs, hb.buffers, hb.textures, hb.targets⟩

theorem created_targetCalls (t : NativeTarget) : ∀ call ∈ targetCalls t, call.created? = none :=
  List.forall_mem_cons.mpr ⟨rfl, List.forall_mem_singleton.mpr rfl⟩

/-- A deletion takes along what was kept under the identity, if there was anything. -/
theorem Balanced.submit (hb : b.Balanced) (command : Command) : (b.submit command).Balanced := by
  cases command with
  | deleteProgram id =>
    refine ⟨.logAll _ ?_ (hb.accounted.congr ((natives_eraseProgram b id).trans ?_)),
      hb.programs.erase id, hb.buffers, hb.textures, hb.targets⟩
    · simp [Call.created?]
    · cases b.programs.get? id <;> rfl
  | deleteBuffer id =>
    refine ⟨.logAll _ ?_ (hb.accounted.congr ((natives_eraseBuffer b id).trans ?_)), hb.programs,
      hb.buffers.erase id, hb.textures, hb.targets⟩
    · simp [Call.created?]
    · cases b.buffers.get? id <;> rfl
  | deleteTexture id =>
    refine ⟨.logAll _ ?_ (hb.accounted.congr ((natives_eraseTexture b id).trans ?_)), hb.programs,
      hb.buffers, hb.textures.erase id, hb.targets⟩
    · simp [Call.created?]
    · cases b.textures.get? id <;> rfl
  | deleteRenderTarget id =>
    refine ⟨.logAll _ ?_ (hb.accounted.congr ((natives_eraseTarget b id).trans ?_)), hb.programs,
      hb.buffers, hb.textures, hb.targets.erase id⟩
    · intro call hcall
      obtain ⟨t, -, hcall⟩ := List.mem_flatMap.mp hcall
      exact created_targetCalls t call hcall
    · cases b.targets.get? id <;> rfl
  | useProgram id =>
    rw [Backend.submit]
    split
    · exact ⟨hb.accounted.logAll_of_quiet _ (by simp [Call.created?, Call.deleted?]), hb.programs,
        hb.buffers, hb.textures, hb.targets⟩
    · exact hb
  | setUniform l value => exact hb.setUniform l value
  | bindAttribute id layout =>
    rw [Backend.submit]
    split
    · exact hb.logAll_of_quiet (by simp [Call.created?, Call.deleted?])
    · exact hb
  | disableAttribute slot => exact hb.logAll_of_quiet (by simp [Call.created?, Call.deleted?])
  | bindIndexBuffer id =>
    refine hb.logAll_of_quiet ?_
    cases b.buffers.get? id <;> simp [Call.created?, Call.deleted?]
  | bindTexture unit target texture => exact hb.bindTexture unit target texture
  | bindRenderTarget target => exact hb.logAll_of_quiet (by simp [Call.created?, Call.deleted?])
  | setViewport width height => exact hb.logAll_of_quiet (by simp [Call.created?, Call.deleted?])
  | clear color depth =>
    refine hb.logAll_of_quiet fun call hcall ↦ ?_
    cases call with
    | createShader | create | delete => cases color <;> cases depth <;> simp at hcall
    | _ => exact ⟨rfl, rfl⟩
  | drawArrays => exact hb.logAll_of_quiet (by simp [Call.created?, Call.deleted?])
  | drawElements => exact hb.logAll_of_quiet (by simp [Call.created?, Call.deleted?])

/-! ### The end -/

/-- The calls that delete what is kept. -/
def remains (b : Backend) : List Call :=
  (b.programs.values.map fun p ↦ .delete .program p.name) ++
    (b.buffers.values.map fun name ↦ .delete .buffer name) ++
    (b.textures.values.map fun name ↦ .delete .texture name) ++
    b.targets.values.flatMap targetCalls

theorem created_remains : ∀ call ∈ b.remains, call.created? = none := by
  intro call hcall
  simp only [remains, List.mem_append, List.mem_map, List.mem_flatMap] at hcall
  obtain ((⟨p, -, rfl⟩ | ⟨name, -, rfl⟩) | ⟨name, -, rfl⟩) | ⟨t, -, hcall⟩ := hcall
  · rfl
  · rfl
  · rfl
  · exact created_targetCalls t call hcall

theorem deleted_remains (b : Backend) : ↑(b.remains.filterMap Call.deleted?) = b.natives := by
  have hdeleted {ν : Type} (values : List ν) (calls : ν → List Call) :
      (values.flatMap calls).filterMap Call.deleted? =
        values.flatMap fun v ↦ (calls v).filterMap Call.deleted? := List.filterMap_flatMap
  unfold remains
  rw [List.map_eq_flatMap, List.map_eq_flatMap, List.map_eq_flatMap, List.filterMap_append,
    List.filterMap_append, List.filterMap_append, hdeleted, hdeleted, hdeleted, hdeleted,
    ← Multiset.coe_add, ← Multiset.coe_add, ← Multiset.coe_add, add_assoc, add_assoc]
  rfl

theorem accounted_destroy (hb : b.Balanced) : b.destroy.context.Accounted 0 := by
  refine .logAll _ created_remains ?_
  rw [add_zero]
  exact hb.accounted.congr (deleted_remains b).symm

theorem Balanced.destroy (hb : b.Balanced) : b.destroy.Balanced :=
  ⟨accounted_destroy hb, Registry.within_empty, Registry.within_empty, Registry.within_empty,
    Registry.within_empty⟩

/-! ### Runs -/

/-- What is asked of a backend keeps it balanced, as long as it does not stop. -/
theorem Balanced.serve (hb : b.Balanced) (request : Request)
    (hfault : (b.serve request).fault = none) : (b.serve request).Balanced := by
  cases request with
  | createProgram vertex fragment attributes =>
    exact hb.createProgram vertex fragment attributes hfault
  | uniformLocation program name => exact hb.uniformLocation program name
  | attributeLocation program name => exact hb.attributeLocation program name
  | createBuffer target data => exact hb.createBuffer target data hfault
  | createTexture width height pixels => exact hb.createTexture width height pixels hfault
  | createRenderTarget width height color => exact hb.createRenderTarget width height color hfault
  | submit command => exact hb.submit command
  | destroy => exact hb.destroy

theorem balanced_new {context : Context} (hlog : context.reversed = []) :
    (Backend.new context).Balanced := by
  have hempty : context.ledger = [] := by rw [Context.ledger, hlog, List.filterMap_nil]
  have hstart : context.Accounted 0 := by
    unfold Accounted
    rw [hempty]
    exact fun _ ↦ ⟨trivial, rfl⟩
  exact ⟨hstart.of_ledger (ledger_log _ _), Registry.within_empty, Registry.within_empty,
    Registry.within_empty, Registry.within_empty⟩

theorem Ran.balanced (hran : Ran b) (hfault : b.fault = none) : b.Balanced := by
  induction hran with
  | new hlog => exact balanced_new hlog
  | @serve b hb hbefore context hlog request ih =>
    have hsame := ih hbefore
    have hledger : context.ledger = b.context.ledger := by rw [Context.ledger, hlog, Context.ledger]
    have hreplaced : { b with context }.Balanced :=
      ⟨hsame.accounted.of_ledger hledger, hsame.programs, hsame.buffers, hsame.textures,
        hsame.targets⟩
    exact hreplaced.serve request hfault

/-- No stage is kept under an identity. -/
theorem shader_notMem_natives (b : Backend) (name : UInt32) :
    (⟨.shader, name⟩ : NamedObject) ∉ b.natives := by
  simp [natives, Registry.holdings, NativeProgram.objects, NativeTarget.objects]

/-- Whatever was asked of a backend, and whatever the context refused, the objects that are there
are those that the backend keeps, with no stage of a program among them. When it is destroyed, every
object has been deleted as often as it was made, and never while it was not there. -/
theorem ran_balanced (hran : Ran b) (hfault : b.fault = none) (hfresh : Fresh b.context.ledger) :
    (Orderly b.context.ledger ∧ outstanding b.context.ledger = b.natives ∧
      ∀ name, ⟨.shader, name⟩ ∉ outstanding b.context.ledger) ∧
    (Orderly b.destroy.context.ledger ∧ outstanding b.destroy.context.ledger = 0 ∧
      ∀ o, b.destroy.context.ledger.count (.created o) =
        b.destroy.context.ledger.count (.deleted o)) := by
  have hbalanced := hran.balanced hfault
  obtain ⟨horderly, howned⟩ := hbalanced.accounted hfresh
  obtain ⟨hend, hnothing⟩ := accounted_destroy hbalanced (fresh_logAll created_remains hfresh)
  refine ⟨⟨horderly, howned, fun name ↦ ?_⟩, hend, hnothing, fun o ↦ ?_⟩
  · rw [howned]
    exact shader_notMem_natives b name
  · rw [hend.count_created, hnothing, Multiset.count_zero, add_zero]

/-- The backend after a request that is served while the context is set in another way. -/
def serveUnder (b : Backend) (set : Context → Context) (request : Request) : Backend :=
  { b with context := set b.context }.serve request

theorem Ran.serveUnder (hb : Ran b) (hfault : b.fault = none) {set : Context → Context}
    (hset : ∀ c, (set c).reversed = c.reversed) (request : Request) :
    Ran (b.serveUnder set request) :=
  hb.serve hfault (hset b.context) request

/-- A program that is not linked, a target of which half is refused, one that is made, and its
texture deleted twice. Names are given away again when they are free. -/
def strainedRun : Backend :=
  (((((Backend.new (.new 16 (640, 480))
    |>.serveUnder (fun c ↦ { c with failingLink := true }) (.createProgram "" "" [("position", 0)]))
    |>.serveUnder (fun c ↦ { c with named := 0 }) (.createTexture 4 4 none))
    |>.serveUnder (fun c ↦ { c with refusals := Registry.empty.insert .renderbuffer 0 })
      (.createRenderTarget 4 4 ⟨1⟩))
    |>.serveUnder (fun c ↦ { c with named := 1 }) (.createRenderTarget 4 4 ⟨1⟩))
    |>.serveUnder id (.submit (.deleteTexture ⟨1⟩)))
    |>.serveUnder id (.submit (.deleteTexture ⟨1⟩))

theorem ran_balanced_strainedRun :
    Ran strainedRun ∧ strainedRun.fault = none ∧ Fresh strainedRun.context.ledger ∧
      strainedRun.natives = {⟨.framebuffer, 2⟩, ⟨.renderbuffer, 3⟩} ∧
      outstanding strainedRun.context.ledger = strainedRun.natives ∧
      outstanding strainedRun.destroy.context.ledger = 0 ∧
      strainedRun.destroy.context.ledger.count (.created ⟨.framebuffer, 2⟩) = 2 ∧
      strainedRun.destroy.context.ledger.count (.deleted ⟨.framebuffer, 2⟩) = 2 := by
  have hran : Ran strainedRun := by
    iterate 6 refine Ran.serveUnder ?_ (by decide +kernel) (by exact fun _ ↦ rfl) _
    exact .new rfl
  have hfault : strainedRun.fault = none := by decide +kernel
  have hfresh : Fresh strainedRun.context.ledger := by decide +kernel
  have hbalanced := ran_balanced hran hfault hfresh
  exact ⟨hran, hfault, hfresh, by decide +kernel, hbalanced.1.2.1, hbalanced.2.2.1,
    by decide +kernel, by decide +kernel⟩

end Backend

end Gl

end SceneRenderer
