import Mathlib.Algebra.Order.Group.Multiset
import SceneRenderer.Gl.Backend
import SceneRenderer.Proofs.Device.ObjectLedger

/-!
The objects of a context by its log. A creation that comes back with the name zero has made nothing.

`Accounted` says that some objects are the outstanding ones and that none was deleted twice, given
that the context gives no name away while its object is there. Programs and targets are built in
several calls, each of which may fail: what was made until then is deleted again.
-/

set_option autoImplicit false
set_option relaxedAutoImplicit false

namespace SceneRenderer.Gl

open Shader ObjectLedger

/-- An object of a context. Each kind has names of its own. -/
structure NamedObject where
  kind : ObjectKind
  name : UInt32
deriving DecidableEq

/-- The object that a call has made. -/
def Call.created? : Call → Option NamedObject
  | .createShader _ name => if name = 0 then none else some ⟨.shader, name⟩
  | .create kind name => if name = 0 then none else some ⟨kind, name⟩
  | _ => none

/-- The object that a call deletes. -/
def Call.deleted? : Call → Option NamedObject
  | .delete kind name => some ⟨kind, name⟩
  | _ => none

def Call.event? (call : Call) : Option (ObjectEvent NamedObject) :=
  call.created?.map .created <|> call.deleted?.map .deleted

namespace Context

/-- What the logged calls did to objects. -/
def ledger (c : Context) : ObjectLedger NamedObject := c.reversed.filterMap Call.event?

/-- Some objects are those that are outstanding, as long as no name was given away for an object
while another one had it. -/
def Accounted (c : Context) (owned : Multiset NamedObject) : Prop :=
  Fresh c.ledger → Orderly c.ledger ∧ outstanding c.ledger = owned

variable {c : Context} {owned : Multiset NamedObject}

theorem ledger_log (c : Context) (call : Call) :
    (c.log call).ledger = call.event?.toList ++ c.ledger := by
  unfold ledger log
  rw [List.filterMap_cons]
  cases call.event? <;> rfl

theorem ledger_getUniformLocation (c : Context) (program : UInt32) (name : String) :
    (c.getUniformLocation program name).2.ledger = c.ledger := by
  unfold getUniformLocation
  dsimp only
  split <;> exact ledger_log _ _

theorem Accounted.of_ledger {c' : Context} (hc : c.Accounted owned) (hsame : c'.ledger = c.ledger) :
    c'.Accounted owned := by
  unfold Accounted
  rwa [hsame]

theorem Accounted.congr {owned' : Multiset NamedObject} (hc : c.Accounted owned)
    (hsame : owned = owned') : c.Accounted owned' := hsame ▸ hc

/-- A call that makes nothing takes out what it deletes. -/
theorem Accounted.log {call : Call} (hmakes : call.created? = none)
    (hc : c.Accounted (↑call.deleted?.toList + owned)) : (c.log call).Accounted owned := by
  unfold Accounted at hc ⊢
  rw [ledger_log, Call.event?, hmakes]
  intro hfresh
  obtain ⟨horderly, houtstanding⟩ := hc hfresh.of_append
  cases hdeleted : call.deleted? with
  | none =>
    rw [hdeleted] at houtstanding
    exact ⟨horderly, houtstanding.trans (Multiset.zero_add _)⟩
  | some o =>
    rw [hdeleted, Option.toList_some, Multiset.coe_singleton,
      Multiset.singleton_add] at houtstanding
    refine ⟨⟨houtstanding ▸ Multiset.mem_cons_self o owned, horderly⟩, ?_⟩
    show (outstanding c.ledger).erase o = owned
    rw [houtstanding, Multiset.erase_cons_head]

theorem Accounted.logAll (calls : List Call) (hmake : ∀ call ∈ calls, call.created? = none)
    (hc : c.Accounted (↑(calls.filterMap Call.deleted?) + owned)) :
    (c.logAll calls).Accounted owned := by
  induction calls generalizing c with
  | nil => rwa [List.filterMap_nil, Multiset.coe_nil, Multiset.zero_add] at hc
  | cons call rest ih =>
    obtain ⟨hcall, hrest⟩ := List.forall_mem_cons.mp hmake
    have hsplit : (call :: rest).filterMap Call.deleted? =
        call.deleted?.toList ++ rest.filterMap Call.deleted? := by
      rw [List.filterMap_cons]
      cases call.deleted? <;> rfl
    rw [hsplit, ← Multiset.coe_add, Multiset.add_assoc] at hc
    exact ih hrest (.log hcall hc)

/-- Calls that neither make nor delete. -/
theorem Accounted.logAll_of_quiet (hc : c.Accounted owned) (calls : List Call)
    (hquiet : ∀ call ∈ calls, call.created? = none ∧ call.deleted? = none) :
    (c.logAll calls).Accounted owned := by
  refine .logAll calls (fun call hcall ↦ (hquiet call hcall).1) ?_
  rwa [List.filterMap_eq_nil_iff.mpr fun call hcall ↦ (hquiet call hcall).2, Multiset.coe_nil,
    Multiset.zero_add]

theorem fresh_logAll {calls : List Call} (hmake : ∀ call ∈ calls, call.created? = none)
    (hfresh : Fresh c.ledger) : Fresh (c.logAll calls).ledger := by
  induction calls generalizing c with
  | nil => exact hfresh
  | cons call rest ih =>
    obtain ⟨hcall, hrest⟩ := List.forall_mem_cons.mp hmake
    refine ih (c := c.log call) hrest ?_
    rw [ledger_log, Call.event?, hcall]
    cases call.deleted? <;> exact hfresh

/-! ### Creations -/

/-- A call that makes an object of a kind, if it comes back with a name. -/
def Makes (kind : ObjectKind) (call : UInt32 → Call) : Prop :=
  ∀ name, (call name).created? = (if name = 0 then none else some ⟨kind, name⟩) ∧
    (call name).deleted? = none

theorem makes_createShader (type : UInt32) : Makes .shader (.createShader type) :=
  fun _ ↦ ⟨rfl, rfl⟩

theorem makes_create (kind : ObjectKind) : Makes kind (.create kind) := fun _ ↦ ⟨rfl, rfl⟩

theorem Accounted.made {kind : ObjectKind} {call : UInt32 → Call} (hmakes : Makes kind call)
    {name : UInt32} (hname : name ≠ 0) (hc : c.Accounted owned) :
    (c.log (call name)).Accounted (↑[(⟨kind, name⟩ : NamedObject)] + owned) := by
  obtain ⟨hcreated, hdeleted⟩ := hmakes name
  unfold Accounted at hc ⊢
  rw [ledger_log, Call.event?, hcreated, hdeleted, if_neg hname]
  rintro ⟨hnew, hfresh⟩
  obtain ⟨horderly, houtstanding⟩ := hc hfresh
  refine ⟨⟨hnew, horderly⟩, ?_⟩
  rw [Multiset.coe_singleton, Multiset.singleton_add, ← houtstanding]
  rfl

theorem Accounted.unmade {kind : ObjectKind} {call : UInt32 → Call} (hmakes : Makes kind call)
    (hc : c.Accounted owned) : (c.log (call 0)).Accounted owned := by
  obtain ⟨hcreated, hdeleted⟩ := hmakes 0
  refine .log (hcreated.trans (if_pos rfl)) ?_
  rwa [hdeleted, Option.toList_none, Multiset.coe_nil, Multiset.zero_add]

theorem Accounted.of_create {kind : ObjectKind} {call : UInt32 → Call} (hmakes : Makes kind call)
    (hc : c.Accounted owned) {name : UInt32} {c' : Context}
    (hcreate : c.create kind call = (some name, c')) :
    c'.Accounted (↑[(⟨kind, name⟩ : NamedObject)] + owned) := by
  unfold Context.create at hcreate
  split at hcreate
  · cases (Prod.mk.inj hcreate).1
  · obtain ⟨hname, rfl⟩ := Prod.mk.inj hcreate
    split at hname
    · cases hname
    · rename_i hnonzero
      cases hname
      exact .made hmakes hnonzero (hc.of_ledger rfl)

/-- A creation that was refused changes nothing. -/
theorem Accounted.of_refused {kind : ObjectKind} {call : UInt32 → Call} (hmakes : Makes kind call)
    (hc : c.Accounted owned) {c' : Context} (hcreate : c.create kind call = (none, c')) :
    c'.Accounted owned := by
  unfold Context.create at hcreate
  split at hcreate
  · obtain ⟨-, rfl⟩ := Prod.mk.inj hcreate
    exact .unmade hmakes (hc.of_ledger rfl)
  · obtain ⟨hname, rfl⟩ := Prod.mk.inj hcreate
    split at hname
    · rename_i hzero
      rw [hzero]
      exact .unmade hmakes (hc.of_ledger rfl)
    · cases hname

theorem Accounted.bindAttribLocations (hc : c.Accounted owned) (program : UInt32)
    (attributes : List (String × UInt32)) :
    (attributes.foldl (fun c a ↦ c.bindAttribLocation program a.2 a.1) c).Accounted owned := by
  induction attributes generalizing c with
  | nil => exact hc
  | cons a rest ih => exact ih (hc.of_ledger (ledger_log _ _))

end Context

/-! ### Objects that are built in several calls -/

open Context

/-- What is owned after an attempt to build something: what there was before, and what was built if
the attempt succeeded. -/
def AccountedAnswer {ε α : Type} (objects : α → List NamedObject) (owned : Multiset NamedObject) :
    Except ε α × Context → Prop
  | (.ok a, c) => c.Accounted (↑(objects a) + owned)
  | (.error _, c) => c.Accounted owned

namespace Backend

variable {c : Context} {owned : Multiset NamedObject}

/-- Two objects that were made one after the other. -/
theorem coe_pair_add (first second : NamedObject) (owned : Multiset NamedObject) :
    (↑[second] : Multiset NamedObject) + (↑[first] + owned) = ↑[first, second] + owned := by
  rw [add_left_comm, ← Multiset.add_assoc, Multiset.coe_add]
  rfl

theorem accounted_compileShader (hc : c.Accounted owned) (stage : StageKind) (text : String) :
    AccountedAnswer (fun shader ↦ [⟨.shader, shader⟩]) owned (compileShader c stage text) := by
  have hmakes := makes_createShader (shaderType stage)
  unfold compileShader
  rcases hcreate : c.create .shader (.createShader (shaderType stage)) with ⟨_ | shader, made⟩
  · exact hc.of_refused hmakes hcreate
  · have hcompiled := (hc.of_create hmakes hcreate).logAll_of_quiet
      [.shaderSource shader text, .compileShader shader]
      (by simp [Call.created?, Call.deleted?])
    dsimp only
    split
    · exact .log rfl hcompiled
    · exact hcompiled

/-- Both stages are gone afterwards, whatever comes of it. -/
theorem accounted_linkProgram {vertex fragment : UInt32}
    (hc : c.Accounted (↑[(⟨.shader, vertex⟩ : NamedObject), ⟨.shader, fragment⟩] + owned))
    (attributes : List (String × UInt32)) :
    AccountedAnswer (fun program ↦ [⟨.program, program⟩]) owned
      (linkProgram c vertex fragment attributes) := by
  unfold linkProgram
  rcases hcreate : c.createObject .program with ⟨_ | program, made⟩
  · exact .logAll _ (by simp [Call.created?]) (hc.of_refused (makes_create _) hcreate)
  · have hmade := hc.of_create (makes_create _) hcreate
    have hbound := Accounted.bindAttribLocations (hmade.logAll_of_quiet
      [.attachShader program vertex, .attachShader program fragment]
      (by simp [Call.created?, Call.deleted?])) program attributes
    rw [add_left_comm] at hbound
    have hlinked := Accounted.logAll [.linkProgram program, .detachShader program vertex,
      .detachShader program fragment, .delete .shader vertex, .delete .shader fragment]
      (by simp [Call.created?]) hbound
    dsimp only
    split
    · exact .log rfl hlinked
    · exact hlinked

theorem accounted_buildProgram (hc : c.Accounted owned) (vertex fragment : String)
    (attributes : List (String × UInt32)) :
    AccountedAnswer (fun program ↦ [⟨.program, program⟩]) owned
      (buildProgram c vertex fragment attributes) := by
  have hfirst := accounted_compileShader hc .vertex vertex
  unfold buildProgram
  rcases hvertex : compileShader c .vertex vertex with ⟨e | first, compiled⟩
  · rwa [hvertex] at hfirst
  · rw [hvertex] at hfirst
    have hsecond := accounted_compileShader hfirst .fragment fragment
    dsimp only
    rcases hfragment : compileShader compiled .fragment fragment with ⟨e | second, both⟩
    · rw [hfragment] at hsecond
      exact .log rfl hsecond
    · rw [hfragment] at hsecond
      refine accounted_linkProgram ?_ attributes
      rw [← coe_pair_add]
      exact hsecond

theorem accounted_buildTarget (hc : c.Accounted owned) (width height color : UInt32) :
    AccountedAnswer
      (fun t : NativeTarget ↦ [⟨.framebuffer, t.framebuffer⟩, ⟨.renderbuffer, t.depth⟩]) owned
      (buildTarget c width height color) := by
  unfold buildTarget
  rcases hframe : c.createObject .framebuffer with ⟨_ | frame, first⟩
  · exact hc.of_refused (makes_create _) hframe
  · have hfirst := hc.of_create (makes_create _) hframe
    dsimp only
    rcases hdepth : first.createObject .renderbuffer with ⟨_ | depth, both⟩
    · exact .log rfl (hfirst.of_refused (makes_create _) hdepth)
    · have hboth := hfirst.of_create (makes_create _) hdepth
      rw [coe_pair_add] at hboth
      have hattached := hboth.logAll_of_quiet [.bindRenderbuffer renderbuffer depth,
        .renderbufferStorage renderbuffer depthComponent16 (size width) (size height),
        .bindFramebuffer framebuffer frame,
        .framebufferTexture framebuffer colorAttachment0 texture2d color,
        .framebufferRenderbuffer framebuffer depthAttachment renderbuffer depth,
        .checkFramebufferStatus framebuffer, .bindFramebuffer framebuffer 0,
        .bindRenderbuffer renderbuffer 0] (by simp [Call.created?, Call.deleted?])
      dsimp only
      split
      · exact hattached
      · exact .logAll _ (by simp [Call.created?]) hattached

end Backend

end SceneRenderer.Gl
