import SceneRenderer.Proofs.Device.Observed
import SceneRenderer.Proofs.Renderer.CacheSteps
import SceneRenderer.Proofs.Renderer.TypedPasses

/-!
What it takes for uploads to arrive: the programs of the cache are alive, each place that they keep
is one in them, and so far every uniform was set for the program that was made current last
(`Uploading`).

No step of an operation ends this (`Renderer.uploading_steps`), whatever the device refuses. A frame
follows the program in use from command to command (`Uploading.submitAll`).
-/

set_option autoImplicit false
set_option relaxedAutoImplicit false

namespace SceneRenderer

open Shader

namespace Observed

variable {δ : Type}

/-! ### What a device was told -/

/-- The program that was made current last. -/
def lastUsed : List (δ × Command) → Option ProgramId
  | [] => none
  | (_, .useProgram id) :: _ => some id
  | _ :: earlier => lastUsed earlier

theorem lastUsed_cons_of_not_use {command : Command} (huse : command.isUse = false) (device : δ)
    (earlier : List (δ × Command)) :
    lastUsed ((device, command) :: earlier) = lastUsed earlier := by
  cases command with
  | useProgram id => cases huse
  | _ => rfl

/-- Every uniform was set for the program that was made current last, at a place and on a device
that go together. -/
def Uploaded (p : δ → UniformLocation → Prop) (told : List (δ × Command)) : Prop :=
  ∀ later device l value earlier, told = later ++ (device, .setUniform l value) :: earlier →
    lastUsed earlier = some l.program ∧ p device l

variable {p : δ → UniformLocation → Prop} {told : List (δ × Command)} {device : δ}
  {command : Command}

theorem Uploaded.cons (htold : Uploaded p told)
    (hnow : ∀ l value, command = .setUniform l value →
      lastUsed told = some l.program ∧ p device l) :
    Uploaded p ((device, command) :: told) := by
  rintro (_ | ⟨latest, later⟩) device' l value earlier heq
  · obtain ⟨hhead, rfl⟩ := List.cons.inj heq
    cases hhead
    exact hnow l value rfl
  · exact htold later device' l value earlier (List.cons.inj heq).2

theorem Uploaded.of_sets_nothing (htold : Uploaded p told)
    (hnone : ∀ l value, command ≠ .setUniform l value) : Uploaded p ((device, command) :: told) :=
  htold.cons fun l value heq ↦ absurd heq (hnone l value)

variable [Adjustable δ] [Device δ]

theorem keptByLinks_told (p : List (δ × Command) → Prop) :
    KeptByLinks fun d : Observed δ ↦ p d.told where
  createProgram d _ _ _ hd := by
    show p (d.create _ _).2.told
    rwa [told_create]
  uniformLocation _ _ _ hd := hd
  attributeLocation _ _ _ hd := hd

theorem keptByResources_uploaded (p : δ → UniformLocation → Prop) :
    KeptByResources fun d : Observed δ ↦ Uploaded p d.told where
  createBuffer d _ _ hd := by
    show Uploaded p (d.create _ _).2.told
    rwa [told_create]
  createTexture d _ _ _ hd := by
    show Uploaded p (d.create _ _).2.told
    rwa [told_create]
  createRenderTarget d _ _ _ hd := by
    show Uploaded p (d.create _ _).2.told
    rwa [told_create]
  submit d command hcommand hd := hd.of_sets_nothing fun l value heq ↦ by
    rw [heq] at hcommand
    exact hcommand

theorem Uploaded.submitAll_of_sets_nothing {commands : List Command}
    (hnone : ∀ c ∈ commands, ∀ l value, c ≠ .setUniform l value) {d : Observed δ}
    (hd : Uploaded p d.told) : Uploaded p (Device.submitAll d commands).told :=
  List.foldlRecOn (motive := fun d : Observed δ ↦ Uploaded p d.told) commands _ hd
    fun _ hd c hc ↦ hd.of_sets_nothing (hnone c hc)

end Observed

open Observed

/-! ### Programs and places -/

/-- The places that a program keeps are places in it. -/
def CacheEntry.Placed {δ : Type} (knows : δ → UniformLocation → Prop) (device : δ)
    (e : CacheEntry) : Prop :=
  ∀ name l, e.program.bindings.uniform? name = some l → l.program = e.program.id ∧ knows device l

namespace ProgramCache

variable {δ : Type} [Device δ] {alive : δ → ProgramId → Prop} {c c' : ProgramCache} {device : δ}
  {uses : ProgramHandle → Nat}

/-- What is in a slot has a handle. -/
theorem exists_entry?_of_entryAt? {i : UInt32} {e : CacheEntry} (he : c.entryAt? i = some e) :
    ∃ h, c.entry? h = some e :=
  ⟨⟨i, c.generationAt i⟩, entry?_eq_some_iff.mpr ⟨rfl, he⟩⟩

theorem Accounts.allBuilt (haccounts : Accounts alive c device uses) : c.AllBuilt δ := by
  intro i e he
  obtain ⟨h, hentry⟩ := exists_entry?_of_entryAt? he
  exact haccounts.built h e hentry

/-- A release deletes no program that is still in the cache. -/
theorem Accounts.ne_of_release (haccounts : Accounts alive c device uses) {h : ProgramHandle}
    {commands : List Command} (hrelease : c.release h = .ok (commands, c')) {i : UInt32}
    {e : CacheEntry} (he : c'.entryAt? i = some e) :
    ∀ command ∈ commands, command ≠ .deleteProgram e.program.id := by
  rintro command hcommand rfl
  obtain ⟨h', hentry⟩ := exists_entry?_of_entryAt? he
  obtain ⟨released, hreleased, _, rfl, hentries⟩ := release_ok haccounts.sound hrelease
  split at hcommand
  · rename_i hlast
    have hid : e.program.id = released.program.id :=
      Command.deleteProgram.inj (List.mem_singleton.mp hcommand)
    rw [hentries] at hentry
    split at hentry
    · cases hentry
    · rename_i hne
      exact hne (haccounts.distinct h' h e released hentry hreleased hid)
  · exact absurd hcommand List.not_mem_nil

end ProgramCache

/-! ### One step after the other -/

/-- Nothing stands in the way of an upload, and so far none was lost. -/
structure Uploading {δ : Type} [Adjustable δ] [Device δ] (alive : δ → ProgramId → Prop)
    (knows : δ → UniformLocation → Prop) (bound : δ → ProgramId → Prop) (c : ProgramCache)
    (d : Observed δ) : Prop where
  accounts : ∃ uses, ProgramCache.Accounts (fun (d : Observed δ) id ↦ alive d.device id) c d uses
  placed : ∀ i e, c.entryAt? i = some e → e.Placed knows d.device
  uploaded :
    Uploaded (fun device l ↦ alive device l.program ∧ knows device l ∧ bound device l.program)
    d.told

namespace Uploading

variable {δ : Type} [Adjustable δ] [Device δ] {alive : δ → ProgramId → Prop}
  {knows : δ → UniformLocation → Prop} {bound : δ → ProgramId → Prop} {c c' : ProgramCache}
  {d d' : Observed δ}

theorem new (options : ShaderOptions) (device : δ) (turns : List (Turn δ)) :
    Uploading alive knows bound (.new options) (.start device turns) where
  accounts := ⟨_, ProgramCache.accounts_new _ options _⟩
  placed i e he := absurd he (by simp [ProgramCache.new, ProgramCache.entryAt?])
  uploaded later device l value earlier heq := by simp [start] at heq

theorem of_lasting (hd : Uploading alive knows bound c d)
    (halive : ∀ id, alive d.device id → alive d'.device id)
    (hknows : ∀ l, knows d.device l → knows d'.device l)
    (huploaded : Uploaded (fun device l ↦
      alive device l.program ∧ knows device l ∧ bound device l.program) d'.told) :
    Uploading alive knows bound c d' where
  accounts := hd.accounts.imp fun _ haccounts ↦ haccounts.of_outlives halive
  placed i e he name l hl := (hd.placed i e he name l hl).imp_right (hknows l)
  uploaded := huploaded

theorem resources (hdevice : BindsSteadily alive knows bound) (c : ProgramCache) :
    KeptByResources (Uploading alive knows bound c) where
  createBuffer d target data hd :=
    hd.of_lasting (fun id ↦ hdevice.observed.keepsPrograms.createBuffer d target data id)
      (fun l ↦ (hdevice.observed.lasts l).createBuffer d target data)
      ((keptByResources_uploaded _).createBuffer d target data hd.uploaded)
  createTexture d width height pixels hd :=
    hd.of_lasting (fun id ↦ hdevice.observed.keepsPrograms.createTexture d width height pixels id)
      (fun l ↦ (hdevice.observed.lasts l).createTexture d width height pixels)
      ((keptByResources_uploaded _).createTexture d width height pixels hd.uploaded)
  createRenderTarget d width height color hd :=
    hd.of_lasting
      (fun id ↦ hdevice.observed.keepsPrograms.createRenderTarget d width height color id)
      (fun l ↦ (hdevice.observed.lasts l).createRenderTarget d width height color)
      ((keptByResources_uploaded _).createRenderTarget d width height color hd.uploaded)
  submit d command hcommand hd := by
    have hne (id : ProgramId) : command ≠ .deleteProgram id := by
      rintro rfl
      exact hcommand
    exact hd.of_lasting (fun id ↦ hdevice.observed.keepsPrograms.submit d command id (hne id))
      (fun l ↦ (hdevice.observed.lasts l).submit d command (hne l.program))
      ((keptByResources_uploaded _).submit d command hcommand hd.uploaded)

/-- A program that is linked for the cache has its places in itself. -/
theorem acquire (hdevice : BindsSteadily alive knows bound) {k : ProgramKey}
    {result : Except ProgramError ProgramHandle}
    (hacquire : c.acquire d k = .ok (result, c', d')) (hd : Uploading alive knows bound c d) :
    Uploading alive knows bound c' d' := by
  obtain ⟨uses, haccounts⟩ := hd.accounts
  have hbinds := hdevice.observed
  refine ⟨⟨_, (haccounts.acquire hbinds.keepsPrograms hacquire).1⟩, ?_,
    (keptByLinks_told _).acquire hacquire hd.uploaded⟩
  refine ProgramCache.forall_entryAt?_acquire (p := (·.Placed knows d'.device)) hacquire
    (fun _ _ he ↦ he) (fun source program _ hlink name l hl ↦ ?_) fun i e he name l hl ↦ ?_
  · exact hbinds.located_of_link hlink hl
  · exact (hd.placed i e he name l hl).imp_right ((hbinds.lasts l).links.acquire hacquire)

/-- With a release goes a program that has no place in the cache any more. -/
theorem release (hdevice : BindsSteadily alive knows bound) {h : ProgramHandle}
    {commands : List Command} (hrelease : c.release h = .ok (commands, c'))
    (hd : Uploading alive knows bound c d) :
    Uploading alive knows bound c' (Device.submitAll d commands) := by
  obtain ⟨uses, haccounts⟩ := hd.accounts
  obtain ⟨e, he, _, hcommands, _⟩ := ProgramCache.release_ok haccounts.sound hrelease
  have huses : uses h ≠ 0 := by
    have hpos := haccounts.sound.useCount _ e (ProgramCache.entry?_eq_some_iff.mp he).2
    rw [haccounts.useCount_eq he] at hpos
    exact Nat.ne_of_gt hpos
  refine ⟨⟨fun h' ↦ uses h' - held (some h) h', ?_⟩, fun i e' he' name l hl ↦ ?_, ?_⟩
  · refine ProgramCache.Accounts.release hdevice.observed.keepsPrograms
      (haccounts.of_eq fun h' ↦ ?_)
      hrelease
    by_cases heq : h' = h
    · rw [heq, held_self]
      omega
    · rw [held_of_ne heq]
      omega
  · have hbefore := ProgramCache.forall_entryAt?_release (p := (·.Placed knows d.device)) hrelease
      (fun _ _ hplaced ↦ hplaced) hd.placed i e' he' name l hl
    refine ⟨hbefore.1, (hdevice.observed.lasts l).submitAll ?_ hbefore.2⟩
    rw [hbefore.1]
    exact haccounts.ne_of_release hrelease he'
  · refine hd.uploaded.submitAll_of_sets_nothing fun command hcommand ↦ ?_
    rw [hcommands] at hcommand
    split at hcommand
    · rw [List.mem_singleton.mp hcommand]
      exact nofun
    · exact absurd hcommand List.not_mem_nil

end Uploading

/-! ### A frame -/

theorem Device.submitAll_concat {δ : Type} [Device δ] (device : δ) (commands : List Command)
    (command : Command) : Device.submitAll device (commands ++ [command]) =
      Device.submit (Device.submitAll device commands) command :=
  List.foldl_append ..

/-- The program that is in use is the one that was made current last. It is bound if it was alive at
first. -/
def Follows {δ : Type} [Adjustable δ] (alive bound : δ → ProgramId → Prop) (first d : Observed δ)
    (state : GpuState) : Prop :=
  ∀ id, state .program = some (.program id) →
    lastUsed d.told = some id ∧ (alive first.device id → bound d.device id)

section Frame

variable {δ : Type} [Adjustable δ] [Device δ] {alive : δ → ProgramId → Prop}
  {knows : δ → UniformLocation → Prop} {bound : δ → ProgramId → Prop} {c : ProgramCache}
  {first d : Observed δ} {state : GpuState} {commands : List Command}

theorem Follows.submit (hdevice : BindsSteadily alive knows bound) {command : Command}
    (hspares : command.SparesPrograms) (halive : ∀ id, alive first.device id → alive d.device id)
    (hd : Follows alive bound first d state) :
    Follows alive bound first (Device.submit d command) (state.after [command]) := by
  intro id hid
  by_cases huse : command.isUse
  · cases command with
    | useProgram used =>
      obtain rfl : used = id := Binding.program.inj (Option.some_inj.mp hid)
      exact ⟨rfl, fun hlive ↦ hdevice.observed.useProgram _ _ (halive _ hlive)⟩
    | _ => cases huse
  · have hquiet : command.isUse = false := Bool.eq_false_iff.mpr huse
    have hsame : state .program = some (.program id) := by
      cases command with
      | useProgram _ => exact absurd rfl huse
      | _ => exact hid
    have hne : command ≠ .deleteProgram id := by
      rintro rfl
      exact hspares
    obtain ⟨hused, hbound⟩ := hd id hsame
    exact ⟨(lastUsed_cons_of_not_use hquiet _ _).trans hused, fun hlive ↦
      hdevice.observed.submit _ command id hquiet hne (hbound hlive)⟩

theorem ProgramCache.TypedPass.of_append {rest : List Command}
    (htyped : c.TypedPass (commands ++ rest)) : c.TypedPass commands :=
  fun before location value after heq ↦ htyped before location value (after ++ rest)
    (by rw [heq, List.append_assoc, List.cons_append])

namespace Uploading

/-- Commands that delete nothing leave programs and places. -/
theorem lasting_submitAll (hdevice : BindsSteadily alive knows bound)
    (hspares : ∀ c ∈ commands, c.SparesPrograms) (d : Observed δ) :
    (∀ id, alive d.device id → alive (Device.submitAll d commands).device id) ∧
      ∀ l, knows d.device l → knows (Device.submitAll d commands).device l := by
  refine ⟨hdevice.observed.keepsPrograms.submitAll hspares d, fun l ↦
    (hdevice.observed.lasts l).submitAll fun command hcommand heq ↦ ?_⟩
  have hspared := hspares command hcommand
  rw [heq] at hspared
  exact hspared

/-- Commands that set the uniforms of the programs in use, and that delete none. -/
theorem submitAll (hdevice : BindsSteadily alive knows bound)
    (hspares : ∀ c ∈ commands, c.SparesPrograms) (htyped : c.TypedPass commands)
    (hd : Uploading alive knows bound c d) :
    Uploading alive knows bound c (Device.submitAll d commands) := by
  obtain ⟨uses, haccounts⟩ := hd.accounts
  obtain ⟨halive, hknows⟩ := lasting_submitAll hdevice hspares d
  refine hd.of_lasting halive hknows ?_
  suffices hboth : Uploaded (fun device l ↦
      alive device l.program ∧ knows device l ∧ bound device l.program)
        (Device.submitAll d commands).told ∧
      Follows alive bound d (Device.submitAll d commands)
        (GpuState.empty.after commands) from hboth.1
  clear halive hknows
  induction commands using List.reverseRecOn with
  | nil => exact ⟨hd.uploaded, nofun⟩
  | append_singleton commands command ih =>
    have hbefore : ∀ c ∈ commands, c.SparesPrograms := fun c hc ↦
      hspares c (List.mem_append_left _ hc)
    obtain ⟨huploaded, hfollows⟩ := ih hbefore htyped.of_append
    obtain ⟨halive, hknows⟩ := lasting_submitAll hdevice hbefore d
    rw [Device.submitAll_concat, GpuState.after_append]
    refine ⟨huploaded.cons ?_, hfollows.submit hdevice
      (hspares command (List.mem_append_right _ (List.mem_singleton_self _))) halive⟩
    rintro l value rfl
    obtain ⟨h, e, name, _, he, huse, hl, _⟩ := htyped commands l value [] rfl
    obtain ⟨hprogram, hl⟩ := hd.placed h.index e (ProgramCache.entry?_eq_some_iff.mp he).2 name l hl
    obtain ⟨hused, hbound⟩ := hfollows _ huse
    have hlive := haccounts.alive h e he
    rw [hprogram]
    exact ⟨hused, (hdevice.steadyAlive _).ready (halive _ hlive),
      (hdevice.steadyKnows l).ready (hknows l hl), (hdevice.steadyBound _).ready (hbound hlive)⟩

end Uploading

end Frame

namespace Renderer

/-- A whole frame sets every uniform for the program in use. -/
theorem typedPass_frameIn {δ : Type} [Device δ] {r : Renderer δ} (hc : r.cache.AllBuilt δ)
    (order : List DrawableId) : r.cache.TypedPass (r.frameIn order).1 := by
  refine GpuState.SetsAll.toTypedPass ?_
  rw [frameIn_eq, preludeIn]
  refine GpuState.setsAll_append.mpr ⟨GpuState.setsAll_append.mpr
    ⟨r.shadows.render_setsTyped hc _ _, GpuState.setsAll_of_sets_nothing ?_⟩,
      DrawState.drawAll_setsTyped _ _ hc (r.cache.inUse_none _)⟩
  simp

section Device

variable {δ : Type} [Adjustable δ] [Device δ] {alive : δ → ProgramId → Prop}
  {knows : δ → UniformLocation → Prop} {bound : δ → ProgramId → Prop}

/-- No step of an operation loses an upload. -/
theorem uploading_steps (hdevice : BindsSteadily alive knows bound) :
    KeptBySteps (Uploading alive knows bound) where
  resources := Uploading.resources hdevice
  acquire hacquire hd := hd.acquire hdevice hacquire
  release hrelease hd := hd.release hdevice hrelease
  frame r order hd := by
    obtain ⟨_, haccounts⟩ := hd.accounts
    exact hd.submitAll hdevice
      (fun c hc ↦ (sparesObjects_frameIn r order c hc).sparesPrograms)
      (typedPass_frameIn haccounts.allBuilt order)

theorem Reached.uploading (hdevice : BindsSteadily alive knows bound) {device : δ}
    {turns : List (Turn δ)} {config : RendererConfig} {ops : List Operation}
    {r : Renderer (Observed δ)} (hreached : Reached (.start device turns) config ops r) :
    Uploading alive knows bound r.cache r.device :=
  hreached.kept (uploading_steps hdevice) (.new _ _ _)

/-- Taking the renderer down deletes only. -/
theorem Reached.uploaded_destroyIn (hdevice : BindsSteadily alive knows bound) {device : δ}
    {turns : List (Turn δ)} {config : RendererConfig} {ops : List Operation}
    {r : Renderer (Observed δ)} (hreached : Reached (.start device turns) config ops r)
    (order : List DrawableId) :
    Uploaded (fun device l ↦ alive device l.program ∧ knows device l ∧ bound device l.program)
      (r.destroyIn order).told := by
  have hremoved := (uploading_steps hdevice).removeAll order (hreached.uploading hdevice)
  refine (hremoved.uploaded.submitAll_of_sets_nothing fun c hc ↦ ?_).submitAll_of_sets_nothing
    fun c hc ↦ ?_
  · obtain ⟨_, _, rfl⟩ := List.mem_map.mp hc
    exact nofun
  · obtain ⟨m, _, hm⟩ := List.mem_flatMap.mp hc
    have hdeletes := m.target.deletesResource_destroy c hm
    rintro l value rfl
    exact hdeletes

end Device

end Renderer

end SceneRenderer
