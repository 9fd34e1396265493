import SceneRenderer.Device.Recorder
import SceneRenderer.Proofs.Program.UseCounts

/-!
The program cache refines a map of use counts. After any calls, what the next call answers, what it
asks of the device and which handles it touches follow from the trace alone.

`CacheRun.step_tracks` is the step lemma and `CacheRun.run_tracks` the run lemma; the main statement
is `CacheRun.run_refines`.
-/

set_option autoImplicit false
set_option relaxedAutoImplicit false

namespace SceneRenderer

open Shader

/-! ### Metered devices -/

/-- A device that keeps a record of the programs it was asked to create. -/
structure Metered (δ : Type) where
  device : δ
  /-- The texts of both stages, latest first. -/
  created : List (String × String)

instance {δ : Type} [Device δ] : Device (Metered δ) where
  maxTextureUnits m := Device.maxTextureUnits m.device
  surfaceSize m := Device.surfaceSize m.device
  createProgram m vertex fragment attributes :=
    let (result, device) := Device.createProgram m.device vertex fragment attributes
    (result, ⟨device, (vertex, fragment) :: m.created⟩)
  uniformLocation m program name :=
    let (location, device) := Device.uniformLocation m.device program name
    (location, { m with device })
  attributeLocation m program name :=
    let (location, device) := Device.attributeLocation m.device program name
    (location, { m with device })
  createBuffer m target data :=
    let (result, device) := Device.createBuffer m.device target data
    (result, { m with device })
  createTexture m width height pixels :=
    let (result, device) := Device.createTexture m.device width height pixels
    (result, { m with device })
  createRenderTarget m width height color :=
    let (result, device) := Device.createRenderTarget m.device width height color
    (result, { m with device })
  submit m command := { m with device := Device.submit m.device command }

namespace LinkedProgram

variable {δ κ ν : Type} [Device δ]

/-- The program that is linked is the one that the device created. -/
theorem link_id (device : δ) (source : ProgramSource) :
    (link device source).1.map (·.id) =
      (Device.createProgram device (source.stageText .vertex) (source.stageText .fragment)
        attributeSlots).1 := by
  unfold link
  rcases Device.createProgram device (source.stageText .vertex) (source.stageText .fragment)
    attributeSlots with ⟨e | id, device'⟩
  · rfl
  · rfl

omit [Device δ] in
theorem created_askAll [DecidableEq κ] {ask : Metered δ → κ → Option ν × Metered δ}
    (hask : ∀ device k, (ask device k).2.created = device.created) (device : Metered δ)
    (keys : List κ) : (askAll ask device keys).2.created = device.created := by
  unfold askAll
  generalize (Registry.empty : Registry κ ν) = answers
  induction keys generalizing answers device with
  | nil => rfl
  | cons k rest ih =>
    rw [List.foldl_cons]
    have hk := hask device k
    rcases hanswer : ask device k with ⟨_ | v, device'⟩
    · rw [hanswer] at hk
      exact (ih device' answers).trans hk
    · rw [hanswer] at hk
      exact (ih device' (answers.insert k v)).trans hk

/-- Linking creates one program. -/
theorem created_link (device : Metered δ) (source : ProgramSource) :
    (link device source).2.created =
      (source.stageText .vertex, source.stageText .fragment) :: device.created := by
  unfold link
  rcases hcreate : Device.createProgram device (source.stageText .vertex)
    (source.stageText .fragment) attributeSlots with ⟨e | id, device'⟩
  · exact (congrArg (fun r ↦ r.2.created) hcreate).symm
  · refine ((created_askAll ?_ _ _).trans (created_askAll ?_ device' _)).trans
      (congrArg (fun r ↦ r.2.created) hcreate).symm
    · exact fun _ _ ↦ rfl
    · exact fun _ _ ↦ rfl

end LinkedProgram

/-! ### Runs -/

inductive CacheCall
  | acquireWith (key : ProgramKey)
    (build : ShaderOptions → ProgramKey → Except Fault ProgramSource)
  | release (handle : ProgramHandle)
  | clear

/-- A cache on a device, with what happened to it. -/
structure CacheRun (δ : Type) where
  cache : ProgramCache
  device : δ
  trace : CacheTrace

namespace CacheRun

variable {δ : Type}

def start (options : ShaderOptions) (device : δ) : CacheRun δ := ⟨.new options, device, []⟩

/-! ### What a call can do -/

/-- The effects of a call on the cache. -/
inductive Step (s : CacheRun δ) : CacheRun δ → Prop
  | hit {k : ProgramKey} {h : ProgramHandle} {e : CacheEntry} {uses : UInt32}
    (hfind : s.cache.find? k = some h) (he : s.cache.entry? h = some e)
    (hadd : uses.toNat = e.useCount.toNat + 1) :
    Step s ⟨s.cache.hit h uses, s.device, .acquired k h :: s.trace⟩
  | store {e : CacheEntry} (device : δ) (hfind : s.cache.find? e.key = none)
    (huse : e.useCount.toNat = 1) :
    Step s ⟨(s.cache.store e).2, device, .acquired e.key (s.cache.store e).1 :: s.trace⟩
  | quiet {cache : ProgramCache} (device : δ) {event : CacheEvent}
    (hcache : cache = s.cache ∨ cache = s.cache.fail)
    (hevent : (∃ k, event = .failed k) ∨ ∃ h, event = .rejected h) :
    Step s ⟨cache, device, event :: s.trace⟩
  | release {h : ProgramHandle} {commands : List Command} {cache : ProgramCache} (device : δ)
    (hrelease : s.cache.release h = .ok (commands, cache)) :
    Step s ⟨cache, device, .released h :: s.trace⟩
  | clear (device : δ) : Step s ⟨s.cache.clear.2, device, .cleared :: s.trace⟩

/-- A cache keeps the options it was made with. -/
theorem Step.options {s s' : CacheRun δ} (hstep : Step s s') :
    s'.cache.options = s.cache.options := by
  cases hstep with
  | hit hfind he hadd => rfl
  | @store e device hfind huse => exact s.cache.options_store e
  | quiet device hcache hevent => rcases hcache with rfl | rfl <;> rfl
  | release device hrelease => exact ProgramCache.options_release hrelease
  | clear device => rfl

/-- A handle that stays in use keeps its program. -/
theorem Step.program? {s s' : CacheRun δ} (hstep : Step s s') (htracks : s.cache.Tracks s.trace)
    (hlimits : s.trace.WithinLimits) {h : ProgramHandle} {p : LinkedProgram}
    (hprogram : s.cache.program? h = some p) (huses : 0 < s'.trace.uses h) :
    s'.cache.program? h = some p := by
  obtain ⟨e, he, rfl⟩ := Option.map_eq_some_iff.mp hprogram
  cases hstep with
  | @hit k h' e' uses hfind he' hadd =>
    show Option.map _ ( ProgramCache.entry? (s.cache.hit h' uses) h) = _
    rw [ProgramCache.entry?_hit h he']
    by_cases heq : h = h'
    · subst heq
      rw [he] at he'
      cases he'
      rw [if_pos rfl]
      rfl
    · rw [if_neg heq, he]
      rfl
  | @store e' device hfind huse =>
    have hroom := htracks.hasRoom hlimits
    have hne : h ≠ (s.cache.store e').1 := by
      rintro rfl
      rw [ProgramCache.entry?_store_self htracks.sound hroom] at he
      exact absurd he nofun
    show Option.map _ ( ProgramCache.entry? (s.cache.store e').2 h) = _
    rw [ProgramCache.entry?_store h htracks.sound hroom, if_neg hne, he]
    rfl
  | quiet device hcache hevent =>
    rcases hcache with rfl | rfl
    · exact hprogram
    · exact hprogram
  | @release h' commands cache device hrelease =>
    obtain ⟨e', he', _, _, hentries⟩ := ProgramCache.release_ok htracks.sound hrelease
    show (cache.entry? h).map _ = _
    rw [hentries]
    by_cases heq : h = h'
    · subst heq
      rw [he] at he'
      cases he'
      have hmore : e.useCount.toNat ≠ 1 := by
        intro hlast
        simp [CacheTrace.uses, (htracks.live h e he).1, hlast] at huses
      rw [if_pos rfl, if_neg hmore]
      rfl
    · rw [if_neg heq, he]
      rfl
  | clear device => exact absurd huses (Nat.lt_irrefl 0)

/-- A call that gives no handle and takes none leaves all handles as they are. -/
theorem Step.entry?_of_quiet {s s' : CacheRun δ} (hstep : Step s s') {event : CacheEvent}
    (hevent : (∃ k, event = .failed k) ∨ ∃ h, event = .rejected h)
    (htrace : s'.trace = event :: s.trace) (h : ProgramHandle) :
    s'.cache.entry? h = s.cache.entry? h := by
  cases hstep with
  | quiet device hcache _ =>
    rcases hcache with rfl | rfl
    · rfl
    · rfl
  | _ =>
    rcases hevent with ⟨k, rfl⟩ | ⟨h', rfl⟩
    · exact absurd (List.cons.inj htrace).1 nofun
    · exact absurd (List.cons.inj htrace).1 nofun

section Calls

variable [Device δ]

/-- One call. A fault comes before the cache changes. -/
def step (s : CacheRun δ) : CacheCall → CacheRun δ
  | .acquireWith key build =>
    match s.cache.acquireWith s.device key build with
    | .ok (.ok handle, cache, device) => ⟨cache, device, .acquired key handle :: s.trace⟩
    | .ok (.error _, cache, device) => ⟨cache, device, .failed key :: s.trace⟩
    | .error _ => { s with trace := .failed key :: s.trace }
  | .release handle =>
    match s.cache.release handle with
    | .ok (commands, cache) =>
      ⟨cache, Device.submitAll s.device commands, .released handle :: s.trace⟩
    | .error _ => { s with trace := .rejected handle :: s.trace }
  | .clear =>
    let (commands, cache) := s.cache.clear
    ⟨cache, Device.submitAll s.device commands, .cleared :: s.trace⟩

theorem step_step (s : CacheRun δ) (call : CacheCall) : Step s (s.step call) := by
  cases call with
  | acquireWith k build =>
    rcases hacquire : s.cache.acquireWith s.device k build with fault | ⟨result, cache, device⟩
    · simp only [step, hacquire]
      exact .quiet s.device (.inl rfl) (.inl ⟨k, rfl⟩)
    · rcases ProgramCache.acquireWith_ok hacquire with
        ⟨h, e, uses, hfind, he, hadd, rfl, rfl, rfl⟩ |
          ⟨hfind, source, _, ⟨e, _, rfl, rfl⟩ | ⟨program, _, rfl, rfl⟩⟩
      · simp only [step, hacquire]
        exact .hit hfind he hadd
      · simp only [step, hacquire]
        exact .quiet device (.inr rfl) (.inl ⟨k, rfl⟩)
      · simp only [step, hacquire]
        exact .store (e := ⟨k, source, program, 1⟩) device hfind rfl
  | release h =>
    rcases hrelease : s.cache.release h with e | ⟨commands, cache⟩
    · simp only [step, hrelease]
      exact .quiet s.device (.inl rfl) (.inr ⟨h, rfl⟩)
    · simp only [step, hrelease]
      exact .release _ hrelease
  | clear => exact .clear _

theorem step_tracks {s : CacheRun δ} (htracks : s.cache.Tracks s.trace) (call : CacheCall)
    (hlimits : (s.step call).trace.WithinLimits) :
    (s.step call).cache.Tracks (s.step call).trace := by
  have hstep := step_step s call
  generalize s.step call = s' at hstep hlimits ⊢
  cases hstep with
  | hit hfind he hadd => exact htracks.hit hfind he hadd
  | store device hfind huse => exact htracks.store hlimits.tail hfind huse
  | quiet device hcache hevent => exact htracks.of_quiet hcache hevent
  | release device hrelease => exact htracks.release hrelease
  | clear device => exact htracks.clear

/-- Calls in a row. -/
def run (s : CacheRun δ) (calls : List CacheCall) : CacheRun δ := calls.foldl step s

theorem length_trace_run (s : CacheRun δ) (calls : List CacheCall) :
    (s.run calls).trace.length = s.trace.length + calls.length := by
  induction calls generalizing s with
  | nil => rfl
  | cons call rest ih =>
    have hstep : (s.step call).trace.length = s.trace.length + 1 := by
      have hstep := step_step s call
      generalize s.step call = s' at hstep
      cases hstep <;> rfl
    rw [run, List.foldl_cons, ← run, ih, hstep, List.length_cons]
    omega

/-- The trace only grows. -/
theorem withinLimits_of_run {s : CacheRun δ} {calls : List CacheCall}
    (hlimits : (s.run calls).trace.WithinLimits) : s.trace.WithinLimits := by
  induction calls generalizing s with
  | nil => exact hlimits
  | cons call rest ih =>
    have hnext : (s.step call).trace.WithinLimits := ih hlimits
    have hstep := step_step s call
    generalize s.step call = s' at hstep hnext
    cases hstep <;> exact hnext.tail

theorem run_tracks {s : CacheRun δ} (htracks : s.cache.Tracks s.trace) {calls : List CacheCall}
    (hlimits : (s.run calls).trace.WithinLimits) :
    (s.run calls).cache.Tracks (s.run calls).trace := by
  induction calls generalizing s with
  | nil => exact htracks
  | cons call rest ih =>
    have hrest : ((s.step call).run rest).trace.WithinLimits := hlimits
    exact ih (step_tracks htracks call (withinLimits_of_run hrest)) hrest

theorem options_run (s : CacheRun δ) (calls : List CacheCall) :
    (s.run calls).cache.options = s.cache.options := by
  induction calls generalizing s with
  | nil => rfl
  | cons call rest ih => exact (ih (s.step call)).trans (step_step s call).options

end Calls

/-! ### The refinement -/

/-- What is known of the next call from the trace. -/
structure Refines [Device δ] (options : ShaderOptions) (s : CacheRun (Metered δ)) : Prop where
  /-- A key in use is shared: neither the builder nor the device is asked. The limits hold for this
  acquisition too. -/
  shared : ∀ k h build, .acquired k h ∈ s.trace → 0 < s.trace.uses h →
    CacheTrace.WithinLimits (.acquired k h :: s.trace) →
    ∃ cache, s.cache.acquireWith s.device k build = .ok (.ok h, cache, s.device)
  /-- The builder of a key out of use may fail; the device is not asked then. -/
  refused : ∀ k build fault, (∀ h, .acquired k h ∈ s.trace → s.trace.uses h = 0) →
    build options k = .error fault → s.cache.acquireWith s.device k build = .error fault
  /-- What is built for a key out of use is linked, with one program created. If it can be created
  it gets a handle that was never returned before. -/
  linked : ∀ k build source, (∀ h, .acquired k h ∈ s.trace → s.trace.uses h = 0) →
    build options k = .ok source →
    ∃ result cache device, s.cache.acquireWith s.device k build = .ok (result, cache, device) ∧
      device.created =
        (source.stageText .vertex, source.stageText .fragment) :: s.device.created ∧
      match (Device.createProgram s.device (source.stageText .vertex)
        (source.stageText .fragment) LinkedProgram.attributeSlots).1 with
      | .error e => result = .error e
      | .ok id => ∃ h p, result = .ok h ∧ (∀ k', .acquired k' h ∉ s.trace) ∧
          cache.program? h = some p ∧ p.id = id
  /-- A handle in use can be released, and the last use deletes its program. -/
  released : ∀ h, 0 < s.trace.uses h → ∃ cache p, s.cache.program? h = some p ∧
    s.cache.release h = .ok (if s.trace.uses h = 1 then [.deleteProgram p.id] else [], cache)
  /-- A handle out of use cannot be released. -/
  rejected : ∀ h, s.trace.uses h = 0 → ∃ e, s.cache.release h = .error e
  useCount : ∀ h, (s.cache.useCount? h).map UInt32.toNat =
    if s.trace.uses h = 0 then none else some (s.trace.uses h)
  /-- A handle keeps its program as long as it is in use. -/
  program : ∀ call h p, s.cache.program? h = some p → 0 < (s.step call).trace.uses h →
    (s.step call).cache.program? h = some p
  /-- A failed acquisition or a rejected release changes no handle. -/
  unharmed : ∀ call, ((∃ k, (s.step call).trace = .failed k :: s.trace) ∨
      ∃ h, (s.step call).trace = .rejected h :: s.trace) →
    ∀ h, (s.step call).cache.entry? h = s.cache.entry? h

variable [Device δ] {options : ShaderOptions} {s : CacheRun (Metered δ)}

theorem refines_linked (htracks : s.cache.Tracks s.trace) (hlimits : s.trace.WithinLimits)
    (hoptions : s.cache.options = options) {k : ProgramKey}
    {build : ShaderOptions → ProgramKey → Except Fault ProgramSource} {source : ProgramSource}
    (hunused : ∀ h, .acquired k h ∈ s.trace → s.trace.uses h = 0)
    (hsource : build options k = .ok source) :
    ∃ result cache device, s.cache.acquireWith s.device k build = .ok (result, cache, device) ∧
      device.created =
        (source.stageText .vertex, source.stageText .fragment) :: s.device.created ∧
      match (Device.createProgram s.device (source.stageText .vertex)
        (source.stageText .fragment) LinkedProgram.attributeSlots).1 with
      | .error e => result = .error e
      | .ok id => ∃ h p, result = .ok h ∧ (∀ k', .acquired k' h ∉ s.trace) ∧
          cache.program? h = some p ∧ p.id = id := by
  subst hoptions
  have hroom := htracks.hasRoom hlimits
  have hid := LinkedProgram.link_id s.device source
  have hcreated := LinkedProgram.created_link s.device source
  rw [ProgramCache.acquireWith_miss (htracks.find?_of_unused hunused) hsource, ← hid]
  rcases hlink : LinkedProgram.link s.device source with ⟨e | program, device⟩
  · rw [hlink] at hcreated
    exact ⟨_, _, _, rfl, hcreated, rfl⟩
  · rw [hlink] at hcreated
    refine ⟨_, _, _, rfl, hcreated, _, program, rfl, htracks.fresh hlimits _, ?_, rfl⟩
    rw [ProgramCache.program?, ProgramCache.entry?_store _ htracks.sound hroom, if_pos rfl]
    rfl

omit [Device δ] in
theorem refines_released (htracks : s.cache.Tracks s.trace) {h : ProgramHandle}
    (huses : 0 < s.trace.uses h) :
    ∃ cache p, s.cache.program? h = some p ∧
      s.cache.release h =
        .ok (if s.trace.uses h = 1 then [.deleteProgram p.id] else [], cache) := by
  obtain ⟨e, he, huse⟩ := htracks.entry?_of_uses huses
  obtain ⟨⟨commands, cache⟩, hrelease⟩ := ProgramCache.release_isOk_iff.mpr ⟨e, he⟩
  obtain ⟨e', he', _, rfl, _⟩ := ProgramCache.release_ok htracks.sound hrelease
  rw [he] at he'
  cases he'
  refine ⟨cache, e.program, ?_, ?_⟩
  · rw [ProgramCache.program?, he]
    rfl
  · rw [hrelease, huse]

theorem refines_of_tracks (htracks : s.cache.Tracks s.trace) (hlimits : s.trace.WithinLimits)
    (hoptions : s.cache.options = options) : Refines options s where
  shared k h build hacquired huses hnext := by
    obtain ⟨e, he, huse⟩ := htracks.entry?_of_uses huses
    have hroom : e.useCount.toNat + 1 < 2 ^ 32 := by
      have hone : CacheTrace.uses h (.acquired k h :: s.trace) = e.useCount.toNat + 1 := by
        simp [CacheTrace.uses, huse]
      rw [← hone]
      exact (CacheTrace.uses_le_outstanding h _).trans_lt (hnext.outstanding _ List.suffix_rfl)
    exact ⟨_, ProgramCache.acquireWith_hit (htracks.find?_of_uses hacquired huses) he
      (UInt32.toNat_ofNat_of_lt' hroom)⟩
  refused k build fault hunused hfault := by
    subst hoptions
    rw [ProgramCache.acquireWith, htracks.find?_of_unused hunused, hfault]
    rfl
  linked k build source hunused hsource := refines_linked htracks hlimits hoptions hunused hsource
  released h huses := refines_released htracks huses
  rejected h huses := by
    cases he : s.cache.entry? h with
    | none => exact ⟨_, by rw [ProgramCache.release_eq, he]⟩
    | some e =>
      have hpos := htracks.sound.useCount _ e (ProgramCache.entry?_eq_some_iff.mp he).2
      rw [← (htracks.live h e he).1, huses] at hpos
      exact absurd hpos (Nat.lt_irrefl 0)
  useCount := htracks.useCount?_eq
  program call h p hprogram huses :=
    (step_step s call).program? htracks hlimits hprogram huses
  unharmed call hevent := by
    rcases hevent with ⟨k, htrace⟩ | ⟨h, htrace⟩
    · exact (step_step s call).entry?_of_quiet (.inl ⟨k, rfl⟩) htrace
    · exact (step_step s call).entry?_of_quiet (.inr ⟨h, rfl⟩) htrace

/-- The cache refines its use counts after any calls, on any device. -/
theorem run_refines (options : ShaderOptions) (device : Metered δ) (calls : List CacheCall)
    (hlimits : ((start options device).run calls).trace.WithinLimits) :
    Refines options ((start options device).run calls) :=
  refines_of_tracks (run_tracks (ProgramCache.tracks_new options) hlimits) hlimits
    (options_run (start options device) calls)

/-- A program used twice, given back once too often and asked for again. -/
def reuseCalls : List CacheCall :=
  let build : ShaderOptions → ProgramKey → Except Fault ProgramSource := fun _ _ ↦ .ok ⟨[], [], 0⟩
  let key : ProgramKey := .shadowDepth ⟨false, .none, false, false⟩
  [.acquireWith key build, .acquireWith key build, .release ⟨0, 0⟩, .release ⟨0, 0⟩,
    .release ⟨0, 0⟩, .acquireWith key build]

theorem run_refines_reuseCalls :
    let s := (start .standard (⟨.standard, []⟩ : Metered Recorder)).run reuseCalls
    s.trace.head? = some (.acquired (.shadowDepth ⟨false, .none, false, false⟩) ⟨0, 1⟩) ∧
      s.trace.WithinLimits ∧ Refines .standard s := by
  intro s
  have hlimits : s.trace.WithinLimits := by
    refine CacheTrace.withinLimits_of_length_lt ?_
    rw [length_trace_run]
    decide
  refine ⟨rfl, hlimits, ?_⟩
  exact @run_refines Recorder _ .standard ⟨.standard, []⟩ reuseCalls hlimits

end CacheRun

end SceneRenderer
