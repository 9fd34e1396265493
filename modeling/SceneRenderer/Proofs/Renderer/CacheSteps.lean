import SceneRenderer.Proofs.Device.DeviceCalls
import SceneRenderer.Proofs.Renderer.Reachable

/-!
What operations do to the program cache and to the device. Programs are acquired and released,
frames are drawn with the cache as it is, and all else that is asked of the device has to do with
buffers, textures and render targets.

`KeptBySteps` says that a property survives each of these steps. It then survives every operation
(`KeptBySteps.perform`) and holds of every renderer that can be reached (`Renderer.Reached.kept`).
-/

set_option autoImplicit false
set_option relaxedAutoImplicit false

namespace SceneRenderer

open Shader

variable {δ : Type} [Device δ]

/-- A property of a cache and a device that no step of an operation ends. -/
structure KeptBySteps (p : ProgramCache → δ → Prop) : Prop where
  resources : ∀ cache, KeptByResources (p cache)
  acquire : ∀ {cache cache' : ProgramCache} {device device' : δ} {k : ProgramKey}
    {result : Except ProgramError ProgramHandle},
    cache.acquire device k = .ok (result, cache', device') → p cache device → p cache' device'
  release :
    ∀ {cache cache' : ProgramCache} {device : δ} {h : ProgramHandle} {commands : List Command},
    cache.release h = .ok (commands, cache') → p cache device →
      p cache' (Device.submitAll device commands)
  frame : ∀ (r : Renderer δ) (order : List DrawableId), p r.cache r.device →
    p r.cache (Device.submitAll r.device (r.frameIn order).1)

/-- What every call keeps, every step keeps. -/
theorem KeptByCalls.steps {p : δ → Prop} (hp : KeptByCalls p) :
    KeptBySteps fun _ device ↦ p device where
  resources _ := hp.resources
  acquire hacquire := hp.acquire hacquire
  release _ := hp.submitAll _
  frame _ _ := hp.submitAll _

namespace KeptBySteps

variable {p : ProgramCache → δ → Prop} {r r' : Renderer δ}

theorem releaseHandle (hp : KeptBySteps p) {cache : ProgramCache} {device : δ}
    (holder : Option ProgramHandle) (hkept : p cache device) :
    p (Renderer.releaseHandle cache device holder).2.1
      (Renderer.releaseHandle cache device holder).2.2 := by
  unfold Renderer.releaseHandle
  split
  · exact hkept
  · split
    · rename_i hrelease
      exact hp.release hrelease hkept
    · exact hkept

theorem retarget (hp : KeptBySteps p) {cache : ProgramCache} {device : δ} {slot : ProgramSlot}
    {key : Option ProgramKey} {t : Renderer.Retargeted δ}
    (hretarget : Renderer.retarget cache device slot key = .ok t) (hkept : p cache device) :
    p t.cache t.device := by
  cases key with
  | none =>
    rw [← Except.ok.inj hretarget]
    exact hp.releaseHandle slot.handle hkept
  | some k =>
    simp only [Renderer.retarget] at hretarget
    split at hretarget
    · rwa [← Except.ok.inj hretarget]
    · rcases hacquire : cache.acquire device k with fault | ⟨result, cache', device'⟩
      · rw [hacquire] at hretarget
        cases hretarget
      · have hreleased := hp.releaseHandle slot.handle (hp.acquire hacquire hkept)
        rw [hacquire] at hretarget
        cases result with
        | error e => rwa [← Except.ok.inj hretarget]
        | ok h => rwa [← Except.ok.inj hretarget]

theorem compileIn (hp : KeptBySteps p) {visits : List DrawableId} {failures : List CompileFailure}
    (hcompile : r.compileIn visits = .ok (failures, r')) (hkept : p r.cache r.device) :
    p r'.cache r'.device := by
  induction visits generalizing r failures with
  | nil =>
    cases hcompile
    exact hkept
  | cons id rest ih =>
    obtain ⟨now, middle, later, hnow, hlater⟩ := Renderer.compileIn_cons hcompile
    refine ih hlater ?_
    rcases Renderer.compileDrawable_ok hnow with
      ⟨_, rfl⟩ | ⟨s, draw, depth, _, hdraw, hdepth, rfl⟩
    · exact hkept
    · exact hp.retarget hdepth (hp.retarget hdraw hkept)

theorem renderIn (hp : KeptBySteps p) {visits order : List DrawableId} {report : FrameReport}
    (hrender : r.renderIn visits order = .ok (report, r')) (hkept : p r.cache r.device) :
    p r'.cache r'.device := by
  obtain ⟨failures, compiled, hcompile, rfl⟩ := Renderer.renderIn_ok hrender
  exact hp.frame compiled order (hp.compileIn hcompile hkept)

theorem releaseGeometry (hp : KeptBySteps p) (id : GeometryId) (hkept : p r.cache r.device) :
    p (r.releaseGeometry id).cache (r.releaseGeometry id).device := by
  unfold Renderer.releaseGeometry
  split
  · exact hkept
  · rename_i entry _
    split
    · refine (hp.resources r.cache).submitAll (fun c hc ↦ ?_) hkept
      obtain ⟨buffers, _, hbuffers⟩ := List.mem_flatMap.mp hc
      exact buffers.deletesResource_destroy c hbuffers
    · exact hkept

theorem retainGeometry (hp : KeptBySteps p) (g : Geometry) (hkept : p r.cache r.device) :
    p (r.retainGeometry g).2.cache (r.retainGeometry g).2.device := by
  have hupload := (hp.resources r.cache).upload g hkept
  unfold Renderer.retainGeometry
  split
  · exact hkept
  · dsimp only
    split
    all_goals
      rename_i heq
      rwa [heq] at hupload

theorem removeDrawable (hp : KeptBySteps p) (id : DrawableId) (hkept : p r.cache r.device) :
    p (r.removeDrawable id).2.cache (r.removeDrawable id).2.device := by
  unfold Renderer.removeDrawable
  split
  · exact hkept
  · exact hp.releaseGeometry _ (hp.releaseHandle _ (hp.releaseHandle _ hkept))

theorem addDrawable (hp : KeptBySteps p) (d : Drawable) (hkept : p r.cache r.device) :
    p (r.addDrawable d).2.cache (r.addDrawable d).2.device := by
  have hretain := hp.retainGeometry d.geometry (hp.removeDrawable d.id hkept)
  unfold Renderer.addDrawable
  dsimp only
  split
  all_goals
    rename_i heq
    rwa [heq] at hretain

omit [Device δ] in
theorem update (id : DrawableId) (f : Drawable → Drawable) (hkept : p r.cache r.device) :
    p (r.update id f).2.cache (r.update id f).2.device := by
  unfold Renderer.update
  split <;> exact hkept

theorem setGeometry (hp : KeptBySteps p) (id : DrawableId) (g : Geometry)
    (hkept : p r.cache r.device) :
    p (r.setGeometry id g).2.cache (r.setGeometry id g).2.device := by
  have hretain := hp.retainGeometry g hkept
  unfold Renderer.setGeometry
  split
  · exact hkept
  · split
    · rename_i heq
      rwa [heq] at hretain
    · rename_i heq
      rw [heq] at hretain
      exact update _ _ (hp.releaseGeometry _ hretain)

theorem setLights (hp : KeptBySteps p) (lights : List Light) (hkept : p r.cache r.device) :
    p (r.setLights lights).2.cache (r.setLights lights).2.device :=
  (hp.resources r.cache).sync r.shadows lights hkept

theorem perform (hp : KeptBySteps p) {op : Operation} {outcome : Outcome}
    (hperform : r.perform op = .ok (outcome, r')) (hkept : p r.cache r.device) :
    p r'.cache r'.device := by
  have hpure {answer : Outcome × Renderer δ} (hanswer : answer = (outcome, r')) : r' = answer.2 :=
    (congrArg Prod.snd hanswer).symm
  cases op with
  | addDrawable d =>
    rw [hpure (Except.ok.inj hperform), Renderer.outcomeOf_snd]
    exact hp.addDrawable d hkept
  | removeDrawable id =>
    rw [hpure (Except.ok.inj hperform)]
    exact hp.removeDrawable id hkept
  | setGeometry id g =>
    rw [hpure (Except.ok.inj hperform), Renderer.outcomeOf_snd]
    exact hp.setGeometry id g hkept
  | setMaterial id material =>
    rw [hpure (Except.ok.inj hperform)]
    exact update id (fun d ↦ { d with material }) hkept
  | setModes id modes =>
    rw [hpure (Except.ok.inj hperform)]
    exact update id (fun d ↦ { d with modes }) hkept
  | setLights lights =>
    rw [hpure (Except.ok.inj hperform), Renderer.outcomeOf_snd]
    exact hp.setLights lights hkept
  | setClips _ | setEnvironment _ | setTransform _ _ | setCamera _ | setViewport _ _
  | setClearColor _ =>
    rw [hpure (Except.ok.inj hperform)]
    exact hkept
  | compile =>
    obtain ⟨⟨failures, compiled⟩, hcompile, hanswer⟩ := Renderer.exists_of_map_eq_ok hperform
    rw [hpure hanswer]
    exact hp.compileIn hcompile hkept
  | render =>
    obtain ⟨⟨report, rendered⟩, hrender, hanswer⟩ := Renderer.exists_of_map_eq_ok hperform
    rw [hpure hanswer]
    exact hp.renderIn hrender hkept

theorem removeAll (hp : KeptBySteps p) (order : List DrawableId) (hkept : p r.cache r.device) :
    p (r.removeAll order).cache (r.removeAll order).device :=
  List.foldlRecOn (motive := fun r : Renderer δ ↦ p r.cache r.device) order _ hkept
    fun _ hr id _ ↦ hp.removeDrawable id hr

end KeptBySteps

/-- What holds of a new cache and is kept by steps holds of every renderer that can be reached. -/
theorem Renderer.Reached.kept {p : ProgramCache → δ → Prop} (hp : KeptBySteps p) {device : δ}
    {config : RendererConfig} {ops : List Operation} {r : Renderer δ}
    (hreached : Renderer.Reached device config ops r)
    (hstart : p (.new config.shaderOptions) device) : p r.cache r.device := by
  induction hreached with
  | new => exact hstart
  | perform _ op hperform ih => exact hp.perform hperform ih
  | compile _ _ hcompile ih => exact hp.compileIn hcompile ih
  | render _ _ _ hrender ih => exact hp.renderIn hrender ih

end SceneRenderer
