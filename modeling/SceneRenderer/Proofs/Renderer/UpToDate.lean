import SceneRenderer.Proofs.Renderer.MainPass

/-!
Programs after compiling. Whatever happened before, and however many programs failed to build on the
way, compiling leaves every drawable with the programs of its features in the scene as it is; where
a program could not be built, the drawable remembers its key instead.

Only marked drawables are classified again, so this rests on `Renderer.Consistent.current`: a
drawable that no mark was put on since it was last compiled still has the features it had then. The
main statement is `Renderer.reached_upToDate`.
-/

set_option autoImplicit false
set_option relaxedAutoImplicit false

namespace SceneRenderer

open Shader ProgramCache

namespace Renderer

variable {δ : Type}

/-- A depth key is the one of the features. -/
theorem eq_of_depthKey? {r : Renderer δ} {d : Drawable} {k : ProgramKey}
    (hkey : r.depthKey? d = some k) : k = .shadowDepth (.ofFeatures (r.featuresOf d)) := by
  unfold depthKey? at hkey
  split at hkey
  · exact (Option.some.inj hkey).symm
  · cases hkey

/-- The scene and the drawables are the same; their programs may differ. -/
structure SameScene (r r' : Renderer δ) : Prop where
  scene : r'.scene = r.scene
  config : r'.config = r.config
  drawables : ∀ id, (r'.drawables.get? id).map (·.drawable) = (r.drawables.get? id).map (·.drawable)

namespace SameScene

variable {r r' : Renderer δ}

theorem drawKey_eq (hr : SameScene r r') (d : Drawable) :
    r'.drawKey d = r.drawKey d := by
  rw [drawKey, drawKey, featuresOf, featuresOf, sceneFlags, sceneFlags, hr.scene, hr.config]

theorem depthKey?_eq (hr : SameScene r r') (d : Drawable) :
    r'.depthKey? d = r.depthKey? d := by
  rw [depthKey?, depthKey?, featuresOf, featuresOf, sceneFlags, sceneFlags, hr.scene, hr.config]

end SameScene

variable [Device δ] {alive : δ → ProgramId → Prop}
  {r compiled : Renderer δ} {visits : List DrawableId} {failures : List CompileFailure}

theorem sameScene_compileDrawable {id : DrawableId}
    (hcompile : r.compileDrawable id = .ok (failures, compiled)) : SameScene r compiled := by
  rcases compileDrawable_ok hcompile with ⟨_, rfl⟩ | ⟨s, draw, depth, hs, _, _, rfl⟩
  · exact ⟨rfl, rfl, fun _ ↦ rfl⟩
  · refine ⟨rfl, rfl, fun id' ↦ ?_⟩
    show ((r.drawables.insert id _).get? id').map _ = _
    rw [Registry.get?_insert]
    split
    · rename_i hid
      rw [hid, hs]
      rfl
    · rfl

/-- Compiling changes programs only. -/
theorem sameScene_compileIn (hcompile : r.compileIn visits = .ok (failures, compiled)) :
    SameScene r compiled := by
  induction visits generalizing r failures with
  | nil =>
    cases hcompile
    exact ⟨rfl, rfl, fun _ ↦ rfl⟩
  | cons id rest ih =>
    obtain ⟨now, middle, later, hnow, hlater⟩ := compileIn_cons hcompile
    have hfirst := sameScene_compileDrawable hnow
    have hothers := ih hlater
    exact ⟨hothers.scene.trans hfirst.scene, hothers.config.trans hfirst.config,
      fun id' ↦ (hothers.drawables id').trans (hfirst.drawables id')⟩

/-- Compiling adds no drawable and takes none out. -/
theorem keys_compileIn (hcompile : r.compileIn visits = .ok (failures, compiled)) :
    compiled.drawables.keys = r.drawables.keys := by
  refine compileIn_keeps (·.drawables.keys) (fun r r' id failures hnow ↦ ?_) hcompile
  rcases compileDrawable_ok hnow with ⟨_, rfl⟩ | ⟨s, draw, depth, hs, _, _, rfl⟩
  · rfl
  · exact Registry.keys_insert (Registry.mem_keys_of_get? hs) _

theorem Consistent.upToDate (hdevice : KeepsPrograms alive) (hr : r.Consistent alive)
    (hvisits : visits.Perm r.drawables.keys)
    (hcompile : r.compileIn visits = .ok (failures, compiled)) {id : DrawableId}
    {s : DrawableState} (hs : compiled.drawables.get? id = some s) : compiled.UpToDate s :=
  (hr.compileIn hdevice hcompile).current id s hs (clean_compileIn hvisits hcompile hs)

/-- Compiling has a result, unless the filter of shadow maps is too wide or every identity has a
drawable, too many for the uses of a program to be counted. Whatever led to the renderer, the slots
of every drawable then stand for the keys of its features, in a scene that is still the same. -/
theorem reached_upToDate (hdevice : KeepsPrograms alive) {device : δ} {config : RendererConfig}
    {ops : List Operation} (hreached : Reached device config ops r)
    (hvisits : visits.Perm r.drawables.keys) :
    (r.config.shaderOptions.kernelRadius ≤ maxKernelRadius → r.drawables.size < UInt32.size →
      ∃ failures compiled, r.compileIn visits = .ok (failures, compiled)) ∧
    ∀ failures compiled, r.compileIn visits = .ok (failures, compiled) →
      SameScene r compiled ∧
        ∀ id s, compiled.drawables.get? id = some s → compiled.UpToDate s := by
  have hr := hreached.consistent hdevice
  constructor
  · intro hradius hsize
    exact hr.exists_compileIn hdevice hradius hsize visits
  · intro failures compiled hcompile
    exact ⟨sameScene_compileIn hcompile, fun id s hs ↦ hr.upToDate hdevice hvisits hcompile hs⟩

theorem reached_upToDate_twins :
    KeepsPrograms Recorder.Alive ∧ ∃ r compiled : Renderer Recorder, ∃ failures,
      Reached .standard .standard [.addDrawable (twin ⟨2⟩), .addDrawable (twin ⟨1⟩)] r ∧
        [⟨1⟩, ⟨2⟩].Perm r.drawables.keys ∧
        r.compileIn [⟨1⟩, ⟨2⟩] = .ok (failures, compiled) ∧
        SameScene r compiled ∧
          ∀ id s, compiled.drawables.get? id = some s → compiled.UpToDate s := by
  obtain ⟨r, compiled, failures, b, hreached, _, hpaired, hcompile, _⟩ := exists_twins
  obtain ⟨_, hcompiled⟩ := reached_upToDate Recorder.keepsPrograms hreached hpaired.visits
  exact ⟨Recorder.keepsPrograms, r, compiled, failures, hreached, hpaired.visits, hcompile,
    hcompiled failures compiled hcompile⟩

end Renderer

end SceneRenderer
