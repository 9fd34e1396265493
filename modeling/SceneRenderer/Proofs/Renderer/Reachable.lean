import SceneRenderer.Proofs.Device.NumberedPrograms
import SceneRenderer.Proofs.Renderer.Frames
import SceneRenderer.Renderer.Render

/-!
Renderers that can be reached, and what is true of all of them. A step is an operation; compiling
and rendering may visit and collect the drawables in any order.

`Renderer.Consistent.perform` is the step lemma and `Renderer.Reached.consistent` the run lemma.
-/

set_option autoImplicit false
set_option relaxedAutoImplicit false

namespace SceneRenderer

open Shader ProgramCache

namespace Renderer

variable {δ : Type} [Device δ]

/-- A renderer that operations lead to, the latest first. -/
inductive Reached (device : δ) (config : RendererConfig) : List Operation → Renderer δ → Prop
  | new : Reached device config [] (.new device config)
  | perform {ops : List Operation} {r r' : Renderer δ} {outcome : Outcome}
    (hr : Reached device config ops r) (op : Operation)
    (hperform : r.perform op = .ok (outcome, r')) : Reached device config (op :: ops) r'
  | compile {ops : List Operation} {r r' : Renderer δ} {visits : List DrawableId}
    {failures : List CompileFailure} (hr : Reached device config ops r)
    (hvisits : visits.Perm r.drawables.keys) (hcompile : r.compileIn visits = .ok (failures, r')) :
    Reached device config (.compile :: ops) r'
  | render {ops : List Operation} {r r' : Renderer δ} {visits order : List DrawableId}
    {report : FrameReport} (hr : Reached device config ops r)
    (hvisits : visits.Perm r.drawables.keys) (horder : order.Perm r.drawables.keys)
    (hrender : r.renderIn visits order = .ok (report, r')) :
    Reached device config (.render :: ops) r'

variable {alive : δ → ProgramId → Prop} {r : Renderer δ}

omit [Device δ] in
theorem outcomeOf_snd {α : Type} (outcome : α → Outcome)
    (result : Except DeviceError α × Renderer δ) : (outcomeOf outcome result).2 = result.2 := by
  unfold outcomeOf
  split <;> rfl

omit [Device δ] in
/-- A result that was mapped comes from a result. -/
theorem exists_of_map_eq_ok {ε α β : Type} {answer : Except ε α} {f : α → β} {b : β}
    (hmap : answer.map f = .ok b) : ∃ a, answer = .ok a ∧ f a = b := by
  cases answer with
  | error e => exact absurd hmap nofun
  | ok a => exact ⟨a, rfl, Except.ok.inj hmap⟩

theorem Consistent.perform (hdevice : KeepsPrograms alive) (hr : r.Consistent alive)
    {op : Operation} {outcome : Outcome} {r' : Renderer δ}
    (hperform : r.perform op = .ok (outcome, r')) : r'.Consistent alive := by
  have hpure {answer : Outcome × Renderer δ} (hanswer : answer = (outcome, r')) : r' = answer.2 :=
    (congrArg Prod.snd hanswer).symm
  cases op with
  | addDrawable d =>
    rw [hpure (Except.ok.inj hperform), outcomeOf_snd]
    exact hr.addDrawable hdevice d
  | removeDrawable id =>
    rw [hpure (Except.ok.inj hperform)]
    exact (hr.removeDrawable hdevice id).1
  | setGeometry id g =>
    rw [hpure (Except.ok.inj hperform), outcomeOf_snd]
    exact hr.setGeometry hdevice id g
  | setMaterial id material =>
    rw [hpure (Except.ok.inj hperform)]
    exact hr.update id (fun d ↦ { d with material }) fun _ ↦ rfl
  | setModes id modes =>
    rw [hpure (Except.ok.inj hperform)]
    exact hr.update id (fun d ↦ { d with modes }) fun _ ↦ rfl
  | setTransform id transform =>
    rw [hpure (Except.ok.inj hperform)]
    exact hr.setTransform id transform
  | setCamera camera =>
    rw [hpure (Except.ok.inj hperform)]
    exact hr.setCamera camera
  | setLights lights =>
    rw [hpure (Except.ok.inj hperform), outcomeOf_snd]
    exact hr.setLights hdevice lights
  | setClips clips =>
    rw [hpure (Except.ok.inj hperform)]
    exact hr.markAll { r.scene with clips }
  | setEnvironment environment =>
    rw [hpure (Except.ok.inj hperform)]
    exact hr.markAll { r.scene with environment }
  | setViewport width height =>
    rw [hpure (Except.ok.inj hperform)]
    exact hr.setViewport width height
  | setClearColor color =>
    rw [hpure (Except.ok.inj hperform)]
    exact hr.setClearColor color
  | compile =>
    obtain ⟨⟨failures, compiled⟩, hcompile, hanswer⟩ := exists_of_map_eq_ok hperform
    rw [hpure hanswer]
    exact hr.compileIn hdevice hcompile
  | render =>
    obtain ⟨⟨report, rendered⟩, hrender, hanswer⟩ := exists_of_map_eq_ok hperform
    rw [hpure hanswer]
    exact hr.renderIn hdevice hrender

/-- Every renderer that can be reached is consistent. -/
theorem Reached.consistent (hdevice : KeepsPrograms alive) {device : δ} {config : RendererConfig}
    {ops : List Operation} (hreached : Reached device config ops r) : r.Consistent alive := by
  induction hreached with
  | new => exact consistent_new alive device config
  | perform hr op hperform ih => exact ih.perform hdevice hperform
  | compile hr hvisits hcompile ih => exact ih.compileIn hdevice hcompile
  | render hr hvisits horder hrender ih => exact ih.renderIn hdevice hrender

/-! ### Users -/

omit [Device δ] in
theorem holders_pos_iff (h : ProgramHandle) :
    0 < r.holders h ↔ ∃ id s, r.drawables.get? id = some s ∧
      (s.draw.handle = some h ∨ s.depth.handle = some h) := by
  have hholds (s : DrawableState) :
      0 < s.holds h ↔ s.draw.handle = some h ∨ s.depth.handle = some h := by
    unfold DrawableState.holds held
    split <;> split <;> simp_all
  unfold holders
  simp only [Registry.total_pos_iff, hholds]

omit [Device δ] in
theorem geometryUsers_pos_iff (i : GeometryId) :
    0 < r.geometryUsers i ↔
      ∃ id s, r.drawables.get? id = some s ∧ s.drawable.geometry.id = i := by
  have huses (s : DrawableState) : 0 < s.usesGeometry i ↔ s.drawable.geometry.id = i := by
    unfold DrawableState.usesGeometry geometryUse
    split <;> simp_all
  unfold geometryUsers
  simp only [Registry.total_pos_iff, huses]

end Renderer

end SceneRenderer
