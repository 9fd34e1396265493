import SceneRenderer.Proofs.Renderer.MainPass
import SceneRenderer.Proofs.Renderer.RefusedChanges

/-!
The uses that a renderer counts, in whatever state it can be reached: those of programs and of
geometries are exactly those that drawables have (`Renderer.reached_balanced`).

The buffers of a geometry come from one upload of a geometry that was handed over, made in the same
run. `Renderer.Step.origin` is the step lemma, that an entry which was not there before was uploaded
by the operation, and `Renderer.Reached.uploadedIn` the run lemma.
-/

set_option autoImplicit false
set_option relaxedAutoImplicit false

namespace SceneRenderer

open Shader ProgramCache

namespace Renderer

variable {δ : Type} [Device δ] {r r' : Renderer δ}

section Run

variable {device : δ} {config : RendererConfig} {ops : List Operation}

/-- The uses that the cache and the geometries count are exactly those that drawables have, after
the given operations. -/
structure Balanced (device : δ) (config : RendererConfig) (ops : List Operation) (r : Renderer δ) :
    Prop where
  /-- What a slot holds is alive. -/
  live : ∀ id s, r.drawables.get? id = some s → ∀ h,
    s.draw.handle = some h ∨ s.depth.handle = some h → ∃ e, r.cache.entry? h = some e
  /-- A program has as many uses as there are slots that hold it. -/
  useCount : ∀ h e, r.cache.entry? h = some e → e.useCount.toNat = r.holders h
  /-- There is no program that no slot holds. -/
  noOther : ∀ h e, r.cache.entry? h = some e → ∃ id s, r.drawables.get? id = some s ∧
    (s.draw.handle = some h ∨ s.depth.handle = some h)
  /-- No release was refused. -/
  refusals : r.refusals = []
  /-- A slot that has a program does not stand for a failure. -/
  exclusive : ∀ id s, r.drawables.get? id = some s →
    ¬ (s.draw.handle.isSome ∧ s.draw.failed.isSome) ∧
      ¬ (s.depth.handle.isSome ∧ s.depth.failed.isSome)
  /-- A geometry is there exactly as long as a drawable has it. -/
  geometry : ∀ i, (∃ e, r.geometries.get? i = some e) ↔
    ∃ id s, r.drawables.get? id = some s ∧ s.drawable.geometry.id = i
  users : ∀ i e, r.geometries.get? i = some e → e.users = r.geometryUsers i
  /-- So it has no more users than there are drawables. -/
  users_le : ∀ i e, r.geometries.get? i = some e → e.users ≤ r.drawables.size
  /-- These are told apart by words of 32 bits. -/
  size_le : r.drawables.size ≤ UInt32.size
  /-- Its buffers come from one upload, in this run, of a geometry that was handed over. -/
  uploaded : ∀ i e, r.geometries.get? i = some e → ∃ g ∈ ops.flatMap Operation.handed,
    g.id = i ∧ UploadedIn device config g e.buffers ops r

variable {alive : δ → ProgramId → Prop}

omit [Device δ] in
theorem geometryUsers_le_size (r : Renderer δ) (i : GeometryId) :
    r.geometryUsers i ≤ r.drawables.size := by
  refine Registry.total_le_size r.drawables fun id s _ ↦ ?_
  unfold DrawableState.usesGeometry geometryUse
  split <;> omega

omit [Device δ] in
theorem size_drawables_le (r : Renderer δ) : r.drawables.size ≤ UInt32.size := by
  have hwords : Function.Injective fun id : DrawableId ↦ id.raw.toNat :=
    fun ⟨_⟩ ⟨_⟩ hsame ↦ congrArg DrawableId.mk (UInt32.toNat_inj.mp hsame)
  have hsub : r.drawables.keys.map (fun id ↦ id.raw.toNat) ⊆ List.range UInt32.size := by
    intro n hn
    obtain ⟨id, _, rfl⟩ := List.mem_map.mp hn
    exact List.mem_range.mpr id.raw.toNat_lt
  have hle := ((r.drawables.nodup_keys.map hwords).subperm hsub).length_le
  rwa [List.length_map, List.length_map, List.length_range] at hle

/-- Every renderer that can be reached is balanced, on any device that keeps its programs apart. -/
theorem reached_balanced (hdevice : KeepsPrograms alive)
    (hreached : Reached device config ops r) : r.Balanced device config ops := by
  have hr := hreached.consistent hdevice
  refine ⟨fun id s hs h hheld ↦ ?_, fun h e he ↦ hr.programs.useCount_eq he, fun h e he ↦ ?_,
    hr.refusals, fun id s hs ↦ ?_,
    fun i ↦ (hr.geometries.exists_iff i).trans (geometryUsers_pos_iff i),
    fun i e he ↦ hr.geometries.users_eq he, fun i e he ↦ ?_, size_drawables_le r,
    fun i e he ↦ ?_⟩
  · obtain ⟨e, he, _⟩ := hr.programs.entry?_of_uses ((holders_pos_iff h).mpr ⟨id, s, hs, hheld⟩)
    exact ⟨e, he⟩
  · have hpos := hr.programs.sound.useCount _ e (entry?_eq_some_iff.mp he).2
    rw [hr.programs.useCount_eq he] at hpos
    exact (holders_pos_iff h).mp hpos
  · obtain ⟨hdraw, hdepth⟩ := hr.exclusive id s hs
    exact ⟨(ProgramSlot.exclusive_iff _).mp hdraw, (ProgramSlot.exclusive_iff _).mp hdepth⟩
  · rw [hr.geometries.users_eq he]
    exact geometryUsers_le_size r i
  · obtain ⟨g, hid, huploaded⟩ := hreached.uploadedIn he
    exact ⟨g, huploaded.mem_handed, hid, huploaded⟩

end Run

/-- Two drawables that share a geometry and a program, of which one is removed again. -/
def sharedOps : List Operation :=
  [.removeDrawable ⟨1⟩, .compile, .addDrawable (twin ⟨2⟩), .addDrawable (twin ⟨1⟩)]

/-- The program and the geometry that both had are still there for the other. -/
theorem reached_balanced_sharedOps :
    KeepsPrograms Recorder.Alive ∧ ∃ r : Renderer Recorder,
      Reached .standard .standard sharedOps r ∧ r.Balanced .standard .standard sharedOps ∧
        r.drawables.get? ⟨1⟩ = none ∧
        ∃ s h e g, r.drawables.get? ⟨2⟩ = some s ∧ s.draw.handle = some h ∧
          r.cache.entry? h = some e ∧ r.geometries.get? s.drawable.geometry.id = some g := by
  obtain ⟨r, compiled, failures, b, hreached, _, hpaired, hcompile, _, _, hsecond⟩ := exists_twins
  obtain ⟨s, h, _, _, _, hs, hhandle, _⟩ := hsecond
  have hremoved : Reached .standard .standard sharedOps (compiled.removeDrawable ⟨1⟩).2 :=
    .perform (.compile hreached hpaired.visits hcompile) (.removeDrawable ⟨1⟩) rfl
  have hbalanced := reached_balanced Recorder.keepsPrograms hremoved
  have hgone := get?_removeDrawable compiled ⟨1⟩ ⟨1⟩
  have hs' := get?_removeDrawable compiled ⟨1⟩ ⟨2⟩
  rw [if_pos rfl] at hgone
  rw [if_neg (by decide), hs] at hs'
  obtain ⟨e, he⟩ := hbalanced.live ⟨2⟩ s hs' h (.inl hhandle)
  obtain ⟨g, hg⟩ := (hbalanced.geometry s.drawable.geometry.id).mpr ⟨⟨2⟩, s, hs', rfl⟩
  exact ⟨Recorder.keepsPrograms, _, hremoved, hbalanced, hgone, s, h, e, g, hs', hhandle, he, hg⟩

end Renderer

end SceneRenderer
