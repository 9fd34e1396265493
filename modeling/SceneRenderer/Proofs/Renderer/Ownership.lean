import SceneRenderer.Proofs.Device.NumberedPrograms
import SceneRenderer.Proofs.Registry
import SceneRenderer.Proofs.Renderer.OwnedObjects
import SceneRenderer.Proofs.Renderer.RefusedChanges

/-!
The renderer owns what is on its device. In every state that operations lead to, whatever creations
failed on the way, the outstanding objects are the programs of the cache, the buffers of the
geometries and the targets of the shadow maps; giving the renderer up deletes all of them. No object
is deleted twice.

The main statement is `Renderer.reached_owns`.
-/

set_option autoImplicit false
set_option relaxedAutoImplicit false

namespace SceneRenderer

open Shader ObjectLedger

/-- The buffers of an entry, where there was something to upload. -/
def GeometryEntry.objects (e : GeometryEntry) : List DeviceObject :=
  e.buffers.toList.flatMap (·.objects)

theorem GeometryEntry.deleted_destroy (e : GeometryEntry) :
    (e.buffers.toList.flatMap GeometryBuffers.destroy).filterMap Command.deleted? = e.objects := by
  rw [List.filterMap_flatMap]
  exact List.flatMap_congr fun b _ ↦ b.deleted_destroy

/-- The buffers of all geometries. -/
def geometryObjects (geometries : Registry GeometryId GeometryEntry) : Multiset DeviceObject :=
  ↑(geometries.values.flatMap GeometryEntry.objects)

section GeometryObjects

variable {geometries : Registry GeometryId GeometryEntry} {id : GeometryId} {e e' : GeometryEntry}

theorem geometryObjects_of_get? (he : geometries.get? id = some e) :
    geometryObjects geometries = ↑e.objects + geometryObjects (geometries.erase id) :=
  Registry.holdings_of_get? he _

theorem geometryObjects_insert :
    geometryObjects (geometries.insert id e) =
      ↑e.objects + geometryObjects (geometries.erase id) :=
  Registry.holdings_insert _ _ _ _

theorem geometryObjects_erase_of_none (hnone : geometries.get? id = none) :
    geometryObjects (geometries.erase id) = geometryObjects geometries :=
  Registry.holdings_erase_of_none hnone _

end GeometryObjects

namespace Renderer

variable {δ : Type}

/-- The programs, buffers, targets and textures that a renderer has to delete. -/
def objects (r : Renderer δ) : Multiset DeviceObject :=
  ↑r.cache.objects + (geometryObjects r.geometries + ↑r.shadows.objects)

variable [Device δ] {alive : δ → DeviceObject → Prop} {r r' : Renderer (Audited δ)}

section Geometries

variable (hdevice : KeepsObjects alive)

include hdevice

/-- A geometry that is taken brings its buffers along, if it is the first time. -/
theorem owns_retainGeometry (hr : Owns alive r.device r.objects) (g : Geometry) :
    Owns alive (r.retainGeometry g).2.device (r.retainGeometry g).2.objects := by
  have hupload := hr.upload hdevice g
  unfold retainGeometry
  cases he : r.geometries.get? g.id with
  | some entry =>
    refine hr.of_eq ?_
    simp only [objects, geometryObjects_insert, geometryObjects_of_get? he]
    rfl
  | none =>
    rcases hanswer : GeometryBuffers.upload r.device g with ⟨e | buffers, device⟩
    · rw [hanswer] at hupload
      cases e with
      | emptyGeometry =>
        refine Owns.of_eq hupload ?_
        simp only [objects, geometryObjects_insert, geometryObjects_erase_of_none he]
        exact congrArg _ (congrArg (· + _) (Multiset.zero_add _).symm)
      | _ => exact hupload
    · rw [hanswer] at hupload
      refine Owns.of_eq hupload ?_
      have hentry : (⟨some buffers, 1⟩ : GeometryEntry).objects = buffers.objects :=
        List.append_nil _
      simp only [objects, geometryObjects_insert, geometryObjects_erase_of_none he, hentry]
      abel

/-- A geometry that is given back takes its buffers along, if it was the last time. -/
theorem owns_releaseGeometry (hr : Owns alive r.device r.objects) (id : GeometryId) :
    Owns alive (r.releaseGeometry id).device (r.releaseGeometry id).objects := by
  unfold releaseGeometry
  cases he : r.geometries.get? id with
  | none => exact hr
  | some entry =>
    dsimp only
    split
    · refine Owns.submitAll hdevice (hr.of_eq ?_)
      rw [entry.deleted_destroy]
      simp only [objects, geometryObjects_of_get? he]
      abel
    · refine hr.of_eq ?_
      simp only [objects, geometryObjects_insert, geometryObjects_of_get? he]
      rfl

end Geometries

section Steps

variable (hdevice : KeepsObjects alive)

include hdevice

theorem owns_removeDrawable (hr : Owns alive r.device r.objects) (id : DrawableId) :
    Owns alive (r.removeDrawable id).2.device (r.removeDrawable id).2.objects := by
  unfold removeDrawable
  cases hs : r.drawables.get? id with
  | none => exact hr
  | some s =>
    have hdraw := hr.releaseHandle hdevice s.draw.handle
    have hdepth := hdraw.releaseHandle hdevice s.depth.handle
    exact owns_releaseGeometry hdevice (r := { r with
      cache := (releaseHandle _ _ s.depth.handle).2.1
      device := (releaseHandle _ _ s.depth.handle).2.2
      drawables := r.drawables.erase id
      refusals := _ ++ _ ++ r.refusals }) hdepth s.drawable.geometry.id

theorem owns_addDrawable (hr : Owns alive r.device r.objects) (drawable : Drawable) :
    Owns alive (r.addDrawable drawable).2.device (r.addDrawable drawable).2.objects := by
  have hremoved := owns_removeDrawable hdevice hr drawable.id
  have hretained := owns_retainGeometry hdevice hremoved drawable.geometry
  unfold addDrawable
  dsimp only
  split
  · rename_i hretain
    rwa [hretain] at hretained
  · rename_i hretain
    rwa [hretain] at hretained

omit [Device δ] hdevice in
theorem owns_update (hr : Owns alive r.device r.objects) (id : DrawableId)
    (f : Drawable → Drawable) : Owns alive (r.update id f).2.device (r.update id f).2.objects := by
  unfold update
  split <;> exact hr

theorem owns_setGeometry (hr : Owns alive r.device r.objects) (id : DrawableId) (g : Geometry) :
    Owns alive (r.setGeometry id g).2.device (r.setGeometry id g).2.objects := by
  have hretained := owns_retainGeometry hdevice hr g
  unfold setGeometry
  split
  · exact hr
  · split
    · rename_i hretain
      rwa [hretain] at hretained
    · rename_i s _ _ _ hretain
      rw [hretain] at hretained
      exact owns_update (owns_releaseGeometry hdevice hretained s.drawable.geometry.id) id _

theorem owns_setLights (hr : Owns alive r.device r.objects) (lights : List Light) :
    Owns alive (r.setLights lights).2.device (r.setLights lights).2.objects := by
  have hsplit :
      r.objects = ↑r.shadows.objects + (↑r.cache.objects + geometryObjects r.geometries) := by
    unfold objects
    abel
  refine Owns.of_eq (Owns.sync hdevice (hr.of_eq hsplit) lights) ?_
  show _ = ↑r.cache.objects + (geometryObjects r.geometries + _)
  rw [add_comm, add_assoc]
  rfl

theorem owns_compileDrawable (hconsistent : r.Consistent (fun d id ↦ alive d.device (.program id)))
    (hr : Owns alive r.device r.objects) {id : DrawableId} {failures : List CompileFailure}
    (hcompile : r.compileDrawable id = .ok (failures, r')) : Owns alive r'.device r'.objects := by
  rcases compileDrawable_ok hcompile with ⟨_, rfl⟩ | ⟨s, draw, depth, hs, hdraw, hdepth, rfl⟩
  · exact hr
  · have hsound : draw.cache.Sound := (retargets (Audited.keepsObjects hdevice).keepsPrograms
      (hconsistent.exclusive id s hs).1 (hconsistent.programs_of hs) hdraw).accounts.sound
    exact Owns.retarget hdevice hsound
      (Owns.retarget hdevice hconsistent.programs.sound hr hdraw) hdepth

theorem owns_compileIn {visits : List DrawableId}
    (hconsistent : r.Consistent (fun d id ↦ alive d.device (.program id)))
    (hr : Owns alive r.device r.objects) {failures : List CompileFailure}
    (hcompile : r.compileIn visits = .ok (failures, r')) : Owns alive r'.device r'.objects := by
  induction visits generalizing r failures with
  | nil =>
    cases hcompile
    exact hr
  | cons id rest ih =>
    obtain ⟨now, middle, later, hnow, hlater⟩ := compileIn_cons hcompile
    have hprograms := (Audited.keepsObjects hdevice).keepsPrograms
    exact ih (hconsistent.compileDrawable hprograms hnow)
      (owns_compileDrawable hdevice hconsistent hr hnow) hlater

theorem owns_renderIn {visits order : List DrawableId}
    (hconsistent : r.Consistent (fun d id ↦ alive d.device (.program id)))
    (hr : Owns alive r.device r.objects) {report : FrameReport}
    (hrender : r.renderIn visits order = .ok (report, r')) : Owns alive r'.device r'.objects := by
  obtain ⟨failures, compiled, hcompile, rfl⟩ := renderIn_ok hrender
  exact Owns.submitAll_of_spares hdevice (owns_compileIn hdevice hconsistent hr hcompile)
    (sparesObjects_frameIn compiled order)

/-- An operation that gives an answer leaves what is owned outstanding. -/
theorem owns_perform (hconsistent : r.Consistent (fun d id ↦ alive d.device (.program id)))
    (hr : Owns alive r.device r.objects) {op : Operation} {outcome : Outcome}
    (hperform : r.perform op = .ok (outcome, r')) : Owns alive r'.device r'.objects := by
  have hpure {answer : Outcome × Renderer (Audited δ)} (hanswer : answer = (outcome, r')) :
      r' = answer.2 := (congrArg Prod.snd hanswer).symm
  cases op with
  | addDrawable drawable =>
    rw [hpure (Except.ok.inj hperform), outcomeOf_snd]
    exact owns_addDrawable hdevice hr drawable
  | removeDrawable id =>
    rw [hpure (Except.ok.inj hperform)]
    exact owns_removeDrawable hdevice hr id
  | setGeometry id g =>
    rw [hpure (Except.ok.inj hperform), outcomeOf_snd]
    exact owns_setGeometry hdevice hr id g
  | setLights lights =>
    rw [hpure (Except.ok.inj hperform), outcomeOf_snd]
    exact owns_setLights hdevice hr lights
  | setMaterial id material =>
    rw [hpure (Except.ok.inj hperform)]
    exact owns_update hr id fun d ↦ { d with material }
  | setModes id modes =>
    rw [hpure (Except.ok.inj hperform)]
    exact owns_update hr id fun d ↦ { d with modes }
  | compile =>
    obtain ⟨⟨failures, compiled⟩, hcompile, hanswer⟩ := exists_of_map_eq_ok hperform
    rw [hpure hanswer]
    exact owns_compileIn hdevice hconsistent hr hcompile
  | render =>
    obtain ⟨⟨report, rendered⟩, hrender, hanswer⟩ := exists_of_map_eq_ok hperform
    rw [hpure hanswer]
    exact owns_renderIn hdevice hconsistent hr hrender
  | _ =>
    rw [hpure (Except.ok.inj hperform)]
    exact hr

/-- The objects of a renderer are outstanding wherever operations lead. -/
theorem Reached.owns {device : δ} {config : RendererConfig} {ops : List Operation}
    (hreached : Reached (.start device) config ops r) : Owns alive r.device r.objects := by
  have hprograms := (Audited.keepsObjects hdevice).keepsPrograms
  induction hreached with
  | new => exact .start device
  | perform hr op hperform ih =>
    exact owns_perform hdevice (hr.consistent hprograms) ih hperform
  | compile hr hvisits hcompile ih =>
    exact owns_compileIn hdevice (hr.consistent hprograms) ih hcompile
  | render hr hvisits horder hrender ih =>
    exact owns_renderIn hdevice (hr.consistent hprograms) ih hrender

end Steps

/-! ### Giving a renderer up -/

theorem get?_removeAll (r : Renderer (Audited δ)) (order : List DrawableId) (id : DrawableId) :
    (r.removeAll order).drawables.get? id =
      if id ∈ order then none else r.drawables.get? id := by
  induction order generalizing r with
  | nil => rfl
  | cons first rest ih =>
    show ((r.removeDrawable first).2.removeAll rest).drawables.get? id = _
    rw [ih, get?_removeDrawable]
    by_cases hrest : id ∈ rest
    · rw [if_pos hrest, if_pos (List.mem_cons_of_mem _ hrest)]
    · by_cases hfirst : id = first
      · rw [if_neg hrest, if_pos hfirst, if_pos (hfirst ▸ List.mem_cons_self)]
      · rw [if_neg hrest, if_neg hfirst, if_neg (List.not_mem_cons_of_ne_of_not_mem hfirst hrest)]

section Destroy

variable (hdevice : KeepsObjects alive)

include hdevice

theorem owns_removeAll (order : List DrawableId)
    (hconsistent : r.Consistent (fun d id ↦ alive d.device (.program id)))
    (hr : Owns alive r.device r.objects) :
    (r.removeAll order).Consistent (fun d id ↦ alive d.device (.program id)) ∧
      Owns alive (r.removeAll order).device (r.removeAll order).objects := by
  induction order generalizing r with
  | nil => exact ⟨hconsistent, hr⟩
  | cons id rest ih =>
    exact ih (hconsistent.removeDrawable (Audited.keepsObjects hdevice).keepsPrograms id).1
      (owns_removeDrawable hdevice hr id)

omit hdevice in
/-- Without drawables there are no geometries. -/
theorem geometryObjects_of_empty {living : Audited δ → ProgramId → Prop}
    (hconsistent : r.Consistent living) (hempty : ∀ id, r.drawables.get? id = none) :
    geometryObjects r.geometries = 0 := by
  have hnone : r.geometries.toList = [] := by
    refine List.eq_nil_iff_forall_not_mem.mpr fun ⟨i, e⟩ he ↦ ?_
    obtain ⟨id, s, hs, _⟩ := (geometryUsers_pos_iff i).mp
      ((hconsistent.geometries.exists_iff i).mp ⟨e, Registry.get?_eq_some_iff.mpr he⟩)
    exact absurd (hs.symm.trans (hempty id)) nofun
  rw [geometryObjects, Registry.values, hnone]
  rfl

/-- A renderer that is given up has deleted all that was its own. -/
theorem owns_destroyIn {order : List DrawableId}
    (hconsistent : r.Consistent (fun d id ↦ alive d.device (.program id)))
    (hr : Owns alive r.device r.objects) (horder : r.drawables.keys ⊆ order) :
    Owns alive (r.destroyIn order) 0 := by
  obtain ⟨hremoved, howns⟩ := owns_removeAll hdevice order hconsistent hr
  have hempty (id : DrawableId) : (r.removeAll order).drawables.get? id = none := by
    rw [get?_removeAll]
    split
    · rfl
    · rename_i hout
      exact Registry.get?_eq_none_iff.mpr fun hin ↦ hout (horder hin)
  unfold destroyIn
  generalize r.removeAll order = emptied at hremoved howns hempty
  rw [objects, geometryObjects_of_empty hremoved hempty] at howns
  refine Owns.submitAll hdevice (Owns.submitAll hdevice (howns.of_eq ?_))
  have hmaps : emptied.shadows.destroy.1.filterMap Command.deleted? = emptied.shadows.objects :=
    ShadowRenderer.deleted_destroy emptied.shadows.maps
  rw [ProgramCache.deleted_clear, hmaps]
  abel

/-- On a device whose new objects are none of those that are there, whatever creations fail: the
objects that are created and not yet deleted are those of the renderer, none is deleted that is not
there, and giving the renderer up deletes every object as often as it was created. -/
theorem reached_owns {device : δ} {config : RendererConfig} {ops : List Operation}
    (hreached : Reached (.start device) config ops r) :
    Orderly r.device.ledger ∧ outstanding r.device.ledger = r.objects ∧
      ∀ order : List DrawableId, order.Perm r.drawables.keys →
        Orderly (r.destroyIn order).ledger ∧ outstanding (r.destroyIn order).ledger = 0 ∧
          ∀ o, (r.destroyIn order).ledger.count (.created o) =
            (r.destroyIn order).ledger.count (.deleted o) := by
  have howns := hreached.owns hdevice
  have hconsistent := hreached.consistent (Audited.keepsObjects hdevice).keepsPrograms
  refine ⟨howns.orderly, howns.outstanding, fun order horder ↦ ?_⟩
  have hdestroyed := owns_destroyIn hdevice hconsistent howns horder.symm.subset
  refine ⟨hdestroyed.orderly, hdestroyed.outstanding, fun o ↦ ?_⟩
  rw [hdestroyed.orderly.count_created, hdestroyed.outstanding]
  rfl

end Destroy

/-- A shadow map fails for want of a texture, then a drawable is added, then it is to get a geometry
for which there is no buffer, then the shadow map succeeds. -/
theorem reached_owns_strained :
    ∃ r : Renderer (Audited (Rationed Recorder)),
      Reached (.start strained) .standard [.setLights [caster],
        .setGeometry ⟨1⟩ (bare 1 8).geometry, .addDrawable (bare 1 7), .setLights [caster]] r ∧
      r.objects = {.buffer ⟨1⟩, .renderTarget ⟨3⟩, .texture ⟨2⟩} ∧
      Orderly r.device.ledger ∧ outstanding r.device.ledger = r.objects ∧
        ∀ order : List DrawableId, order.Perm r.drawables.keys →
          Orderly (r.destroyIn order).ledger ∧ outstanding (r.destroyIn order).ledger = 0 ∧
            ∀ o, (r.destroyIn order).ledger.count (.created o) =
              (r.destroyIn order).ledger.count (.deleted o) := by
  have hreached : Reached (Audited.start strained) .standard _ _ :=
    .perform (.perform (.perform (.perform .new (.setLights [caster]) rfl)
      (.addDrawable (bare 1 7)) rfl) (.setGeometry ⟨1⟩ (bare 1 8).geometry) rfl)
      (.setLights [caster]) rfl
  exact ⟨_, hreached, by decide +kernel,
    reached_owns (Rationed.keepsObjects Recorder.keepsObjects) hreached⟩

end Renderer

end SceneRenderer
