import SceneRenderer.Proofs.Renderer.Drawings

/-!
A renderer with nothing but one drawable in its scene, of which nothing was compiled yet. On a
device that links what it is told the drawable is drawn after it was compiled (`Lone.exists_drawn`),
and it casts if it needs a depth program (`Lone.exists_cast`). Of two drawables that share a
geometry, a program and the names of their materials and transforms, one is drawn after the other
(`Paired.exists_drawn`).
-/

set_option autoImplicit false
set_option relaxedAutoImplicit false

namespace SceneRenderer

open Shader

namespace Renderer

variable {δ : Type} [Device δ]

/-- Nothing but a drawable is in the scene, under not too many lights. Its buffers were uploaded,
nothing was compiled yet, and there are programs enough for it. -/
structure Lone (r : Renderer δ) (d : Drawable) (b : GeometryBuffers) : Prop where
  cache : r.cache = .new RendererConfig.standard.shaderOptions
  config : r.config = .standard
  scene : 104 + 15 * r.scene.lights.length + 3 * r.scene.clips.length ≤ UInt32.size
  links : Links 2 r.device
  drawables : r.drawables.toList = [(d.id, .new d)]
  buffers : r.buffers? d.geometry.id = some b

namespace Lone

variable {r : Renderer δ} {d : Drawable} {b : GeometryBuffers}

theorem get? (hr : r.Lone d b) : r.drawables.get? d.id = some (.new d) := by
  rw [Registry.get?_eq_some_iff, hr.drawables]
  exact List.mem_singleton_self _

theorem visits (hr : r.Lone d b) : [d.id].Perm r.drawables.keys := by
  rw [Registry.keys, hr.drawables]
  exact .refl _

theorem materialsById (hr : r.Lone d b) : r.MaterialsById := by
  intro id s id' s' hs hs' _
  rw [Registry.get?_eq_some_iff, hr.drawables, List.mem_singleton] at hs hs'
  cases hs
  cases hs'
  rfl

theorem transformsById (hr : r.Lone d b) : r.TransformsById := by
  intro id s id' s' hs hs' _
  rw [Registry.get?_eq_some_iff, hr.drawables, List.mem_singleton] at hs hs'
  cases hs
  cases hs'
  rfl

theorem uniformsFit (hr : r.Lone d b) {alive : δ → ProgramId → Prop} {compiled : Renderer δ}
    (hcompiled : compiled.Consistent alive) {failures : List CompileFailure}
    (hcompile : r.compileIn [d.id] = .ok (failures, compiled)) : compiled.cache.UniformsFit := by
  refine hcompiled.uniformsFit (fun _ _ hs ↦ clean_compileIn hr.visits hcompile hs) ?_
  rw [scene_compileIn hcompile]
  exact hr.scene

theorem radius (hr : r.Lone d b) : r.cache.options.kernelRadius ≤ maxKernelRadius := by
  rw [hr.cache]
  decide

/-- Without lights that cast shadows the drawable is drawn to the surface, first of all. -/
theorem exists_drawn (hr : r.Lone d b) (hdepth : r.depthKey? d = none) :
    ∃ compiled failures ready e, r.compileIn [d.id] = .ok (failures, compiled) ∧
      compiled.batchIn [d.id] = [.ok ready] ∧ ready.buffers = b ∧
      ready.material.Fits ready.features ∧ compiled.cache.entry? ready.handle = some e ∧
      e.key = r.drawKey d ∧ e.program = ready.program := by
  obtain ⟨source, hsource⟩ := synthesize_ok hr.radius (r.drawKey d)
  obtain ⟨p, device, hlink, _⟩ := hr.links source
  have hfind : r.cache.find? (r.drawKey d) = none := by
    rw [hr.cache]
    rfl
  obtain ⟨failures, hcompile⟩ := compileDrawable_new hr.get? hfind hdepth hsource hlink
  let e : CacheEntry := ⟨r.drawKey d, source, p, 1⟩
  let h : ProgramHandle := (r.cache.store e).1
  have hentry : ProgramCache.entry? (r.cache.store e).2 h = some e := by
    simp only [h, hr.cache]
    rfl
  let s : DrawableState := ⟨d, ⟨some h, none⟩, .empty, false⟩
  let compiled : Renderer δ := { r with
    cache := (r.cache.store e).2
    device
    drawables := r.drawables.insert d.id s }
  have hstate : compiled.drawables.get? d.id = some s := by
    rw [Registry.get?_insert, if_pos rfl]
  let ready : ReadyDraw := ⟨h, p, r.featuresOf d, d.material, d.transform, d.geometry.id, b⟩
  have hresolve : (compiled.entryOf d.id s).resolve compiled.cache = .ok ready :=
    DrawEntry.resolve_eq_ok rfl hentry rfl hr.buffers
  refine ⟨compiled, _, ready, e, compileIn_cons_eq hcompile rfl, ?_, rfl,
    fits_classify _ _ _ _ _ _, hentry, rfl, rfl⟩
  simp [batchIn, hstate, sortByKey, hresolve]

/-- With a depth program the drawable casts. -/
theorem exists_cast (hr : r.Lone d b) {depth : DepthFeatures}
    (hdepth : r.depthKey? d = some (.shadowDepth depth)) :
    ∃ compiled failures s c e, r.compileIn [d.id] = .ok (failures, compiled) ∧
      compiled.castersIn [d.id] = [some c] ∧ c.buffers = b ∧
      compiled.drawables.get? d.id = some s ∧ s.drawable = d ∧ s.depth.handle = some c.handle ∧
      compiled.cache.entry? c.handle = some e ∧ e.key = .shadowDepth depth ∧
      e.program = c.program := by
  obtain ⟨source, hsource⟩ := synthesize_ok hr.radius (r.drawKey d)
  obtain ⟨source', hsource'⟩ := synthesize_ok hr.radius (.shadowDepth depth)
  obtain ⟨p, device, hlink, hlinks⟩ := hr.links source
  obtain ⟨p', device', hlink', _⟩ := hlinks source'
  let e : CacheEntry := ⟨r.drawKey d, source, p, 1⟩
  let e' : CacheEntry := ⟨.shadowDepth depth, source', p', 1⟩
  let cache := (r.cache.store e).2
  have hfind : r.cache.find? (r.drawKey d) = none := by
    rw [hr.cache]
    rfl
  have hfind' : cache.find? (.shadowDepth depth) = none := by
    simp only [cache, hr.cache, ProgramCache.find?]
    show ((Registry.empty.insert (r.drawKey d) 0).get? _).bind _ = _
    rw [Registry.get?_insert, if_neg fun h ↦ by cases h]
    rfl
  obtain ⟨failures, hcompile⟩ :=
    compileDrawable_new_cast hr.get? rfl hdepth hfind hsource hsource' hlink hlink' hfind'
  let h : ProgramHandle := (cache.store e').1
  have hentry : ProgramCache.entry? (cache.store e').2 h = some e' := by
    simp only [h, cache, hr.cache]
    rfl
  let s : DrawableState := ⟨d, ⟨some (r.cache.store e).1, none⟩, ⟨some h, none⟩, false⟩
  let compiled : Renderer δ := { r with
    cache := (cache.store e').2
    device := device'
    drawables := r.drawables.insert d.id s }
  have hstate : compiled.drawables.get? d.id = some s := by
    rw [Registry.get?_insert, if_pos rfl]
  let c : ReadyCaster := ⟨h, p', d.transform, d.geometry.id, b, d.material.pointSize⟩
  have hresolve : (compiled.casterOf d.id s).resolve? compiled.cache = some c := by
    unfold ShadowCaster.resolve? casterOf
    have hbuffers : compiled.buffers? s.drawable.geometry.id = some b := hr.buffers
    simp only [ProgramCache.program?, hbuffers, s]
    simp [compiled, hentry, c, e']
  refine ⟨compiled, _, s, c, e', compileIn_cons_eq hcompile rfl, ?_, rfl, hstate, rfl, rfl, hentry,
    rfl, rfl⟩
  simp [castersIn, hstate, sortByKey, hresolve]

end Lone

/-- Drawables that are drawn alike are drawn in the order in which they were collected. -/
theorem Paired.exists_drawn {r : Renderer δ} {d d' : Drawable} {b : GeometryBuffers}
    (hr : r.Paired d d' b) (hmaterial : d'.material.id = d.material.id)
    (htransform : d'.transform.id = d.transform.id) :
    ∃ compiled failures s s' e p p', r.compileIn [d.id, d'.id] = .ok (failures, compiled) ∧
      compiled.shadows.maps = [] ∧
      compiled.batchIn [d.id, d'.id] = [.ok p.2, .ok p'.2] ∧
      compiled.drawings [d.id, d'.id] = [⟨d.id, none⟩, ⟨d'.id, none⟩] ∧
      s.drawable = d ∧ compiled.DrawsFor p s e b ∧
      s'.drawable = d' ∧ p'.1.drawable = d'.id ∧ compiled.DrawsFor p' s' e b ∧
      p'.2.handle = p.2.handle := by
  obtain ⟨failures, cache, device, drawables, h, e, hcompile, hs, hs', hentry, hkey⟩ :=
    hr.exists_compiled
  let compiled : Renderer δ := { r with cache, device, drawables }
  let s : DrawableState := ⟨d, ⟨some h, none⟩, .empty, false⟩
  let s' : DrawableState := ⟨d', ⟨some h, none⟩, .empty, false⟩
  let p : DrawEntry × ReadyDraw := ⟨compiled.entryOf d.id s,
    ⟨h, e.program, r.featuresOf d, d.material, d.transform, d.geometry.id, b⟩⟩
  let p' : DrawEntry × ReadyDraw := ⟨compiled.entryOf d'.id s',
    ⟨h, e.program, r.featuresOf d', d'.material, d'.transform, d'.geometry.id, b⟩⟩
  have hbuffers : r.buffers? d'.geometry.id = some b := hr.geometry ▸ hr.buffers
  have hresolve : p.1.resolve compiled.cache = .ok p.2 :=
    DrawEntry.resolve_eq_ok rfl hentry hkey hr.buffers
  have hresolve' : p'.1.resolve compiled.cache = .ok p'.2 :=
    DrawEntry.resolve_eq_ok rfl hentry (hkey.trans hr.key.symm) hbuffers
  have hstates : ([d.id, d'.id].filterMap fun id ↦ (compiled.drawables.get? id).map (id, ·)) =
      [(d.id, s), (d'.id, s')] := by
    simp [compiled, hs, hs', s, s']
  have hsorted : sortByKey DrawEntry.sortKey [p.1, p'.1] = [p.1, p'.1] := by
    refine List.mergeSort_of_pairwise (List.pairwise_pair.mpr ?_)
    simp [p, p', s, s', DrawEntry.sortKey, entryOf, hmaterial, htransform, hr.geometry]
  refine ⟨compiled, failures, s, s', e, p, p', hcompile, hr.maps, ?_, ?_, rfl,
    ⟨hs, rfl, hentry, hkey, hr.buffers, rfl⟩, rfl, rfl,
    ⟨hs', rfl, hentry, hkey.trans hr.key.symm, hbuffers, rfl⟩, rfl⟩
  · unfold batchIn
    rw [hstates]
    show (sortByKey DrawEntry.sortKey [p.1, p'.1]).map _ = _
    rw [hsorted]
    simp [hresolve, hresolve']
  · unfold drawings shadowsIn drawnIn
    rw [show compiled.shadows.maps = [] from hr.maps, hstates]
    show _ ++ ((sortByKey DrawEntry.sortKey [p.1, p'.1]).filterMap _).map _ = _
    rw [hsorted]
    simp only [List.filterMap_cons, hresolve, hresolve', Except.toOption, Option.map_some]
    rfl

end Renderer

end SceneRenderer
