import Mathlib.Data.List.Forall2
import SceneRenderer.Proofs.Frame.ShadowFreshness
import SceneRenderer.Proofs.Renderer.UpToDate

/-!
The draws of a frame, and which drawable each of them is for: first the casters in the map of every
light, then the entries of the main pass, each without those that lack a program or buffers.
-/

set_option autoImplicit false
set_option relaxedAutoImplicit false

namespace SceneRenderer

open Shader

/-- What a draw of a frame is for: a drawable, in the shadow map of a light or on the surface. -/
structure Drawing where
  drawable : DrawableId
  light : Option Light

namespace Renderer

variable {δ : Type}

/-- The casters of a frame, sorted, with what each of them needs. -/
def castersIn (r : Renderer δ) (order : List DrawableId) : List (Option ReadyCaster) :=
  let states := order.filterMap fun id ↦ (r.drawables.get? id).map (id, ·)
  (sortByKey ShadowCaster.sortKey (states.map fun s ↦ r.casterOf s.1 s.2)).map
    (ShadowCaster.resolve? r.cache)

/-- The casters of a frame that are drawn. -/
def castIn (r : Renderer δ) (order : List DrawableId) : List (ShadowCaster × ReadyCaster) :=
  let states := order.filterMap fun id ↦ (r.drawables.get? id).map (id, ·)
  (sortByKey ShadowCaster.sortKey (states.map fun s ↦ r.casterOf s.1 s.2)).filterMap
    fun c ↦ (c.resolve? r.cache).map (c, ·)

/-- The entries of a frame that are drawn. -/
def drawnIn (r : Renderer δ) (order : List DrawableId) : List (DrawEntry × ReadyDraw) :=
  let states := order.filterMap fun id ↦ (r.drawables.get? id).map (id, ·)
  (sortByKey DrawEntry.sortKey (states.map fun s ↦ r.entryOf s.1 s.2)).filterMap
    fun e ↦ (e.resolve r.cache).toOption.map (e, ·)

/-- The casters of a frame in the map of every light, one map after the other. -/
def shadowsIn (r : Renderer δ) (order : List DrawableId) :
    List (Light × ShadowCaster × ReadyCaster) :=
  r.shadows.maps.flatMap fun m ↦ (r.scene.lights[m.light.toNat]?).toList.flatMap fun light ↦
    (r.castIn order).map (light, ·)

/-- The draws of a frame: the shadow maps, and then the surface. -/
def drawings (r : Renderer δ) (order : List DrawableId) : List Drawing :=
  ((r.shadowsIn order).map fun p ↦ ⟨p.2.1.drawable, some p.1⟩) ++
    (r.drawnIn order).map fun p ↦ ⟨p.1.drawable, none⟩

end Renderer

/-! ### What is drawn -/

/-- A caster is drawn with the program that its handle stands for. -/
theorem ShadowCaster.resolve?_eq_some {cache : ProgramCache} {c : ShadowCaster} {d : ReadyCaster}
    (hresolve : c.resolve? cache = some d) :
    ∃ e buffers, c.program = some d.handle ∧ cache.entry? d.handle = some e ∧
      c.buffers = some buffers ∧
      d = ⟨d.handle, e.program, c.transform, c.geometry, buffers, c.pointSize⟩ := by
  unfold resolve? at hresolve
  cases hhandle : c.program with
  | none => rw [hhandle] at hresolve; exact absurd hresolve nofun
  | some handle =>
    cases hbuffers : c.buffers with
    | none => rw [hhandle, hbuffers] at hresolve; exact absurd hresolve nofun
    | some buffers =>
      cases he : cache.entry? handle with
      | none =>
        rw [hhandle, hbuffers] at hresolve
        simp [ProgramCache.program?, he] at hresolve
      | some e =>
        rw [hhandle, hbuffers] at hresolve
        simp only [ProgramCache.program?, he, Option.map_some, Option.bind_eq_bind,
          Option.bind_some, Option.pure_def, Option.some.injEq] at hresolve
        subst hresolve
        exact ⟨e, buffers, rfl, he, rfl, rfl⟩

namespace Renderer

variable {δ : Type} {r : Renderer δ} {order : List DrawableId}

theorem mem_drawnIn {p : DrawEntry × ReadyDraw} (hp : p ∈ r.drawnIn order) :
    ∃ s, r.drawables.get? p.1.drawable = some s ∧ p.1 = r.entryOf p.1.drawable s ∧
      p.1.resolve r.cache = .ok p.2 := by
  obtain ⟨entry, hentry, hready⟩ := List.mem_filterMap.mp hp
  obtain ⟨d, hd, rfl⟩ := Option.map_eq_some_iff.mp hready
  rw [sortByKey, List.mem_mergeSort] at hentry
  obtain ⟨⟨id, s⟩, hs, rfl⟩ := List.mem_map.mp hentry
  refine ⟨s, (mem_states_iff.mp hs).2, rfl, ?_⟩
  rcases hresolve : (r.entryOf id s).resolve r.cache with reason | d'
  · rw [hresolve] at hd
    cases hd
  · rw [hresolve] at hd
    exact congrArg Except.ok (Option.some.inj hd)

theorem mem_castIn {p : ShadowCaster × ReadyCaster} (hp : p ∈ r.castIn order) :
    ∃ s, r.drawables.get? p.1.drawable = some s ∧ p.1 = r.casterOf p.1.drawable s ∧
      p.1.resolve? r.cache = some p.2 := by
  obtain ⟨caster, hcaster, hready⟩ := List.mem_filterMap.mp hp
  obtain ⟨d, hd, rfl⟩ := Option.map_eq_some_iff.mp hready
  rw [sortByKey, List.mem_mergeSort] at hcaster
  obtain ⟨⟨id, s⟩, hs, rfl⟩ := List.mem_map.mp hcaster
  exact ⟨s, (mem_states_iff.mp hs).2, rfl, hd⟩

/-- A draw of the main pass is of a drawable, with a program of its features and its buffers. -/
structure DrawsFor (r : Renderer δ) (p : DrawEntry × ReadyDraw) (s : DrawableState)
    (e : CacheEntry) (b : GeometryBuffers) : Prop where
  drawable : r.drawables.get? p.1.drawable = some s
  handle : s.draw.handle = some p.2.handle
  entry : r.cache.entry? p.2.handle = some e
  key : e.key = r.drawKey s.drawable
  buffers : r.buffers? s.drawable.geometry.id = some b
  ready : p.2 = ⟨p.2.handle, e.program, r.featuresOf s.drawable, s.drawable.material,
    s.drawable.transform, s.drawable.geometry.id, b⟩

theorem exists_drawsFor (hcurrent : ∀ id s, r.drawables.get? id = some s → r.UpToDate s)
    {p : DrawEntry × ReadyDraw} (hp : p ∈ r.drawnIn order) : ∃ s e b, r.DrawsFor p s e b := by
  obtain ⟨s, hs, hentry, hresolve⟩ := mem_drawnIn hp
  obtain ⟨e, features, b, hhandle, he, hkey, hb, hready⟩ := DrawEntry.resolve_ok hresolve
  rw [hentry] at hhandle hb hready
  have hdrawKey : e.key = r.drawKey s.drawable := by
    have hstands := (hcurrent _ s hs).1.key_eq hhandle
    rw [ProgramCache.key?, he] at hstands
    exact Option.some.inj hstands
  obtain rfl : features = r.featuresOf s.drawable :=
    ProgramKey.draw.inj (hkey.symm.trans hdrawKey)
  exact ⟨s, e, b, hs, hhandle, he, hdrawKey, hb, hready⟩

/-- A draw into a map is of a drawable, with a depth program of its features and with its
buffers. -/
structure CastsFor (r : Renderer δ) (p : ShadowCaster × ReadyCaster) (s : DrawableState)
    (e : CacheEntry) (b : GeometryBuffers) : Prop where
  drawable : r.drawables.get? p.1.drawable = some s
  handle : s.depth.handle = some p.2.handle
  entry : r.cache.entry? p.2.handle = some e
  key : r.depthKey? s.drawable = some e.key
  buffers : r.buffers? s.drawable.geometry.id = some b
  ready : p.2 = ⟨p.2.handle, e.program, s.drawable.transform, s.drawable.geometry.id, b,
    s.drawable.material.pointSize⟩

theorem exists_castsFor (hcurrent : ∀ id s, r.drawables.get? id = some s → r.UpToDate s)
    {p : ShadowCaster × ReadyCaster} (hp : p ∈ r.castIn order) : ∃ s e b, r.CastsFor p s e b := by
  obtain ⟨s, hs, hcaster, hresolve⟩ := mem_castIn hp
  obtain ⟨e, b, hhandle, he, hb, hready⟩ := ShadowCaster.resolve?_eq_some hresolve
  rw [hcaster] at hhandle hb hready
  have hstands := (hcurrent _ s hs).2.key_eq hhandle
  rw [ProgramCache.key?, he] at hstands
  exact ⟨s, e, b, hs, hhandle, he, hstands.symm, hb, hready⟩

theorem map_snd_filterMap {α β : Type} (f : α → Option β) (l : List α) :
    (l.filterMap fun a ↦ (f a).map (a, ·)).map (·.2) = l.filterMap f := by
  simp [List.map_filterMap, Option.map_map, Function.comp_def]

/-- What the main pass draws, and in which order. -/
theorem ready_batchIn (r : Renderer δ) (order : List DrawableId) :
    DrawState.ready (r.batchIn order) = (r.drawnIn order).map (·.2) := by
  unfold DrawState.ready batchIn drawnIn
  rw [List.filterMap_map, map_snd_filterMap]
  rfl

/-- What is drawn into each shadow map, and in which order. -/
theorem reduceOption_castersIn (r : Renderer δ) (order : List DrawableId) :
    (r.castersIn order).reduceOption = (r.castIn order).map (·.2) := by
  unfold List.reduceOption castersIn castIn
  rw [List.filterMap_map, map_snd_filterMap]
  rfl

/-- A drawable that is ready is drawn. -/
theorem exists_drawnIn_of_ready {id : DrawableId} (hready : r.Ready id) :
    ∃ p, r.drawnIn [id] = [p] := by
  obtain ⟨hlength, hdrawn⟩ := batchIn_of_ready (List.forall_mem_singleton.mpr hready)
  obtain ⟨entry, hbatch⟩ := List.length_eq_one_iff.mp hlength
  obtain ⟨d, rfl⟩ := hdrawn entry (hbatch ▸ List.mem_singleton_self _)
  have hall := r.ready_batchIn [id]
  rw [hbatch] at hall
  obtain ⟨p, hp, _⟩ := List.map_eq_singleton_iff.mp hall.symm
  exact ⟨p, hp⟩

theorem ok_mem_batchIn {p : DrawEntry × ReadyDraw} (hp : p ∈ r.drawnIn order) :
    .ok p.2 ∈ r.batchIn order := by
  have hready : p.2 ∈ DrawState.ready (r.batchIn order) := by
    rw [ready_batchIn]
    exact List.mem_map_of_mem hp
  obtain ⟨entry, hentry, hok⟩ := List.mem_filterMap.mp hready
  cases entry with
  | error reason => exact absurd hok nofun
  | ok d => rwa [← Option.some.inj hok]

theorem some_mem_castersIn {p : ShadowCaster × ReadyCaster} (hp : p ∈ r.castIn order) :
    some p.2 ∈ r.castersIn order := by
  have hready : p.2 ∈ (r.castersIn order).reduceOption := by
    rw [reduceOption_castersIn]
    exact List.mem_map_of_mem hp
  obtain ⟨caster, hcaster, hsome⟩ := List.mem_filterMap.mp hready
  rwa [← show caster = some p.2 from hsome]

/-- What the shadow pass draws, and in which order. -/
theorem mapDraws_castersIn (r : Renderer δ) (order : List DrawableId) :
    (r.shadows.maps.flatMap (ShadowRenderer.mapDraws (r.castersIn order) r.scene.lights)) =
      (r.shadowsIn order).map fun p ↦ (p.1, p.2.2) := by
  unfold ShadowRenderer.mapDraws shadowsIn
  simp only [reduceOption_castersIn, List.map_flatMap, List.map_map, Function.comp_def]

theorem mem_castIn_of_mem_shadowsIn {p : Light × ShadowCaster × ReadyCaster}
    (hp : p ∈ r.shadowsIn order) : p.2 ∈ r.castIn order := by
  obtain ⟨_, _, hp⟩ := List.mem_flatMap.mp hp
  obtain ⟨_, _, hp⟩ := List.mem_flatMap.mp hp
  obtain ⟨_, hcast, rfl⟩ := List.mem_map.mp hp
  exact hcast

/-- A caster of a frame is a drawable with the program and the buffers that stand for it. -/
theorem mem_castersIn {c : ReadyCaster} (hc : some c ∈ r.castersIn order) :
    ∃ id s e, r.drawables.get? id = some s ∧ r.cache.entry? c.handle = some e ∧
      c.program = e.program ∧ c.transform = s.drawable.transform ∧
      r.buffers? c.geometry = some c.buffers := by
  obtain ⟨caster, hcaster, hresolve⟩ := List.mem_map.mp hc
  rw [sortByKey, List.mem_mergeSort] at hcaster
  obtain ⟨⟨id, s⟩, hs, rfl⟩ := List.mem_map.mp hcaster
  obtain ⟨e, buffers, _, he, hbuffers, hready⟩ := ShadowCaster.resolve?_eq_some hresolve
  rw [hready]
  exact ⟨id, s, e, (mem_states_iff.mp hs).2, he, rfl, rfl, hbuffers⟩

end Renderer

end SceneRenderer
