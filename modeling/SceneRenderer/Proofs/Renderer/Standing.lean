import SceneRenderer.Proofs.Frame.PassCounts
import SceneRenderer.Proofs.Renderer.Drawings
import SceneRenderer.Proofs.Renderer.UpToDate

/-!
What drawables stand for: their programs, told by the keys instead of the handles. How often a
program is used and what a frame counts depend on nothing else, wherever in the cache the programs
lie and in whatever order the drawables are collected.
-/

set_option autoImplicit false
set_option relaxedAutoImplicit false

namespace SceneRenderer

open Shader ProgramCache

/-- A drawable with the keys of its programs, or the keys that failed. -/
structure Standing where
  drawable : Drawable
  draw : Option ProgramKey
  drawFailed : Option ProgramKey
  depth : Option ProgramKey
  depthFailed : Option ProgramKey

namespace Standing

/-- The slots that have the program of a key. -/
def uses (s : Standing) (k : ProgramKey) : Nat :=
  (if s.draw = some k then 1 else 0) + (if s.depth = some k then 1 else 0)

/-- What it is drawn with in the main pass, if it is drawn. -/
def drawLabel? (s : Standing) (uploaded : GeometryId → Bool) :
    Option (ProgramKey × List UInt32) :=
  match s.draw with
  | some (.draw features) =>
    if uploaded s.drawable.geometry.id then
      some (.draw features, [s.drawable.material.id.raw, s.drawable.transform.id.raw,
        s.drawable.geometry.id.raw])
    else none
  | _ => none

/-- What it is drawn with into shadow maps, if it is drawn. -/
def castLabel? (s : Standing) (uploaded : GeometryId → Bool) :
    Option (ProgramKey × List UInt32) :=
  if uploaded s.drawable.geometry.id then
    s.depth.map (·, [s.drawable.transform.id.raw, s.drawable.geometry.id.raw])
  else none

end Standing

namespace ProgramCache

/-- The key that a handle stands for. -/
def keyOf (c : ProgramCache) (h : ProgramHandle) : ProgramKey := (c.key? h).getD default

/-- The slot of the program with a key. -/
def rankOf (c : ProgramCache) (k : ProgramKey) : UInt32 := ((c.find? k).map (·.index)).getD 0

variable {c : ProgramCache}

/-- Sorted labels of live programs are ranked by the slots of their keys. -/
theorem Sound.ranked (hc : c.Sound) {labels : List (ProgramHandle × List UInt32)}
    (hsorted : labels.Pairwise fun a b ↦ a.1.index :: a.2 ≤ b.1.index :: b.2)
    (hlive : ∀ a ∈ labels, ∃ e, c.entry? a.1 = some e) : Ranked c.keyOf c.rankOf labels where
  sorted := hsorted
  index a ha := by
    obtain ⟨e, he⟩ := hlive a ha
    have hfind : c.find? e.key = some a.1 := (find?_eq_some_iff hc).mpr ⟨e, he, rfl⟩
    rw [keyOf, key?, he, rankOf]
    show ((c.find? e.key).map _).getD 0 = _
    rw [hfind]
    rfl
  handle a ha b hb hindex := by
    obtain ⟨e, he⟩ := hlive a ha
    obtain ⟨e', he'⟩ := hlive b hb
    exact handle_eq _ he he' hindex

theorem Sound.useCountOf_eq (hc : c.Sound) (k : ProgramKey) :
    c.useCountOf k = (((c.find? k).bind c.entry?).map (·.useCount)).getD 0 := by
  unfold useCountOf
  cases hfind : c.find? k with
  | none =>
    rw [byKey_eq_none hc hfind]
    rfl
  | some h =>
    obtain ⟨e, he, hkey⟩ := (find?_eq_some_iff hc).mp hfind
    obtain ⟨_, hentry⟩ := entry?_eq_some_iff.mp he
    rw [(hc.byKey k h.index).mpr ⟨e, hentry, hkey⟩, Option.bind_some, Option.bind_some, hentry, he]

/-- A cache holds the keys that are used. -/
theorem Sound.contains_eq (hc : c.Sound) (k : ProgramKey) :
    c.contains k = decide (0 < c.useCountOf k) := by
  unfold ProgramCache.contains Registry.contains useCountOf
  cases hi : c.byKey.get? k with
  | none => rfl
  | some i =>
    obtain ⟨e, he, _⟩ := (hc.byKey k i).mp hi
    rw [Option.bind_some, he]
    have hpos : 0 < e.useCount := UInt32.lt_iff_toNat_lt.mpr (hc.useCount i e he)
    exact (decide_eq_true hpos).symm

end ProgramCache

/-- What is sorted and then found, by the labels of what was found. -/
theorem pairwise_labels {α ρ : Type} {sortKey : α → List UInt32} {resolve : α → Option ρ}
    {label : ρ → ProgramHandle × List UInt32}
    (hlabel : ∀ a x, resolve a = some x → sortKey a = (label x).1.index :: (label x).2)
    (items : List α) :
    (((sortByKey sortKey items).filterMap resolve).map label).Pairwise
      fun a b ↦ a.1.index :: a.2 ≤ b.1.index :: b.2 := by
  rw [List.pairwise_map, List.pairwise_filterMap]
  refine (sortByKey_pairwise sortKey items).imp fun {a b} hab x hx y hy ↦ ?_
  rwa [← hlabel a x hx, ← hlabel b y hy]

namespace Renderer

variable {δ : Type} {r : Renderer δ}

def standingOf (r : Renderer δ) (s : DrawableState) : Standing :=
  ⟨s.drawable, s.draw.handle.bind r.cache.key?, s.draw.failed, s.depth.handle.bind r.cache.key?,
    s.depth.failed⟩

/-- What a drawable stands for. -/
def standing? (r : Renderer δ) (id : DrawableId) : Option Standing :=
  (r.drawables.get? id).map r.standingOf

def uploaded (r : Renderer δ) (id : GeometryId) : Bool := (r.buffers? id).isSome

/-! ### Uses of programs -/

/-- A program is used as often as drawables stand for its key. -/
theorem Consistent.useCountOf_eq [Device δ] {alive : δ → ProgramId → Prop}
    (hr : r.Consistent alive) (k : ProgramKey) :
    (r.cache.useCountOf k).toNat = r.drawables.total fun s ↦ (r.standingOf s).uses k := by
  have hsound := hr.programs.sound
  rw [hsound.useCountOf_eq]
  have hstands (holder : Option ProgramHandle) : holder.bind r.cache.key? = some k ↔
      ∃ h, holder = some h ∧ r.cache.find? k = some h := by
    simp only [Option.bind_eq_some_iff, find?_eq_some_iff hsound, key?, Option.map_eq_some_iff]
  cases hfind : r.cache.find? k with
  | none =>
    have hnone (s : DrawableState) : (r.standingOf s).uses k = 0 := by
      unfold Standing.uses standingOf
      simp [hstands, hfind]
    simp only [hnone]
    unfold Registry.total
    simp
  | some h =>
    have huses := hr.programs.useCount h
    obtain ⟨e, he⟩ := exists_entry?_of_find? hfind
    rw [he] at huses
    rw [Option.bind_some, he]
    refine (show e.useCount.toNat = r.holders h from huses).trans ?_
    refine Registry.total_congr rfl fun id ↦ ?_
    unfold Registry.countAt
    congr 2
    funext s
    unfold DrawableState.holds held Standing.uses standingOf
    simp [hstands, hfind]

/-! ### Counters of a frame -/

section Counters

variable {order : List DrawableId}

theorem main_frameIn (r : Renderer δ) (order : List DrawableId) :
    (r.frameIn order).2.1.main = FrameStats.zero +
      DrawState.counts none ((DrawState.ready (r.batchIn order)).map ReadyDraw.label)
        ((r.batchIn order).countP (·.toOption.isNone)) := by
  have hstart : (DrawState.start r.draws.maxTextureUnits).bound = DrawState.boundTo none := rfl
  exact DrawState.stats_drawAll hstart (r.batchIn order)

theorem shadow_frameIn (r : Renderer δ) (order : List DrawableId) :
    (r.frameIn order).2.1.shadow =
      (ShadowRenderer.renderMaps (r.castersIn order) r.scene.lights .zero r.shadows.maps).2 := by
  show (r.shadows.render _ _ _).2 = _
  unfold ShadowRenderer.render
  split
  · rename_i hnone
    rw [List.isEmpty_iff.mp hnone]
    rfl
  · rfl

/-- The labels of what a frame draws, by what the drawables stand for. -/
theorem perm_labels {α ρ : Type} (sortKey : α → List UInt32) (resolve : α → Option ρ)
    (label : ρ → ProgramHandle × List UInt32) (entry : DrawableId → DrawableState → α)
    (labelOf : Standing → Option (ProgramKey × List UInt32))
    (hlabel : ∀ i s, (resolve (entry i s)).map (Prod.map r.cache.keyOf id ∘ label) =
      labelOf (r.standingOf s)) (order : List DrawableId) :
    ((((sortByKey sortKey ((order.filterMap fun id ↦ (r.drawables.get? id).map (id, ·)).map
        fun s ↦ entry s.1 s.2)).filterMap resolve).map label).map
          (Prod.map r.cache.keyOf id)).Perm
      (order.filterMap fun id ↦ (r.standing? id).bind labelOf) := by
  rw [List.map_map, List.map_filterMap]
  refine ((List.mergeSort_perm _ _).filterMap _).trans (.of_eq ?_)
  rw [List.filterMap_map, List.filterMap_filterMap]
  refine List.filterMap_congr fun id _ ↦ ?_
  unfold standing?
  cases r.drawables.get? id with
  | none => rfl
  | some s => exact hlabel id s

theorem drawLabel?_eq (i : DrawableId) (s : DrawableState) :
    ((r.entryOf i s).resolve r.cache).toOption.map
        (Prod.map r.cache.keyOf id ∘ ReadyDraw.label) =
      (r.standingOf s).drawLabel? r.uploaded := by
  unfold DrawEntry.resolve entryOf Standing.drawLabel? standingOf uploaded
  rcases s.draw.handle with _ | h
  · rfl
  · rcases he : r.cache.entry? h with _ | e <;>
      rcases hb : r.buffers? s.drawable.geometry.id with _ | b
    · simp [key?, he, Except.toOption]
    · simp [key?, he, Except.toOption]
    · rcases hkey : e.key with f | f <;> simp [key?, he, hkey, Except.toOption]
    · rcases hkey : e.key with f | f <;>
        simp [key?, he, hkey, Except.toOption, ReadyDraw.label, keyOf]

theorem castLabel?_eq (i : DrawableId) (s : DrawableState) :
    ((r.casterOf i s).resolve? r.cache).map (Prod.map r.cache.keyOf id ∘ ReadyCaster.label) =
      (r.standingOf s).castLabel? r.uploaded := by
  unfold ShadowCaster.resolve? casterOf Standing.castLabel? standingOf uploaded
  rcases s.depth.handle with _ | h
  · simp
  · rcases he : r.cache.entry? h with _ | e <;>
      rcases hb : r.buffers? s.drawable.geometry.id with _ | b <;>
      simp [key?, he, program?, ReadyCaster.label, keyOf]

theorem ready_eq (r : Renderer δ) (order : List DrawableId) :
    DrawState.ready (r.batchIn order) =
      (sortByKey DrawEntry.sortKey ((order.filterMap fun i ↦ (r.drawables.get? i).map (i, ·)).map
        fun s ↦ r.entryOf s.1 s.2)).filterMap fun e ↦ (e.resolve r.cache).toOption := by
  unfold DrawState.ready batchIn
  rw [List.filterMap_map]
  rfl

theorem reduceOption_eq (r : Renderer δ) (order : List DrawableId) :
    (r.castersIn order).reduceOption =
      (sortByKey ShadowCaster.sortKey ((order.filterMap fun i ↦
        (r.drawables.get? i).map (i, ·)).map fun s ↦ r.casterOf s.1 s.2)).filterMap
          (ShadowCaster.resolve? r.cache) := by
  unfold List.reduceOption castersIn
  rw [List.filterMap_map]
  rfl

theorem perm_draws (r : Renderer δ) (order : List DrawableId) :
    (((DrawState.ready (r.batchIn order)).map ReadyDraw.label).map
        (Prod.map r.cache.keyOf id)).Perm
      (order.filterMap fun i ↦ (r.standing? i).bind (·.drawLabel? r.uploaded)) := by
  rw [ready_eq]
  exact perm_labels _ (fun e ↦ (DrawEntry.resolve r.cache e).toOption) _ r.entryOf _ drawLabel?_eq
    order

theorem perm_casts (r : Renderer δ) (order : List DrawableId) :
    (((r.castersIn order).reduceOption.map ReadyCaster.label).map
        (Prod.map r.cache.keyOf id)).Perm
      (order.filterMap fun i ↦ (r.standing? i).bind (·.castLabel? r.uploaded)) := by
  rw [reduceOption_eq]
  exact perm_labels _ (ShadowCaster.resolve? r.cache) _ r.casterOf _ castLabel?_eq order

theorem ranked_draws (hc : r.cache.Sound) (order : List DrawableId) :
    Ranked r.cache.keyOf r.cache.rankOf
      ((DrawState.ready (r.batchIn order)).map ReadyDraw.label) := by
  refine hc.ranked ?_ ?_
  · rw [ready_eq]
    refine pairwise_labels (fun e d hd ↦ ?_) _
    have hresolve : e.resolve r.cache = .ok d := by
      cases hresolve : e.resolve r.cache with
      | error reason =>
        rw [hresolve] at hd
        cases hd
      | ok d' =>
        rw [hresolve] at hd
        exact congrArg _ (Option.some.inj hd)
    obtain ⟨_, _, _, hhandle, _, _, _, hready⟩ := DrawEntry.resolve_ok hresolve
    rw [DrawEntry.sortKey, hhandle, hready]
    rfl
  · simp only [List.forall_mem_map]
    intro d hd
    obtain ⟨entry, hentry, hok⟩ := List.mem_filterMap.mp hd
    cases entry with
    | error reason => cases hok
    | ok d' =>
      obtain rfl : d' = d := Option.some.inj hok
      obtain ⟨_, _, e, _, _, he, _⟩ := mem_batchIn hentry
      exact ⟨e, he⟩

theorem ranked_casts (hc : r.cache.Sound) (order : List DrawableId) :
    Ranked r.cache.keyOf r.cache.rankOf
      ((r.castersIn order).reduceOption.map ReadyCaster.label) := by
  refine hc.ranked ?_ ?_
  · rw [reduceOption_eq]
    refine pairwise_labels (fun c d hd ↦ ?_) _
    obtain ⟨_, _, hhandle, _, _, hready⟩ := ShadowCaster.resolve?_eq_some hd
    rw [ShadowCaster.sortKey, hhandle, hready]
    rfl
  · simp only [List.forall_mem_map]
    intro c hc
    obtain ⟨caster, hcaster, hsome⟩ := List.mem_filterMap.mp hc
    obtain rfl : caster = some c := hsome
    obtain ⟨_, _, e, _, he, _⟩ := mem_castersIn hcaster
    exact ⟨e, he⟩

/-- What is not found is skipped. -/
theorem countP_isNone {α ρ : Type} (f : α → Option ρ) (items : List α) :
    items.countP (fun a ↦ (f a).isNone) = items.length - (items.filterMap f).length := by
  have hnone : (fun a ↦ (f a).isNone) = fun a ↦ decide ¬ (f a).isSome = true := by
    funext a
    cases f a <;> rfl
  rw [List.length_filterMap_eq_countP, hnone,
    List.length_eq_countP_add_countP (fun a ↦ (f a).isSome) (l := items), Nat.add_sub_cancel_left]

theorem length_batchIn (r : Renderer δ) (order : List DrawableId) : (r.batchIn order).length =
    (order.filterMap fun i ↦ (r.drawables.get? i).map (i, ·)).length := by
  rw [batchIn, List.length_map, sortByKey, List.length_mergeSort, List.length_map]

theorem length_castersIn (r : Renderer δ) (order : List DrawableId) :
    (r.castersIn order).length =
      (order.filterMap fun i ↦ (r.drawables.get? i).map (i, ·)).length := by
  rw [castersIn, List.length_map, sortByKey, List.length_mergeSort, List.length_map]

variable {r' : Renderer δ} {order' : List DrawableId}

/-- Frames count the same where the drawables stand for the same, in whatever order they are
collected. -/
theorem stats_eq (hc : r.cache.Sound) (hc' : r'.cache.Sound)
    (hstanding : ∀ i, r.standing? i = r'.standing? i) (huploaded : r.uploaded = r'.uploaded)
    (hshadows : r.shadows = r'.shadows) (hlights : r.scene.lights = r'.scene.lights)
    (horder : order.Perm order') :
    (r.frameIn order).2.1.main = (r'.frameIn order').2.1.main ∧
      (r.frameIn order).2.1.shadow = (r'.frameIn order').2.1.shadow := by
  have hcollected (labelOf : Standing → Option (ProgramKey × List UInt32)) :
      (order.filterMap fun i ↦ (r.standing? i).bind labelOf).Perm
        (order'.filterMap fun i ↦ (r'.standing? i).bind labelOf) := by
    simp only [hstanding]
    exact horder.filterMap _
  have hdraws : (((DrawState.ready (r.batchIn order)).map ReadyDraw.label).map
        (Prod.map r.cache.keyOf id)).Perm
      (((DrawState.ready (r'.batchIn order')).map ReadyDraw.label).map
        (Prod.map r'.cache.keyOf id)) := by
    refine (r.perm_draws order).trans (.trans ?_ (r'.perm_draws order').symm)
    rw [huploaded]
    exact hcollected _
  have hcasts : (((r.castersIn order).reduceOption.map ReadyCaster.label).map
        (Prod.map r.cache.keyOf id)).Perm
      (((r'.castersIn order').reduceOption.map ReadyCaster.label).map
        (Prod.map r'.cache.keyOf id)) := by
    refine (r.perm_casts order).trans (.trans ?_ (r'.perm_casts order').symm)
    rw [huploaded]
    exact hcollected _
  have hcount : (order.filterMap fun i ↦ (r.drawables.get? i).map (i, ·)).length =
      (order'.filterMap fun i ↦ (r'.drawables.get? i).map (i, ·)).length := by
    have hsome (i : DrawableId) : ((r.drawables.get? i).map (i, ·)).isSome =
        ((r'.drawables.get? i).map (i, ·)).isSome := by
      simpa [standing?] using congrArg Option.isSome (hstanding i)
    rw [List.length_filterMap_eq_countP, List.length_filterMap_eq_countP]
    simp only [hsome]
    exact horder.countP_eq _
  have hskippedDraws : (r.batchIn order).countP (·.toOption.isNone) =
      (r'.batchIn order').countP (·.toOption.isNone) := by
    have hlength := hdraws.length_eq
    simp only [List.length_map] at hlength
    rw [countP_isNone, countP_isNone]
    show (r.batchIn order).length - (DrawState.ready _).length =
      (r'.batchIn order').length - (DrawState.ready _).length
    rw [hlength, length_batchIn, length_batchIn, hcount]
  have hskippedCasts : (r.castersIn order).countP (·.isNone) =
      (r'.castersIn order').countP (·.isNone) := by
    have hlength := hcasts.length_eq
    simp only [List.length_map] at hlength
    have hskipped (casters : List (Option ReadyCaster)) :
        casters.countP (·.isNone) = casters.length - casters.reduceOption.length :=
      countP_isNone id casters
    rw [hskipped, hskipped, hlength, length_castersIn, length_castersIn, hcount]
  constructor
  · rw [main_frameIn, main_frameIn, hskippedDraws]
    exact congrArg _ ((ranked_draws hc order).counts_eq (ranked_draws hc' order') hdraws _).1
  · rw [shadow_frameIn, shadow_frameIn, hshadows, hlights]
    refine ShadowRenderer.stats_renderMaps ?_ _ _ _
    rw [hskippedCasts]
    exact ((ranked_casts hc order).counts_eq (ranked_casts hc' order') hcasts _).2

end Counters

end Renderer

end SceneRenderer
