import Mathlib.Data.Nat.Count
import SceneRenderer.Proofs.Frame.SortedBatches
import SceneRenderer.Proofs.Renderer.UpToDate

/-!
What the counters of a frame say. In a sorted batch the draws of a program stand together, and so do
its draws of a material: programs and materials are bound once each. Transforms and geometries come
again, so that they are bound where they differ from the draw before (`exactCounts_pass`).

The counters of the main pass of a frame are exact, for whatever programs there are and in whatever
order sorting leaves entries with equal keys. Of a renderer, each drawable is drawn or skipped.
-/

set_option autoImplicit false
set_option relaxedAutoImplicit false

namespace SceneRenderer

open Shader

/-! ### Changes of a label in a sorted list -/

section Changes

variable {α β : Type} [DecidableEq β]

theorem changes_le_length (before : Option β) (labels : List β) :
    changes before labels ≤ labels.length := by
  induction labels generalizing before with
  | nil => exact Nat.le_refl 0
  | cons b rest ih =>
    rw [changes, List.length_cons, Nat.add_comm]
    refine Nat.add_le_add (ih _) ?_
    split
    · exact Nat.zero_le 1
    · exact Nat.le_refl 1

theorem changes_concat (before : Option β) (labels : List β) (b : β) :
    changes before (labels ++ [b]) =
      changes before labels + if (labels.getLast?.or before) = some b then 0 else 1 := by
  induction labels generalizing before with
  | nil => rw [List.nil_append, changes, changes, changes, Nat.add_comm]; rfl
  | cons c rest ih =>
    rw [List.cons_append, changes, changes, ih, Nat.add_assoc, List.getLast?_cons]
    cases rest.getLast? <;> rfl

/-- Labels that stand together where they are equal change once each. -/
theorem changes_eq_card {key : α → List UInt32} {f : α → β} {items : List α}
    (hsorted : items.Pairwise fun a b ↦ key a ≤ key b)
    (hlabel : ∀ a ∈ items, ∀ b ∈ items, key a = key b ↔ f a = f b) :
    changes none (items.map f) = (items.map f).toFinset.card := by
  suffices hafter : ∀ a rest, (a :: rest).Pairwise (fun a b ↦ key a ≤ key b) →
      (∀ b ∈ a :: rest, ∀ c ∈ a :: rest, key b = key c ↔ f b = f c) →
      changes (some (f a)) (rest.map f) = ((rest.map f).toFinset.erase (f a)).card by
    cases items with
    | nil => rfl
    | cons a rest =>
      rw [List.map_cons, changes, hafter a rest hsorted hlabel, if_neg (Option.some_ne_none _).symm,
        List.toFinset_cons, ← Finset.card_erase_add_one (Finset.mem_insert_self _ _), Nat.add_comm,
        Finset.erase_insert_eq_erase]
  intro a rest
  induction rest generalizing a with
  | nil => exact fun _ _ ↦ rfl
  | cons b rest ih =>
    intro hsorted hlabel
    obtain ⟨hfirst, hrest⟩ := List.pairwise_cons.mp hsorted
    have hnow := ih b hrest fun c hc d hd ↦
      hlabel c (List.mem_cons_of_mem _ hc) d (List.mem_cons_of_mem _ hd)
    rw [List.map_cons, changes, hnow, List.toFinset_cons]
    by_cases hsame : f a = f b
    · rw [if_pos (congrArg some hsame), hsame, Finset.erase_insert_eq_erase, Nat.zero_add]
    · -- A label that is over does not come again.
      have hover : f a ∉ (rest.map f).toFinset := by
        intro hmem
        obtain ⟨c, hc, hca⟩ := List.mem_map.mp (List.mem_toFinset.mp hmem)
        have hkey : key c = key a := (hlabel c (by simp [hc]) a (by simp)).mpr hca
        have hle : key b ≤ key a := hkey ▸ (List.pairwise_cons.mp hrest).1 c hc
        exact hsame ((hlabel a (by simp) b (by simp)).mp
          (List.le_antisymm (hfirst b List.mem_cons_self) hle))
      rw [if_neg fun h ↦ hsame (Option.some.inj h), Finset.erase_insert_of_ne (Ne.symm hsame),
        Finset.erase_eq_of_notMem hover, ← Finset.card_erase_add_one (Finset.mem_insert_self _ _),
        Finset.erase_insert_eq_erase, Nat.add_comm]

end Changes

theorem take_le_take {l l' : List UInt32} (hle : l ≤ l') (n : Nat) : l.take n ≤ l'.take n := by
  induction n generalizing l l' with
  | zero => exact List.le_refl []
  | succ n ih =>
    cases l with
    | nil => exact List.nil_le _
    | cons a rest =>
      cases l' with
      | nil => exact absurd (List.nil_lt_cons a rest) hle
      | cons b rest' =>
        rw [List.take_succ_cons, List.take_succ_cons]
        rcases List.cons_le_cons_iff.mp hle with hlt | ⟨heq, hrest⟩
        · exact List.cons_le_cons_iff.mpr (.inl hlt)
        · exact List.cons_le_cons_iff.mpr (.inr ⟨heq, ih hrest⟩)

/-! ### The entries that are drawn -/

/-- The entries of a batch that are drawn. -/
def drawnOf (cache : ProgramCache) (sorted : List DrawEntry) : List DrawEntry :=
  sorted.filter fun e ↦ e.IsDrawn cache

/-- An entry is the first one with its program, or carries another identity than the one before
it. -/
def BindsAnew {ι : Type} (identity : DrawEntry → ι) (drawn : List DrawEntry) (i : Nat) : Prop :=
  (∀ j < i, drawn[j]?.map (·.program) ≠ drawn[i]?.map (·.program)) ∨
    0 < i ∧ drawn[i - 1]?.map identity ≠ drawn[i]?.map identity

instance {ι : Type} [DecidableEq ι] (identity : DrawEntry → ι) (drawn : List DrawEntry) :
    DecidablePred (BindsAnew identity drawn) := fun _ ↦ inferInstanceAs (Decidable (_ ∨ _))

/-- The counters of a pass over a sorted batch. -/
structure ExactCounts (cache : ProgramCache) (sorted : List DrawEntry) (stats : FrameStats) :
    Prop where
  skipped : stats.skipped.toNat = sorted.countP fun e ↦ ¬e.IsDrawn cache
  draws : stats.draws.toNat = (drawnOf cache sorted).length
  programBinds : stats.programBinds.toNat =
    ((drawnOf cache sorted).map (·.program)).toFinset.card
  materialBinds : stats.materialBinds.toNat =
    ((drawnOf cache sorted).map fun e ↦ (e.program, e.material.id)).toFinset.card
  transformBinds : stats.transformBinds.toNat =
    Nat.count (BindsAnew (·.transform.id) (drawnOf cache sorted)) (drawnOf cache sorted).length
  geometryBinds : stats.geometryBinds.toNat =
    Nat.count (BindsAnew (·.geometry) (drawnOf cache sorted)) (drawnOf cache sorted).length

/-- Entries whose draws of one program stand together. -/
structure Contiguous (drawn : List DrawEntry) : Prop where
  ascending : drawn.Pairwise fun a b ↦ a.sortKey ≤ b.sortKey
  program : ∀ a ∈ drawn, ∀ b ∈ drawn, slotKey a.program = slotKey b.program → a.program = b.program

namespace Contiguous

variable {drawn : List DrawEntry}

theorem programs (hdrawn : Contiguous drawn) :
    changes none (drawn.map (·.program)) = (drawn.map (·.program)).toFinset.card :=
  changes_eq_card (hdrawn.ascending.imp fun hab ↦ take_le_take hab 1) fun a ha b hb ↦
    ⟨fun hkey ↦ hdrawn.program a ha b hb (List.cons.inj hkey).1,
      fun hprogram ↦ by simp [DrawEntry.sortKey, hprogram]⟩

theorem materials (hdrawn : Contiguous drawn) :
    changes none (drawn.map fun e ↦ (e.program, e.material.id)) =
      (drawn.map fun e ↦ (e.program, e.material.id)).toFinset.card := by
  refine changes_eq_card (hdrawn.ascending.imp fun hab ↦ take_le_take hab 2) fun a ha b hb ↦ ?_
  rw [Prod.mk.injEq]
  constructor
  · intro hkey
    obtain ⟨hslot, hids⟩ := List.cons.inj hkey
    exact ⟨hdrawn.program a ha b hb hslot, congrArg MaterialId.mk (List.cons.inj hids).1⟩
  · rintro ⟨hprogram, hmaterial⟩
    simp [DrawEntry.sortKey, hprogram, hmaterial]

theorem of_append {front back : List DrawEntry} (hdrawn : Contiguous (front ++ back)) :
    Contiguous front :=
  ⟨(List.pairwise_append.mp hdrawn.ascending).1, fun a ha b hb ↦
    hdrawn.program a (List.mem_append_left _ ha) b (List.mem_append_left _ hb)⟩

/-- The last entry is the first one with its program, or carries another identity, just if its label
is not the one before. -/
theorem bindsAnew_last {ι : Type} (identity : DrawEntry → ι) {front : List DrawEntry}
    {e : DrawEntry} (hdrawn : Contiguous (front ++ [e])) :
    BindsAnew identity (front ++ [e]) front.length ↔
      (front.map fun e ↦ (e.program, identity e)).getLast? ≠ some (e.program, identity e) := by
  rcases List.eq_nil_or_concat front with rfl | ⟨init, last, rfl⟩
  · simp [BindsAnew]
  · rw [List.concat_eq_append] at hdrawn ⊢
    have hbefore : ∀ a ∈ init, a.program = e.program → last.program = e.program := by
      intro a ha hprogram
      obtain ⟨hfront, _, hlast⟩ := List.pairwise_append.mp hdrawn.ascending
      have hfirst := take_le_take ((List.pairwise_append.mp hfront).2.2 a ha last (by simp)) 1
      have hsecond := take_le_take (hlast last (by simp) e (by simp)) 1
      have hslot : [slotKey last.program] = [slotKey e.program] := by
        refine List.le_antisymm hsecond ?_
        rw [← hprogram]
        exact hfirst
      exact hdrawn.program last (by simp) e (by simp) (List.cons.inj hslot).1
    have hbeforeLast : (init ++ [last] ++ [e])[(init ++ [last]).length - 1]? = some last := by
      simp
    have hlast : (init ++ [last] ++ [e])[(init ++ [last]).length]? = some e := by
      simp
    have hlabel : ((init ++ [last]).map fun e ↦ (e.program, identity e)).getLast? =
        some (last.program, identity last) := by
      simp
    unfold BindsAnew
    rw [hbeforeLast, hlast, hlabel]
    simp only [Option.map_some, ne_eq, Option.some.injEq, Prod.mk.injEq, not_and_or]
    refine or_congr ⟨fun hfirst hprogram ↦ ?_, fun hdiffers j hj hprogram ↦ ?_⟩ (and_iff_right ?_)
    · refine hfirst init.length (by simp) ?_
      simp [hprogram]
    · rw [List.getElem?_append_left hj] at hprogram
      obtain ⟨a, ha, hae⟩ := Option.map_eq_some_iff.mp hprogram
      rcases List.mem_append.mp (List.mem_of_getElem? ha) with hinit | hlast
      · exact hdiffers (hbefore a hinit hae)
      · rw [List.mem_singleton.mp hlast] at hae
        exact hdiffers hae
    · simp

/-- A label changes where an entry is the first one with its program or carries another identity. -/
theorem changes_eq_count {ι : Type} [DecidableEq ι] (identity : DrawEntry → ι)
    (hdrawn : Contiguous drawn) :
    changes none (drawn.map fun e ↦ (e.program, identity e)) =
      Nat.count (BindsAnew identity drawn) drawn.length := by
  induction drawn using List.reverseRecOn with
  | nil => rfl
  | append_singleton front e ih =>
    have hkept : ∀ i < front.length,
        (BindsAnew identity (front ++ [e]) i ↔ BindsAnew identity front i) := by
      intro i hi
      have hbefore : (front ++ [e])[i - 1]? = front[i - 1]? :=
        List.getElem?_append_left (by omega)
      unfold BindsAnew
      rw [List.getElem?_append_left hi, hbefore]
      refine or_congr_left (forall_congr' fun j ↦ imp_congr_right fun hj ↦ ?_)
      rw [List.getElem?_append_left (by omega)]
    have hcount : Nat.count (BindsAnew identity (front ++ [e])) front.length =
        Nat.count (BindsAnew identity front) front.length := by
      rw [Nat.count_eq_card_filter_range, Nat.count_eq_card_filter_range]
      exact congrArg Finset.card (Finset.filter_congr fun i hi ↦ hkept i (Finset.mem_range.mp hi))
    rw [List.map_append, List.map_singleton, changes_concat, ih hdrawn.of_append,
      List.length_append, List.length_singleton, Nat.count_succ, hcount, Option.or_none]
    refine congrArg _ ?_
    by_cases hlast : (front.map fun e ↦ (e.program, identity e)).getLast? =
        some (e.program, identity e)
    · rw [if_pos hlast, if_neg fun hanew ↦ (hdrawn.bindsAnew_last identity).mp hanew hlast]
    · rw [if_neg hlast, if_pos ((hdrawn.bindsAnew_last identity).mpr hlast)]

end Contiguous

section Drawn

variable {cache : ProgramCache} {entries sorted : List DrawEntry}

/-- What can be read off the draws of a batch can be read off the entries that are drawn. -/
theorem map_drawnOf {β : Type} (f : DrawEntry → β) (f' : ReadyDraw → β)
    (hread : ∀ e d, e.resolve cache = .ok d → f e = f' d) (sorted : List DrawEntry) :
    (drawnOf cache sorted).map f =
      (DrawState.ready (sorted.map (DrawEntry.resolve cache))).map f' := by
  rw [DrawState.ready_map_resolve]
  induction sorted with
  | nil => rfl
  | cons e rest ih =>
    rw [drawnOf] at ih ⊢
    rcases hresolve : e.resolve cache with reason | d
    · have hskipped : ¬e.IsDrawn cache := by
        rw [DrawEntry.isDrawn_iff, hresolve]
        exact Bool.false_ne_true
      rw [List.filter_cons_of_neg (by simpa using hskipped), ih,
        List.filterMap_cons_none (by rw [hresolve]; rfl)]
    · have hdrawn : e.IsDrawn cache := DrawEntry.isDrawn_iff.mpr (by rw [hresolve]; rfl)
      rw [List.filter_cons_of_pos (by simpa using hdrawn), List.map_cons, ih,
        List.filterMap_cons_some (b := d) (by rw [hresolve]; rfl), List.map_cons,
        hread e d hresolve]

/-- Two labels that tell the same draws apart change as often. -/
theorem changes_ready {β γ : Type} [DecidableEq β] [DecidableEq γ] (f : DrawEntry → β)
    (f' : ReadyDraw → β) {f'' : ReadyDraw → γ} (hread : ∀ e d, e.resolve cache = .ok d → f e = f' d)
    (hsame : ∀ d d', f' d = f' d' ↔ f'' d = f'' d') (sorted : List DrawEntry) :
    changes none ((DrawState.ready (sorted.map (DrawEntry.resolve cache))).map f'') =
      changes none ((drawnOf cache sorted).map f) := by
  rw [map_drawnOf f f' hread]
  exact (changes_congr none _ fun d d' _ _ ↦ hsame d d').symm

theorem DrawEntry.parts_of_resolve {e : DrawEntry} {d : ReadyDraw}
    (hresolve : e.resolve cache = .ok d) :
    e.program = some d.handle ∧ e.material = d.material ∧ e.transform = d.transform ∧
      e.geometry = d.geometry := by
  obtain ⟨_, _, _, hhandle, _, _, _, hready⟩ := DrawEntry.resolve_ok hresolve
  rw [hready]
  exact ⟨hhandle, rfl, rfl, rfl⟩

theorem programBinds_ready (cache : ProgramCache) (sorted : List DrawEntry) :
    programBinds none
        ((DrawState.ready (sorted.map (DrawEntry.resolve cache))).map ReadyDraw.label) =
      changes none ((drawnOf cache sorted).map (·.program)) := by
  unfold programBinds
  rw [List.map_map]
  exact changes_ready _ (fun d ↦ some d.handle) (fun e d h ↦ (DrawEntry.parts_of_resolve h).1)
    (fun d d' ↦ Option.some_inj) sorted

theorem bindsAt_ready (cache : ProgramCache) {ι : Type} [DecidableEq ι] (i : Nat)
    (identity : DrawEntry → ι) (identity' : ReadyDraw → ι)
    (hread : ∀ e d, e.resolve cache = .ok d → identity e = identity' d)
    (hsame : ∀ d d', identity' d = identity' d' ↔ d.label.2[i]? = d'.label.2[i]?)
    (sorted : List DrawEntry) :
    bindsAt i none
        ((DrawState.ready (sorted.map (DrawEntry.resolve cache))).map ReadyDraw.label) =
      changes none ((drawnOf cache sorted).map fun e ↦ (e.program, identity e)) := by
  unfold bindsAt
  rw [List.map_map]
  refine changes_ready _ (fun d ↦ (some d.handle, identity' d)) (fun e d h ↦ ?_) (fun d d' ↦ ?_)
    sorted
  · rw [(DrawEntry.parts_of_resolve h).1, hread e d h]
  · simp only [Function.comp_apply, Prod.mk.injEq, hsame d d', Option.some_inj]
    rfl

theorem length_drawnOf (cache : ProgramCache) (sorted : List DrawEntry) :
    (drawnOf cache sorted).length =
      (DrawState.ready (sorted.map (DrawEntry.resolve cache))).length := by
  have hread (e : DrawEntry) (d : ReadyDraw) (_ : e.resolve cache = .ok d) : () = () := rfl
  have hmap := map_drawnOf (fun _ ↦ ()) (fun _ ↦ ()) hread sorted
  simpa using congrArg List.length hmap

theorem contiguous_drawnOf (hsorted : SortsTo entries sorted) :
    Contiguous (drawnOf cache sorted) := by
  refine ⟨hsorted.ascending.filter _, fun a ha b hb hslot ↦ ?_⟩
  obtain ⟨⟨h, _, hhandle, hkey⟩, _⟩ := of_decide_eq_true (List.mem_filter.mp ha).2
  obtain ⟨⟨h', _, hhandle', hkey'⟩, _⟩ := of_decide_eq_true (List.mem_filter.mp hb).2
  obtain ⟨e, he, _⟩ := Option.map_eq_some_iff.mp hkey
  obtain ⟨e', he', _⟩ := Option.map_eq_some_iff.mp hkey'
  rw [hhandle, hhandle'] at hslot ⊢
  rw [ProgramCache.handle_eq _ he he' hslot]

theorem countP_not_isDrawn (cache : ProgramCache) (sorted : List DrawEntry) :
    (drawnOf cache sorted).length + sorted.countP (fun e ↦ ¬e.IsDrawn cache) = sorted.length := by
  rw [drawnOf, ← List.countP_eq_length_filter]
  simpa using
    (List.length_eq_countP_add_countP (fun e : DrawEntry ↦ decide (e.IsDrawn cache))).symm

end Drawn

theorem FrameStats.zero_add (s : FrameStats) : zero + s = s := by
  show FrameStats.mk _ _ _ _ _ _ = s
  simp [zero]

namespace DrawRenderer

theorem stats_pass (r : DrawRenderer) (cache : ProgramCache) (g : FrameGlobals)
    (sorted : List DrawEntry) : (r.pass cache g sorted).2 =
      DrawState.counts none
        ((DrawState.ready (sorted.map (DrawEntry.resolve cache))).map ReadyDraw.label)
        ((sorted.map (DrawEntry.resolve cache)).countP (·.toOption.isNone)) := by
  rw [← FrameStats.zero_add (DrawState.counts _ _ _)]
  have hstart : (DrawState.start r.maxTextureUnits).bound = DrawState.boundTo none := rfl
  exact DrawState.stats_drawAll hstart _

/-- Each entry is drawn or skipped. -/
theorem draws_add_skipped_pass (r : DrawRenderer) (cache : ProgramCache) (g : FrameGlobals)
    (sorted : List DrawEntry) :
    (r.pass cache g sorted).2.draws + (r.pass cache g sorted).2.skipped =
      UInt32.ofNat sorted.length := by
  rw [stats_pass, DrawState.counts, List.length_map, ← length_drawnOf, countP_resolve]
  show UInt32.ofNat _ + UInt32.ofNat _ = _
  rw [← UInt32.ofNat_add, countP_not_isDrawn]

/-- A pass over a sorted batch counts exactly. -/
theorem exactCounts_pass {cache : ProgramCache} {entries sorted : List DrawEntry}
    (hsorted : SortsTo entries sorted) (hfew : entries.length < UInt32.size) (r : DrawRenderer)
    (g : FrameGlobals) : ExactCounts cache sorted (r.pass cache g sorted).2 := by
  have hcontiguous : Contiguous (drawnOf cache sorted) := contiguous_drawnOf hsorted
  have hcounts : (drawnOf cache sorted).length + sorted.countP (fun e ↦ ¬e.IsDrawn cache) <
      UInt32.size := by
    rw [countP_not_isDrawn, hsorted.perm.length_eq]
    exact hfew
  have hsmall {β : Type} [DecidableEq β] (f : DrawEntry → β) :
      (UInt32.ofNat (changes none ((drawnOf cache sorted).map f))).toNat =
        changes none ((drawnOf cache sorted).map f) := by
    refine UInt32.toNat_ofNat_of_lt' ((changes_le_length none _).trans_lt ?_)
    rw [List.length_map]
    exact (Nat.le_add_right _ _).trans_lt hcounts
  have hprograms := programBinds_ready cache sorted
  have hmaterials := bindsAt_ready cache 0 (·.material.id) (·.material.id)
    (fun e d h ↦ by rw [(DrawEntry.parts_of_resolve h).2.1])
    (fun d d' ↦ by simpa [ReadyDraw.label] using ⟨congrArg MaterialId.raw, congrArg MaterialId.mk⟩)
    sorted
  have htransforms := bindsAt_ready cache 1 (·.transform.id) (·.transform.id)
    (fun e d h ↦ by rw [(DrawEntry.parts_of_resolve h).2.2.1])
    (fun d d' ↦ by
      simpa [ReadyDraw.label] using ⟨congrArg TransformId.raw, congrArg TransformId.mk⟩)
    sorted
  have hgeometries := bindsAt_ready cache 2 (·.geometry) (·.geometry)
    (fun e d h ↦ (DrawEntry.parts_of_resolve h).2.2.2)
    (fun d d' ↦ by simpa [ReadyDraw.label] using ⟨congrArg GeometryId.raw, congrArg GeometryId.mk⟩)
    sorted
  rw [stats_pass, DrawState.counts, hprograms, hmaterials, htransforms, hgeometries,
    List.length_map, ← length_drawnOf, countP_resolve]
  constructor
  · exact UInt32.toNat_ofNat_of_lt' ((Nat.le_add_left _ _).trans_lt hcounts)
  · exact UInt32.toNat_ofNat_of_lt' ((Nat.le_add_right _ _).trans_lt hcounts)
  · exact (hsmall _).trans hcontiguous.programs
  · exact (hsmall _).trans hcontiguous.materials
  · exact (hsmall _).trans (hcontiguous.changes_eq_count _)
  · exact (hsmall _).trans (hcontiguous.changes_eq_count _)

end DrawRenderer

/-! ### The frames of a renderer -/

open ProgramCache

variable {δ : Type}

theorem ExactCounts.draws_add_skipped {cache : ProgramCache} {sorted : List DrawEntry}
    {stats : FrameStats} (hstats : ExactCounts cache sorted stats) :
    stats.draws.toNat + stats.skipped.toNat = sorted.length := by
  rw [hstats.draws, hstats.skipped]
  exact countP_not_isDrawn cache sorted

namespace Renderer

/-- The entries of a frame that collects drawables in some order. -/
def entriesIn (r : Renderer δ) (order : List DrawableId) : List DrawEntry :=
  (order.filterMap fun id ↦ (r.drawables.get? id).map (id, ·)).map fun s ↦ r.entryOf s.1 s.2

/-- Each drawable has one entry. -/
theorem length_entriesIn {r : Renderer δ} {order : List DrawableId}
    (horder : order.Perm r.drawables.keys) : (r.entriesIn order).length = r.drawables.size := by
  rw [entriesIn, List.length_map, List.length_filterMap_eq_countP,
    List.countP_eq_length.mpr fun id hid ↦ ?_, horder.length_eq]
  · exact List.length_map _
  · obtain ⟨s, hs⟩ :=
      Registry.contains_iff.mpr (horder.mem_iff.mp hid) |> Option.isSome_iff_exists.mp
    rw [hs]
    rfl

variable [Device δ] {alive : δ → ProgramId → Prop} {r : Renderer δ}

/-- The main pass of a frame goes over the entries of the compiled renderer. -/
theorem main_renderIn {visits order : List DrawableId} {report : FrameReport}
    {rendered : Renderer δ} (hrender : r.renderIn visits order = .ok (report, rendered)) :
    ∃ failures compiled, r.compileIn visits = .ok (failures, compiled) ∧
      report.main = (compiled.draws.pass compiled.cache compiled.globals
        (sortByKey DrawEntry.sortKey (compiled.entriesIn order))).2 := by
  unfold Renderer.renderIn at hrender
  rcases hcompile : r.compileIn visits with fault | ⟨failures, compiled⟩
  · rw [hcompile] at hrender
    exact absurd hrender nofun
  · rw [hcompile] at hrender
    cases hrender
    exact ⟨failures, compiled, rfl, rfl⟩

/-- Sorting leaves a batch in ascending order, and in whatever order it leaves entries with equal
keys, the counters of the pass are exact. In a renderer that operations led to, a frame draws or
skips each drawable once. -/
theorem reached_counts (hdevice : KeepsPrograms alive) {device : δ} {config : RendererConfig}
    {ops : List Operation} (hreached : Reached device config ops r) {visits order : List DrawableId}
    (horder : order.Perm r.drawables.keys) :
    (∀ (draws : DrawRenderer) (cache : ProgramCache) (g : FrameGlobals) (entries : List DrawEntry),
      entries.length < UInt32.size →
      SortsTo entries (sortByKey DrawEntry.sortKey entries) ∧
      (draws.render cache g entries).1.stats =
        (draws.pass cache g (sortByKey DrawEntry.sortKey entries)).2 ∧
      ∀ sorted, SortsTo entries sorted →
        ExactCounts cache sorted (draws.pass cache g sorted).2) ∧
    (r.config.shaderOptions.kernelRadius ≤ Shader.maxKernelRadius →
      r.drawables.size < UInt32.size →
      ∃ report rendered, r.renderIn visits order = .ok (report, rendered)) ∧
    ∀ report rendered, r.renderIn visits order = .ok (report, rendered) →
      report.main.draws + report.main.skipped = UInt32.ofNat r.drawables.size ∧
      (r.drawables.size < UInt32.size →
        report.main.draws.toNat + report.main.skipped.toNat = r.drawables.size) := by
  refine ⟨fun draws cache g entries hfew ↦ ⟨sortsTo_sortByKey entries, rfl, fun sorted hsorted ↦
    draws.exactCounts_pass hsorted hfew g⟩, fun hradius hsize ↦ ?_,
    fun report rendered hrender ↦ ?_⟩
  · obtain ⟨failures, compiled, hcompile⟩ :=
      (hreached.consistent hdevice).exists_compileIn hdevice hradius hsize visits
    unfold renderIn
    rw [hcompile]
    exact ⟨_, _, rfl⟩
  · obtain ⟨failures, compiled, hcompile, hmain⟩ := main_renderIn hrender
    have hkeys := keys_compileIn hcompile
    have hsize : compiled.drawables.size = r.drawables.size := by
      have hlength := congrArg List.length hkeys
      rwa [Registry.keys, Registry.keys, List.length_map, List.length_map] at hlength
    have hlength := length_entriesIn (hkeys.symm ▸ horder : order.Perm compiled.drawables.keys)
    have hsorts := sortsTo_sortByKey (compiled.entriesIn order)
    rw [hsize, ← hsorts.perm.length_eq] at hlength
    rw [hmain]
    refine ⟨?_, fun hfew ↦ ?_⟩
    · rw [DrawRenderer.draws_add_skipped_pass, hlength]
    · rw [← hlength, hsorts.perm.length_eq] at hfew
      rw [(compiled.draws.exactCounts_pass hsorts hfew _).draws_add_skipped, hlength]

/-- Two drawables with one material, and of a batch by itself two entries that differ in their
transforms and a stale one. -/
theorem reached_counts_twins :
    KeepsPrograms Recorder.Alive ∧ ∃ r rendered : Renderer Recorder, ∃ report,
      Reached .standard .standard [.addDrawable (twin ⟨2⟩), .addDrawable (twin ⟨1⟩)] r ∧
        [⟨2⟩, ⟨1⟩].Perm r.drawables.keys ∧
        r.renderIn [⟨1⟩, ⟨2⟩] [⟨2⟩, ⟨1⟩] = .ok (report, rendered) ∧
        report.main.draws.toNat + report.main.skipped.toNat = 2 ∧
      ∃ cache h, cache.key? h = some (.draw default) ∧
        let first : DrawEntry := ⟨⟨1⟩, some h, default, ⟨⟨1⟩, .identity⟩, ⟨7⟩, some default⟩
        let second : DrawEntry := ⟨⟨2⟩, some h, default, ⟨⟨2⟩, .identity⟩, ⟨7⟩, some default⟩
        let stale : DrawEntry :=
          { first with drawable := ⟨3⟩, program := some ⟨h.index, h.generation + 1⟩ }
        SortsTo [second, first, stale] [first, stale, second] ∧
        ExactCounts cache [first, stale, second]
          ((DrawRenderer.new 8).pass cache default [first, stale, second]).2 := by
  obtain ⟨r, hreached, hkeys, hsize, hradius⟩ : ∃ r : Renderer Recorder,
      Reached .standard .standard [.addDrawable (twin ⟨2⟩), .addDrawable (twin ⟨1⟩)] r ∧
        r.drawables.keys = [⟨1⟩, ⟨2⟩] ∧ r.drawables.size = 2 ∧
        r.config.shaderOptions.kernelRadius ≤ Shader.maxKernelRadius :=
    ⟨_, .perform (.perform .new _ rfl) _ rfl, rfl, rfl, by decide⟩
  have horder : [⟨2⟩, ⟨1⟩].Perm r.drawables.keys := by
    rw [hkeys]
    exact .swap _ _ _
  obtain ⟨hbatch, hresult, hframe⟩ := reached_counts Recorder.keepsPrograms hreached horder
  obtain ⟨report, rendered, hrender⟩ := hresult hradius (hsize ▸ by decide)
  obtain ⟨_, hsum⟩ := hframe report rendered hrender
  rw [hsize] at hsum
  obtain ⟨cache, h, e, _, he, hkey⟩ := ProgramCache.exists_acquired (.draw default)
  refine ⟨Recorder.keepsPrograms, r, rendered, report, hreached, horder, hrender, hsum (by decide),
    cache, h, by rw [ProgramCache.key?, he, Option.map_some, hkey], ?_⟩
  intro first second stale
  have hsorted : SortsTo [second, first, stale] [first, stale, second] := by
    refine ⟨(List.perm_append_comm : ([first, stale] ++ [second]).Perm
      ([second] ++ [first, stale])), ?_⟩
    simp [first, second, stale, DrawEntry.sortKey, slotKey, List.cons_le_cons_iff]
  have hfew : [second, first, stale].length < UInt32.size := by
    rw [List.length_cons, List.length_cons, List.length_singleton]
    decide
  exact ⟨hsorted, (hbatch (.new 8) cache default _ hfew).2.2 _ hsorted⟩

end Renderer

end SceneRenderer
