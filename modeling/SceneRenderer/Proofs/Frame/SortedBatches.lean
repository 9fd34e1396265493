import SceneRenderer.Proofs.Frame.PassCounts
import SceneRenderer.Proofs.Frame.UnitLimit

/-!
The orders in which sorting may leave a batch. Its keys tell neither generations of handles nor
whether an entry can be drawn, so that entries with equal keys may stand in any order; but of these
the ones that are drawn have one program. If identities stand for what is carried under them, any
two orders draw the same.
-/

set_option autoImplicit false
set_option relaxedAutoImplicit false

namespace SceneRenderer

open Shader ProgramCache

/-- An order in which sorting may leave a batch; entries with equal keys stand in any order. -/
structure SortsTo (entries sorted : List DrawEntry) : Prop where
  perm : sorted.Perm entries
  ascending : sorted.Pairwise fun a b ↦ a.sortKey ≤ b.sortKey

theorem sortsTo_sortByKey (entries : List DrawEntry) :
    SortsTo entries (sortByKey DrawEntry.sortKey entries) :=
  ⟨List.mergeSort_perm _ _, sortByKey_pairwise _ _⟩

theorem SortsTo.of_perm {entries entries' sorted : List DrawEntry} (hperm : entries.Perm entries')
    (hsorted : SortsTo entries sorted) : SortsTo entries' sorted :=
  ⟨hsorted.perm.trans hperm, hsorted.ascending⟩

/-- The commands and the counters of a pass over entries as they stand. -/
def DrawRenderer.pass (r : DrawRenderer) (cache : ProgramCache) (g : FrameGlobals)
    (sorted : List DrawEntry) : List Command × FrameStats :=
  let (commands, s) := (DrawState.start r.maxTextureUnits).drawAll r.maxTextureUnits g
    (sorted.map (DrawEntry.resolve cache))
  (commands, s.stats)

theorem DrawRenderer.pass_sortByKey (r : DrawRenderer) (cache : ProgramCache) (g : FrameGlobals)
    (entries : List DrawEntry) :
    r.pass cache g (sortByKey DrawEntry.sortKey entries) =
      ((r.render cache g entries).1.commands, (r.render cache g entries).1.stats) := rfl

/-! ### What is drawn of a batch -/

namespace DrawEntry

variable {cache : ProgramCache} {entry entry' : DrawEntry}

/-- An entry is drawn that has the handle of a live draw program, and buffers. -/
def IsDrawn (cache : ProgramCache) (entry : DrawEntry) : Prop :=
  (∃ h features, entry.program = some h ∧ cache.key? h = some (.draw features)) ∧
    entry.buffers.isSome = true

theorem isDrawn_iff : entry.IsDrawn cache ↔ (entry.resolve cache).toOption.isSome = true := by
  constructor
  · rintro ⟨⟨h, features, hhandle, hkey⟩, hbuffers⟩
    obtain ⟨b, hb⟩ := Option.isSome_iff_exists.mp hbuffers
    obtain ⟨e, he, hkey⟩ := Option.map_eq_some_iff.mp hkey
    rw [resolve_eq_ok hhandle he hkey hb]
    rfl
  · intro hsome
    rcases hresolve : entry.resolve cache with reason | d
    · rw [hresolve] at hsome
      exact absurd hsome Bool.false_ne_true
    · obtain ⟨e, features, b, hhandle, he, hkey, hb, _⟩ := resolve_ok hresolve
      refine ⟨⟨d.handle, features, hhandle, ?_⟩, by rw [hb]; rfl⟩
      rw [key?, he, Option.map_some, hkey]

instance : Decidable (entry.IsDrawn cache) := decidable_of_iff _ isDrawn_iff.symm

/-- An entry that is drawn has the key of its draw. -/
theorem sortKey_of_resolve {d : ReadyDraw} (hresolve : entry.resolve cache = .ok d) :
    entry.sortKey = d.label.1.index :: d.label.2 := by
  obtain ⟨_, _, _, hhandle, _, _, _, hready⟩ := resolve_ok hresolve
  rw [sortKey, hhandle, hready]
  rfl

/-- Draws of one slot have one program. -/
theorem handle_eq_of_index {d d' : ReadyDraw} (hresolve : entry.resolve cache = .ok d)
    (hresolve' : entry'.resolve cache = .ok d') (hindex : d.handle.index = d'.handle.index) :
    d.handle = d'.handle := by
  obtain ⟨e, _, _, _, he, _⟩ := resolve_ok hresolve
  obtain ⟨e', _, _, _, he', _⟩ := resolve_ok hresolve'
  exact handle_eq _ he he' hindex

end DrawEntry

/-- The identities of a batch stand for what its entries carry under them. -/
structure StandsById (entries : List DrawEntry) : Prop where
  material : ∀ a ∈ entries, ∀ b ∈ entries, a.material.id = b.material.id → a.material = b.material
  transform : ∀ a ∈ entries, ∀ b ∈ entries,
    a.transform.id = b.transform.id → a.transform = b.transform
  buffers : ∀ a ∈ entries, ∀ b ∈ entries, a.geometry = b.geometry → a.buffers = b.buffers

/-- Draws with one label are one draw. -/
theorem StandsById.eq_of_label {entries : List DrawEntry} (hentries : StandsById entries)
    {cache : ProgramCache} {a b : DrawEntry} (ha : a ∈ entries) (hb : b ∈ entries)
    {d d' : ReadyDraw} (hresolve : a.resolve cache = .ok d) (hresolve' : b.resolve cache = .ok d')
    (hlabel : d.label.1.index :: d.label.2 = d'.label.1.index :: d'.label.2) : d = d' := by
  obtain ⟨hindex, hids⟩ := List.cons.inj hlabel
  have hhandle := DrawEntry.handle_eq_of_index hresolve hresolve' hindex
  obtain ⟨e, features, buffers, _, he, hkey, hbuffers, hready⟩ := DrawEntry.resolve_ok hresolve
  obtain ⟨e', features', buffers', _, he', hkey', hbuffers', hready'⟩ :=
    DrawEntry.resolve_ok hresolve'
  rw [hhandle, he'] at he
  obtain rfl : e' = e := Option.some.inj he
  rw [hkey'] at hkey
  obtain rfl : features' = features := ProgramKey.draw.inj hkey
  rw [hready, hready'] at hids
  simp only [ReadyDraw.label, List.cons.injEq, and_true] at hids
  obtain ⟨hmaterial, htransform, hgeometry⟩ := hids
  have hsameGeometry : a.geometry = b.geometry := congrArg GeometryId.mk hgeometry
  have hsameBuffers := hentries.buffers a ha b hb hsameGeometry
  rw [hbuffers, hbuffers'] at hsameBuffers
  rw [hready, hready', hhandle, hentries.material a ha b hb (congrArg MaterialId.mk hmaterial),
    hentries.transform a ha b hb (congrArg TransformId.mk htransform), hsameGeometry,
    Option.some.inj hsameBuffers]

namespace DrawState

variable {cache : ProgramCache} {entries sorted sorted' : List DrawEntry}

theorem ready_map_resolve (cache : ProgramCache) (sorted : List DrawEntry) :
    ready (sorted.map (DrawEntry.resolve cache)) =
      sorted.filterMap fun e ↦ (e.resolve cache).toOption := by
  rw [ready, List.filterMap_map]
  rfl

theorem mem_ready {d : ReadyDraw} (hd : d ∈ ready (sorted.map (DrawEntry.resolve cache))) :
    ∃ entry ∈ sorted, entry.resolve cache = .ok d := by
  rw [ready_map_resolve] at hd
  obtain ⟨entry, hentry, hok⟩ := List.mem_filterMap.mp hd
  refine ⟨entry, hentry, ?_⟩
  rcases hresolve : entry.resolve cache with reason | d'
  · rw [hresolve] at hok
    cases hok
  · rw [hresolve] at hok
    exact congrArg _ (Option.some.inj hok)

/-- The draws of a sorted batch are sorted by their labels. -/
theorem pairwise_ready (hsorted : sorted.Pairwise fun a b ↦ a.sortKey ≤ b.sortKey) :
    (ready (sorted.map (DrawEntry.resolve cache))).Pairwise fun d d' ↦
      d.label.1.index :: d.label.2 ≤ d'.label.1.index :: d'.label.2 := by
  rw [ready_map_resolve, List.pairwise_filterMap]
  refine hsorted.imp fun {a b} hab d hd d' hd' ↦ ?_
  have hok {e : DrawEntry} {d : ReadyDraw} (hd : (e.resolve cache).toOption = some d) :
      e.resolve cache = .ok d := by
    rcases hresolve : e.resolve cache with reason | d'
    · rw [hresolve] at hd
      cases hd
    · rw [hresolve] at hd
      exact congrArg _ (Option.some.inj hd)
  rwa [← DrawEntry.sortKey_of_resolve (hok hd), ← DrawEntry.sortKey_of_resolve (hok hd')]

/-- In whatever order sorting leaves a batch, the same is drawn. -/
theorem ready_eq_of_sortsTo (hentries : StandsById entries) (hsorted : SortsTo entries sorted)
    (hsorted' : SortsTo entries sorted') :
    ready (sorted.map (DrawEntry.resolve cache)) =
      ready (sorted'.map (DrawEntry.resolve cache)) := by
  refine List.Perm.eq_of_pairwise ?_ (pairwise_ready hsorted.ascending)
    (pairwise_ready hsorted'.ascending) ?_
  · intro d d' hd hd' hle hge
    obtain ⟨a, ha, hresolve⟩ := mem_ready hd
    obtain ⟨b, hb, hresolve'⟩ := mem_ready hd'
    exact hentries.eq_of_label (hsorted.perm.mem_iff.mp ha) (hsorted'.perm.mem_iff.mp hb) hresolve
      hresolve' (List.le_antisymm hle hge)
  · rw [ready_map_resolve, ready_map_resolve]
    exact (hsorted.perm.trans hsorted'.perm.symm).filterMap _

/-! ### Skips leave no command -/

variable {maxTextureUnits : UInt32} {g : FrameGlobals} {b b' : DrawState}

/-- The counters have no say in what a draw tells the device and leaves bound. -/
theorem draw_congr (hbound : b.bound = b'.bound) (hunits : b.units = b'.units) (d : ReadyDraw) :
    (b.draw maxTextureUnits g d).1 = (b'.draw maxTextureUnits g d).1 ∧
      (b.draw maxTextureUnits g d).2.bound = (b'.draw maxTextureUnits g d).2.bound ∧
      (b.draw maxTextureUnits g d).2.units = (b'.draw maxTextureUnits g d).2.units := by
  obtain ⟨bound, units, stats⟩ := b
  obtain ⟨bound', units', stats'⟩ := b'
  obtain rfl : bound = bound' := hbound
  obtain rfl : units = units' := hunits
  unfold draw bindProgram bindMaterial bindTransform bindGeometry
  by_cases hhandle : bound.program = some d.handle <;>
    by_cases hmaterial : bound.material = some d.material.id <;>
    by_cases htransform : bound.transform = some d.transform.id <;>
    by_cases hgeometry : bound.geometry = some d.geometry <;>
    simp [hhandle, hmaterial, htransform, hgeometry, BoundState.ofProgram, BoundState.none]

/-- The commands of a pass are those of its draws. -/
theorem drawAll_eq_ready (hbound : b.bound = b'.bound) (hunits : b.units = b'.units)
    (batch : List (Except SkipReason ReadyDraw)) :
    (b.drawAll maxTextureUnits g batch).1 =
      (b'.drawAll maxTextureUnits g ((ready batch).map .ok)).1 := by
  induction batch generalizing b b' with
  | nil => rfl
  | cons entry rest ih =>
    cases entry with
    | error reason => exact ih (b := b.skip) hbound hunits
    | ok d =>
      obtain ⟨hcommands, hbound, hunits⟩ :=
        @draw_congr maxTextureUnits g _ _ hbound hunits d
      show (b.draw maxTextureUnits g d).1 ++ _ = (b'.draw maxTextureUnits g d).1 ++ _
      rw [hcommands]
      exact congrArg _ (ih hbound hunits)

end DrawState

/-! ### The order of submission -/

/-- What is skipped of a batch is what is not drawn. -/
theorem countP_resolve (cache : ProgramCache) (sorted : List DrawEntry) :
    (sorted.map (DrawEntry.resolve cache)).countP (·.toOption.isNone) =
      sorted.countP fun e ↦ ¬ e.IsDrawn cache := by
  rw [List.countP_map]
  refine List.countP_congr fun e _ ↦ ?_
  simp [DrawEntry.isDrawn_iff]

namespace DrawRenderer

variable {entries entries' : List DrawEntry}

/-- The order in which entries are submitted does not matter, nor which of the entries with equal
keys sorting puts first: the device is told the same and the counters are the same. -/
theorem render_eq_of_perm {r r' : DrawRenderer} (hlimit : r.maxTextureUnits = r'.maxTextureUnits)
    (cache : ProgramCache) (g : FrameGlobals) (hperm : entries.Perm entries')
    (hentries : StandsById entries) :
    (∀ sorted sorted', SortsTo entries sorted → SortsTo entries' sorted' →
      r.pass cache g sorted = r'.pass cache g sorted') ∧
    (r.render cache g entries).1.commands = (r'.render cache g entries').1.commands ∧
    (r.render cache g entries).1.stats = (r'.render cache g entries').1.stats := by
  have hpass : ∀ sorted sorted', SortsTo entries sorted → SortsTo entries' sorted' →
      r.pass cache g sorted = r'.pass cache g sorted' := by
    intro sorted sorted' hsorted hsorted'
    have hready : DrawState.ready (sorted.map (DrawEntry.resolve cache)) =
        DrawState.ready (sorted'.map (DrawEntry.resolve cache)) :=
      DrawState.ready_eq_of_sortsTo hentries hsorted (hsorted'.of_perm hperm.symm)
    have hstart : (DrawState.start r'.maxTextureUnits).bound = DrawState.boundTo none := rfl
    unfold pass
    rw [hlimit]
    refine Prod.ext ?_ ?_
    · show (DrawState.drawAll _ _ _ _).1 = (DrawState.drawAll _ _ _ _).1
      rw [DrawState.drawAll_eq_ready rfl rfl, hready, ← DrawState.drawAll_eq_ready rfl rfl]
    · show (DrawState.drawAll _ _ _ _).2.stats = (DrawState.drawAll _ _ _ _).2.stats
      rw [DrawState.stats_drawAll hstart, DrawState.stats_drawAll hstart, hready, countP_resolve,
        countP_resolve, (hsorted.perm.trans (hperm.trans hsorted'.perm.symm)).countP_eq]
  have hsorts := hpass _ _ (sortsTo_sortByKey entries) (sortsTo_sortByKey entries')
  rw [pass_sortByKey, pass_sortByKey] at hsorts
  obtain ⟨hcommands, hstats⟩ := Prod.mk.inj hsorts
  exact ⟨hpass, hcommands, hstats⟩

/-- An entry and one with a stale handle of the same slot have one key, so that sorting may leave
either of them first. -/
theorem render_eq_of_perm_stale :
    ∃ cache h e, ProgramCache.Acquired Recorder .standard cache ∧ cache.entry? h = some e ∧
      e.key = .draw default ∧
      let live : DrawEntry := ⟨⟨1⟩, some h, default, ⟨⟨2⟩, .identity⟩, ⟨7⟩, some default⟩
      let other : DrawEntry := ⟨⟨2⟩, some h, default, ⟨⟨1⟩, .identity⟩, ⟨7⟩, some default⟩
      let stale : DrawEntry :=
        { live with drawable := ⟨3⟩, program := some ⟨h.index, h.generation + 1⟩ }
      let draws := DrawRenderer.new 8
      live.IsDrawn cache ∧ ¬stale.IsDrawn cache ∧ live.sortKey = stale.sortKey ∧
        [live, other, stale].Perm [stale, live, other] ∧ StandsById [live, other, stale] ∧
        SortsTo [live, other, stale] [other, live, stale] ∧
        SortsTo [stale, live, other] [other, stale, live] ∧
        draws.pass cache default [other, live, stale] =
          draws.pass cache default [other, stale, live] ∧
        (draws.render cache default [live, other, stale]).1.commands =
          (draws.render cache default [stale, live, other]).1.commands ∧
        (draws.render cache default [live, other, stale]).1.stats =
          (draws.render cache default [stale, live, other]).1.stats := by
  obtain ⟨cache, h, e, hcache, he, hkey⟩ := ProgramCache.exists_acquired (.draw default)
  refine ⟨cache, h, e, hcache, he, hkey, ?_⟩
  intro live other stale draws
  have hlive : live.IsDrawn cache :=
    DrawEntry.isDrawn_iff.mpr (by rw [DrawEntry.resolve_eq_ok rfl he hkey rfl]; rfl)
  have hstale : ¬stale.IsDrawn cache := by
    rintro ⟨⟨h', features, hhandle, hkey'⟩, _⟩
    cases Option.some.inj hhandle
    obtain ⟨e', he', _⟩ := Option.map_eq_some_iff.mp hkey'
    have hgeneration := congrArg ProgramHandle.generation (handle_eq _ he he' rfl)
    simp at hgeneration
  have hless : other.sortKey ≤ live.sortKey := by
    simp [DrawEntry.sortKey, slotKey, live, other, List.cons_le_cons_iff]
  have hsame : stale.sortKey = live.sortKey := rfl
  have hentries : StandsById [live, other, stale] := by
    constructor <;> simp [live, other, stale]
  have hperm : [live, other, stale].Perm [stale, live, other] :=
    (List.perm_append_comm : ([live, other] ++ [stale]).Perm ([stale] ++ [live, other]))
  have hsorted : SortsTo [live, other, stale] [other, live, stale] := by
    refine ⟨.swap _ _ _, ?_⟩
    simp [hless, hsame]
  have hsorted' : SortsTo [stale, live, other] [other, stale, live] := by
    refine ⟨(List.perm_append_comm : ([other] ++ [stale, live]).Perm ([stale, live] ++ [other])),
      ?_⟩
    simp [hless, hsame]
  obtain ⟨hpass, hcommands, hstats⟩ :=
    render_eq_of_perm (rfl : draws.maxTextureUnits = draws.maxTextureUnits) cache default hperm
      hentries
  exact ⟨hlive, hstale, hsame.symm, hperm, hentries, hsorted, hsorted',
    hpass _ _ hsorted hsorted', hcommands, hstats⟩

end DrawRenderer

end SceneRenderer
