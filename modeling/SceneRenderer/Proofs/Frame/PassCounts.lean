import Mathlib.Algebra.BigOperators.Group.Finset.Basic
import SceneRenderer.Proofs.Frame.Freshness
import SceneRenderer.Proofs.Frame.ShadowFreshness

/-!
What a pass counts. A draw is labelled with its program and the identities of what it binds; a pass
binds something as often as the label of it changes from one draw to the next.

The draws of a program stand together in a sorted pass, and among them the order is that of the
identities. So how often a label changes does not depend on the order of the programs
(`changes_eq_of_sorted`): the counters of a pass are those of any other pass with the same labels.
-/

set_option autoImplicit false
set_option relaxedAutoImplicit false

namespace SceneRenderer

open Shader

/-- Sorting sorts. -/
theorem sortByKey_pairwise {α : Type} (key : α → List UInt32) (items : List α) :
    (sortByKey key items).Pairwise fun a b ↦ key a ≤ key b := by
  have htrans (a b c : α) (hab : decide (key a ≤ key b) = true)
      (hbc : decide (key b ≤ key c) = true) : decide (key a ≤ key c) = true :=
    decide_eq_true (List.le_trans (of_decide_eq_true hab) (of_decide_eq_true hbc))
  have htotal (a b : α) : (decide (key a ≤ key b) || decide (key b ≤ key a)) = true := by
    rw [Bool.or_eq_true, decide_eq_true_eq, decide_eq_true_eq]
    exact List.le_total _ _
  exact (List.pairwise_mergeSort htrans htotal items).imp of_decide_eq_true

/-! ### Changes of a label -/

section Changes

variable {α β γ κ : Type} [DecidableEq β] [DecidableEq γ] [DecidableEq κ]

/-- How often a label differs from the one before it. -/
def changes (before : Option β) : List β → Nat
  | [] => 0
  | b :: rest => (if before = some b then 0 else 1) + changes (some b) rest

/-- Labels that tell the same items apart change as often. -/
theorem changes_congr {f : α → β} {g : α → γ} (before : Option α) (items : List α)
    (hsame : ∀ a b, a ∈ before.toList ++ items → b ∈ items → (f a = f b ↔ g a = g b)) :
    changes (before.map f) (items.map f) = changes (before.map g) (items.map g) := by
  induction items generalizing before with
  | nil => rfl
  | cons b rest ih =>
    have hfirst : before.map f = some (f b) ↔ before.map g = some (g b) := by
      cases before with
      | none => simp
      | some a => simpa using hsame a b (by simp) (by simp)
    have hrest := ih (some b) fun a c ha hc ↦
      hsame a c (List.mem_append_right _ ha) (List.mem_cons_of_mem _ hc)
    rw [List.map_cons, List.map_cons, changes, changes, if_congr hfirst rfl rfl]
    exact congrArg _ hrest

variable {rank rank' : κ → UInt32} {f : κ × List UInt32 → β} {items items' : List (κ × List UInt32)}

/-- Where items of one group stand together, a label changes as often as it does in the groups. -/
theorem changes_eq_sum (hf : ∀ a b, f a = f b → a.1 = b.1) (before : Option (κ × List UInt32))
    (hsorted : (before.toList ++ items).Pairwise fun a b ↦ rank a.1 ≤ rank b.1)
    (hrank : ∀ a b, a ∈ before.toList ++ items → b ∈ items → rank a.1 = rank b.1 → a.1 = b.1)
    {groups : Finset κ} (hgroups : ∀ a ∈ items, a.1 ∈ groups) :
    changes (before.map f) (items.map f) =
      ∑ k ∈ groups, changes ((before.filter (·.1 = k)).map f)
        ((items.filter (·.1 = k)).map f) := by
  have hkeep {a : κ × List UInt32} {k : κ} (ha : a.1 = k) :
      (some a).filter (·.1 = k) = some a := by simp [Option.filter, ha]
  have hdrop {a : κ × List UInt32} {k : κ} (ha : a.1 ≠ k) :
      (some a).filter (·.1 = k) = none := by simp [Option.filter, ha]
  induction items generalizing before with
  | nil => exact (Finset.sum_eq_zero fun _ _ ↦ rfl).symm
  | cons b rest ih =>
    have hrest := ih (some b) (List.pairwise_append.mp hsorted).2.1
      (fun a c ha hc ↦ hrank a c (List.mem_append_right _ ha) (List.mem_cons_of_mem _ hc))
      fun a ha ↦ hgroups a (List.mem_cons_of_mem _ ha)
    have hb : b.1 ∈ groups := hgroups b List.mem_cons_self
    have hown : ((before.filter (·.1 = b.1)).map f = some (f b)) ↔ before.map f = some (f b) := by
      cases before with
      | none => rfl
      | some a =>
        by_cases ha : a.1 = b.1
        · rw [hkeep ha]
        · rw [hdrop ha]
          simp [mt (hf a b) ha]
    have hother : ∀ k ∈ groups.erase b.1,
        changes (((some b).filter (·.1 = k)).map f) ((rest.filter (·.1 = k)).map f) =
          changes ((before.filter (·.1 = k)).map f) (((b :: rest).filter (·.1 = k)).map f) := by
      intro k hk
      have hne : b.1 ≠ k := (Finset.ne_of_mem_erase hk).symm
      rw [List.filter_cons_of_neg (by simpa using hne)]
      by_cases hbefore : before.filter (·.1 = k) = none
      · rw [hbefore, hdrop hne]
      · -- Nothing of a group that is over comes again.
        obtain ⟨a, ha⟩ := Option.ne_none_iff_exists'.mp hbefore
        obtain ⟨rfl, hak⟩ := Option.filter_eq_some_iff.mp ha
        obtain rfl : a.1 = k := of_decide_eq_true hak
        have hnone : rest.filter (·.1 = a.1) = [] := by
          refine List.filter_eq_nil_iff.mpr fun c hc hca ↦ hne ?_
          have hac : c.1 = a.1 := of_decide_eq_true hca
          obtain ⟨hfirst, hlater⟩ := List.pairwise_cons.mp hsorted
          have hab : rank a.1 ≤ rank b.1 := hfirst b List.mem_cons_self
          have hbc : rank b.1 ≤ rank c.1 := (List.pairwise_cons.mp hlater).1 c hc
          rw [hac] at hbc
          exact (hrank a b List.mem_cons_self List.mem_cons_self (UInt32.le_antisymm hab hbc)).symm
        rw [hnone]
        rfl
    rw [← Finset.add_sum_erase groups _ hb, ← Finset.sum_congr rfl hother, List.map_cons, changes]
    rw [show some (f b) = (some b).map f from rfl, hrest, ← Finset.add_sum_erase groups _ hb]
    rw [List.filter_cons_of_pos (by simp), List.map_cons, changes, if_congr hown rfl rfl, hkeep rfl]
    exact (Nat.add_assoc _ _ _).symm

/-- The labels of sorted items change as often as those of the same items with their groups in
another order. -/
theorem changes_eq_of_sorted (hf : ∀ a b, f a = f b → a.1 = b.1) (hperm : items.Perm items')
    (hsorted : items.Pairwise fun a b ↦ rank a.1 :: a.2 ≤ rank b.1 :: b.2)
    (hsorted' : items'.Pairwise fun a b ↦ rank' a.1 :: a.2 ≤ rank' b.1 :: b.2)
    (hrank : ∀ a ∈ items, ∀ b ∈ items, rank a.1 = rank b.1 → a.1 = b.1)
    (hrank' : ∀ a ∈ items', ∀ b ∈ items', rank' a.1 = rank' b.1 → a.1 = b.1) :
    changes none (items.map f) = changes none (items'.map f) := by
  have hle {r : κ → UInt32} {a b : κ × List UInt32} (hab : r a.1 :: a.2 ≤ r b.1 :: b.2) :
      r a.1 ≤ r b.1 ∧ (a.1 = b.1 → a.2 ≤ b.2) := by
    rcases List.cons_le_cons_iff.mp hab with hlt | ⟨heq, hrest⟩
    · refine ⟨UInt32.le_of_lt hlt, fun hsame ↦ ?_⟩
      rw [hsame] at hlt
      exact absurd hlt (UInt32.lt_irrefl _)
    · exact ⟨heq ▸ UInt32.le_refl _, fun _ ↦ hrest⟩
  have hmem (k : κ) {l : List (κ × List UInt32)} {a : κ × List UInt32}
      (ha : a ∈ l.filter (·.1 = k)) : a.1 = k := of_decide_eq_true (List.mem_filter.mp ha).2
  have hwithin (k : κ) {r : κ → UInt32} {l : List (κ × List UInt32)}
      (hl : l.Pairwise fun a b ↦ r a.1 :: a.2 ≤ r b.1 :: b.2) :
      (l.filter (·.1 = k)).Pairwise fun a b ↦ a.2 ≤ b.2 :=
    (hl.filter _).imp_of_mem fun ha hb hab ↦ (hle hab).2 ((hmem k ha).trans (hmem k hb).symm)
  let groups := (items.map (·.1)).toFinset
  have hgroups : ∀ a ∈ items, a.1 ∈ groups := fun a ha ↦
    List.mem_toFinset.mpr (List.mem_map_of_mem ha)
  have hsum := changes_eq_sum hf none (hsorted.imp fun hab ↦ (hle hab).1)
    (fun a b ha hb ↦ hrank a ha b hb) hgroups
  have hsum' := changes_eq_sum hf none (hsorted'.imp fun hab ↦ (hle hab).1)
    (fun a b ha hb ↦ hrank' a ha b hb) fun a ha ↦ hgroups a (hperm.mem_iff.mpr ha)
  rw [show none = (none : Option (κ × List UInt32)).map f from rfl, hsum, hsum']
  refine Finset.sum_congr rfl fun k _ ↦ ?_
  have heq : items.filter (·.1 = k) = items'.filter (·.1 = k) :=
    List.Perm.eq_of_pairwise
      (fun a b ha hb (hab : a.2 ≤ b.2) hba ↦ Prod.ext ((hmem k ha).trans (hmem k hb).symm)
        (List.le_antisymm hab hba)) (hwithin k hsorted) (hwithin k hsorted') (hperm.filter _)
  rw [heq]

end Changes

/-! ### The counters of a pass -/

/-- Counters of this many binds, draws and skips. -/
def FrameStats.ofCounts (programs materials transforms geometries draws skipped : Nat) :
    FrameStats :=
  ⟨.ofNat programs, .ofNat materials, .ofNat transforms, .ofNat geometries, .ofNat draws,
    .ofNat skipped⟩

theorem FrameStats.add_ofCounts (s : FrameStats) (p m t g d k p' m' t' g' d' k' : Nat) :
    s + ofCounts p m t g d k + ofCounts p' m' t' g' d' k' =
      s + ofCounts (p + p') (m + m') (t + t') (g + g') (d + d') (k + k') := by
  show FrameStats.mk _ _ _ _ _ _ = FrameStats.mk _ _ _ _ _ _
  simp only [ofCounts, UInt32.ofNat_add]
  congr 1 <;> exact UInt32.add_assoc _ _ _

/-- One more of each counter. -/
theorem FrameStats.add_one_eq (s : FrameStats) :
    s.addProgramBind = s + ofCounts 1 0 0 0 0 0 ∧ s.addMaterialBind = s + ofCounts 0 1 0 0 0 0 ∧
      s.addTransformBind = s + ofCounts 0 0 1 0 0 0 ∧
      s.addGeometryBind = s + ofCounts 0 0 0 1 0 0 ∧ s.addDraw = s + ofCounts 0 0 0 0 1 0 ∧
      s.addSkip = s + ofCounts 0 0 0 0 0 1 := by
  have hmk (t : FrameStats) : s + t = ⟨s.programBinds + t.programBinds,
      s.materialBinds + t.materialBinds, s.transformBinds + t.transformBinds,
      s.geometryBinds + t.geometryBinds, s.draws + t.draws, s.skipped + t.skipped⟩ := rfl
  simp [hmk, ofCounts, addProgramBind, addMaterialBind, addTransformBind, addGeometryBind, addDraw,
    addSkip]

theorem FrameStats.add_ofCounts_zero (s : FrameStats) : s + ofCounts 0 0 0 0 0 0 = s := by
  show FrameStats.mk _ _ _ _ _ _ = s
  simp [ofCounts]

/-- The binds of a program for draws with the given labels. -/
def programBinds {κ : Type} [DecidableEq κ] (before : Option (κ × List UInt32))
    (labels : List (κ × List UInt32)) : Nat :=
  changes (before.map (·.1)) (labels.map (·.1))

/-- The binds of what has its identity at a position of the labels. A program that was just bound
holds nothing. -/
def bindsAt {κ : Type} [DecidableEq κ] (i : Nat) (before : Option (κ × List UInt32))
    (labels : List (κ × List UInt32)) : Nat :=
  changes (before.map fun l ↦ (l.1, l.2[i]?)) (labels.map fun l ↦ (l.1, l.2[i]?))

/-- The program of a draw, and the identities of its material, its transform and its geometry. -/
def ReadyDraw.label (d : ReadyDraw) : ProgramHandle × List UInt32 :=
  (d.handle, [d.material.id.raw, d.transform.id.raw, d.geometry.raw])

/-- The program of a caster, and the identities of its transform and its geometry. -/
def ReadyCaster.label (c : ReadyCaster) : ProgramHandle × List UInt32 :=
  (c.handle, [c.transform.id.raw, c.geometry.raw])

/-- What a pass counts that draws under the given labels. -/
def DrawState.counts {κ : Type} [DecidableEq κ] (before : Option (κ × List UInt32))
    (labels : List (κ × List UInt32)) (skipped : Nat) : FrameStats :=
  .ofCounts (programBinds before labels) (bindsAt 0 before labels) (bindsAt 1 before labels)
    (bindsAt 2 before labels) labels.length skipped

/-- What a pass over the casters counts that draws under the given labels. -/
def CastState.counts {κ : Type} [DecidableEq κ] (before : Option (κ × List UInt32))
    (labels : List (κ × List UInt32)) (skipped : Nat) : FrameStats :=
  .ofCounts (programBinds before labels) 0 (bindsAt 0 before labels) (bindsAt 1 before labels)
    labels.length skipped

section Cons

variable {κ : Type} [DecidableEq κ] (before : Option (κ × List UInt32)) (l : κ × List UInt32)
  (labels : List (κ × List UInt32)) (s : FrameStats) (skipped : Nat)

theorem DrawState.counts_cons :
    s + counts before [l] 0 + counts (some l) labels skipped =
      s + counts before (l :: labels) skipped := by
  unfold counts
  simp only [FrameStats.add_ofCounts, Nat.zero_add, List.length_singleton, Nat.add_comm 1]
  rfl

theorem DrawState.counts_skip :
    s.addSkip + counts before labels skipped = s + counts before labels (skipped + 1) := by
  unfold counts
  rw [(FrameStats.add_one_eq s).2.2.2.2.2, FrameStats.add_ofCounts, Nat.add_comm 1]
  simp only [Nat.zero_add]

theorem CastState.counts_cons :
    s + counts before [l] 0 + counts (some l) labels skipped =
      s + counts before (l :: labels) skipped := by
  unfold counts
  simp only [FrameStats.add_ofCounts, Nat.zero_add, List.length_singleton, Nat.add_comm 1]
  rfl

theorem CastState.counts_skip :
    s.addSkip + counts before labels skipped = s + counts before labels (skipped + 1) := by
  unfold counts
  rw [(FrameStats.add_one_eq s).2.2.2.2.2, FrameStats.add_ofCounts, Nat.add_comm 1]
  simp only [Nat.zero_add]

end Cons

namespace DrawState

variable {maxTextureUnits : UInt32} {g : FrameGlobals}

/-- What is bound after a draw. -/
def boundTo (before : Option ReadyDraw) : BoundState :=
  ⟨before.map (·.handle), before.map (·.material.id), before.map (·.transform.id),
    before.map (·.geometry)⟩

theorem stats_draw {b : DrawState} {before : Option ReadyDraw} (hb : b.bound = boundTo before)
    (d : ReadyDraw) :
    (b.draw maxTextureUnits g d).2.bound = boundTo (some d) ∧
      (b.draw maxTextureUnits g d).2.stats =
        b.stats + counts (before.map ReadyDraw.label) [d.label] 0 := by
  obtain ⟨bound, units, stats⟩ := b
  obtain rfl : bound = boundTo before := hb
  cases before with
  | none =>
    refine ⟨rfl, ?_⟩
    simp [draw, bindProgram, bindMaterial, bindTransform, bindGeometry, boundTo,
      BoundState.ofProgram, BoundState.none, counts, programBinds, bindsAt, changes,
      FrameStats.add_one_eq, FrameStats.add_ofCounts]
  | some d₀ =>
    have hmaterial : d₀.material.id.raw = d.material.id.raw ↔ d₀.material.id = d.material.id :=
      ⟨congrArg MaterialId.mk, congrArg MaterialId.raw⟩
    have htransform : d₀.transform.id.raw = d.transform.id.raw ↔
        d₀.transform.id = d.transform.id :=
      ⟨congrArg TransformId.mk, congrArg TransformId.raw⟩
    have hgeometry : d₀.geometry.raw = d.geometry.raw ↔ d₀.geometry = d.geometry :=
      ⟨congrArg GeometryId.mk, congrArg GeometryId.raw⟩
    by_cases hhandle : d₀.handle = d.handle
    · by_cases d₀.material.id = d.material.id <;>
        by_cases d₀.transform.id = d.transform.id <;>
        by_cases d₀.geometry = d.geometry <;>
        simp_all [draw, bindProgram, bindMaterial, bindTransform, bindGeometry, boundTo, counts,
          programBinds, bindsAt, changes, ReadyDraw.label, FrameStats.add_one_eq,
          FrameStats.add_ofCounts]
    · simp [draw, bindProgram, bindMaterial, bindTransform, bindGeometry, boundTo,
        BoundState.ofProgram, BoundState.none, counts, programBinds, bindsAt, changes,
        ReadyDraw.label, hhandle, FrameStats.add_one_eq, FrameStats.add_ofCounts]

/-- A pass counts the changes of the labels of what it draws, and what it skips. -/
theorem stats_drawAll {b : DrawState} {before : Option ReadyDraw} (hb : b.bound = boundTo before)
    (batch : List (Except SkipReason ReadyDraw)) :
    (b.drawAll maxTextureUnits g batch).2.stats =
      b.stats + counts (before.map ReadyDraw.label) ((ready batch).map ReadyDraw.label)
        (batch.countP (·.toOption.isNone)) := by
  induction batch generalizing b before with
  | nil => exact (FrameStats.add_ofCounts_zero _).symm
  | cons entry rest ih =>
    cases entry with
    | error reason =>
      show (b.skip.drawAll maxTextureUnits g rest).2.stats = _
      rw [ih (b := b.skip) hb, List.countP_cons_of_pos (by rfl)]
      exact counts_skip _ _ _ _
    | ok d =>
      obtain ⟨hbound, hstats⟩ : (b.draw maxTextureUnits g d).2.bound = _ ∧
        (b.draw maxTextureUnits g d).2.stats = _ := stats_draw hb d
      show ((b.draw maxTextureUnits g d).2.drawAll maxTextureUnits g rest).2.stats = _
      rw [ih hbound, hstats, List.countP_cons_of_neg (by simp [Except.toOption])]
      exact counts_cons _ _ _ _ _

end DrawState

namespace CastState

variable {light : Light}

/-- What is bound after a caster was drawn. -/
def boundTo (before : Option ReadyCaster) : BoundState :=
  ⟨before.map (·.handle), none, before.map (·.transform.id), before.map (·.geometry)⟩

theorem stats_draw {b : CastState} {before : Option ReadyCaster} (hb : b.bound = boundTo before)
    (c : ReadyCaster) :
    (b.draw light c).2.bound = boundTo (some c) ∧
      (b.draw light c).2.stats = b.stats + counts (before.map ReadyCaster.label) [c.label] 0 := by
  obtain ⟨bound, stats⟩ := b
  obtain rfl : bound = boundTo before := hb
  cases before with
  | none =>
    refine ⟨rfl, ?_⟩
    simp [draw, bindProgram, bindTransform, bindGeometry, boundTo, BoundState.ofProgram,
      BoundState.none, counts, programBinds, bindsAt, changes, FrameStats.add_one_eq,
      FrameStats.add_ofCounts]
  | some c₀ =>
    have htransform : c₀.transform.id.raw = c.transform.id.raw ↔
        c₀.transform.id = c.transform.id :=
      ⟨congrArg TransformId.mk, congrArg TransformId.raw⟩
    have hgeometry : c₀.geometry.raw = c.geometry.raw ↔ c₀.geometry = c.geometry :=
      ⟨congrArg GeometryId.mk, congrArg GeometryId.raw⟩
    by_cases hhandle : c₀.handle = c.handle
    · by_cases c₀.transform.id = c.transform.id <;>
        by_cases c₀.geometry = c.geometry <;>
        simp_all [draw, bindProgram, bindTransform, bindGeometry, boundTo, counts, programBinds,
          bindsAt, changes, ReadyCaster.label, FrameStats.add_one_eq, FrameStats.add_ofCounts]
    · simp [draw, bindProgram, bindTransform, bindGeometry, boundTo, BoundState.ofProgram,
        BoundState.none, counts, programBinds, bindsAt, changes, ReadyCaster.label, hhandle,
        FrameStats.add_one_eq, FrameStats.add_ofCounts]

theorem stats_drawAll {b : CastState} {before : Option ReadyCaster} (hb : b.bound = boundTo before)
    (batch : List (Option ReadyCaster)) :
    (b.drawAll light batch).2.stats =
      b.stats + counts (before.map ReadyCaster.label) (batch.reduceOption.map ReadyCaster.label)
        (batch.countP (·.isNone)) := by
  induction batch generalizing b before with
  | nil => exact (FrameStats.add_ofCounts_zero _).symm
  | cons caster rest ih =>
    cases caster with
    | none =>
      show (b.skip.drawAll light rest).2.stats = _
      rw [ih (b := b.skip) hb, List.countP_cons_of_pos (by rfl)]
      exact counts_skip _ _ _ _
    | some c =>
      obtain ⟨hbound, hstats⟩ : (b.draw light c).2.bound = _ ∧ (b.draw light c).2.stats = _ :=
        stats_draw hb c
      show ((b.draw light c).2.drawAll light rest).2.stats = _
      rw [ih hbound, hstats, List.countP_cons_of_neg (by simp)]
      exact counts_cons _ _ _ _ _

end CastState

/-- Casters that count the same count the same into every map. -/
theorem ShadowRenderer.stats_renderMaps {casters casters' : List (Option ReadyCaster)}
    (hsame : CastState.counts none (casters.reduceOption.map ReadyCaster.label)
        (casters.countP (·.isNone)) =
      CastState.counts none (casters'.reduceOption.map ReadyCaster.label)
        (casters'.countP (·.isNone))) (lights : List Light) (stats : FrameStats)
    (maps : List ShadowMap) :
    (renderMaps casters lights stats maps).2 = (renderMaps casters' lights stats maps).2 := by
  have hmap (stats : FrameStats) (m : ShadowMap) :
      (renderMap casters lights stats m).2 = (renderMap casters' lights stats m).2 := by
    unfold renderMap
    split
    · rfl
    · show (CastState.drawAll _ _ casters).2.stats = (CastState.drawAll _ _ casters').2.stats
      have hstart : BoundState.none = CastState.boundTo none := rfl
      rw [CastState.stats_drawAll hstart, CastState.stats_drawAll hstart]
      exact congrArg _ hsame
  induction maps generalizing stats with
  | nil => rfl
  | cons m rest ih =>
    show (renderMaps casters lights (renderMap casters lights stats m).2 rest).2 =
      (renderMaps casters' lights (renderMap casters' lights stats m).2 rest).2
    rw [hmap]
    exact ih _

/-! ### The order of the programs -/

/-- Labels that are sorted, by a rank of the keys that the handles stand for. -/
structure Ranked (key : ProgramHandle → ProgramKey) (rank : ProgramKey → UInt32)
    (labels : List (ProgramHandle × List UInt32)) : Prop where
  sorted : labels.Pairwise fun a b ↦ a.1.index :: a.2 ≤ b.1.index :: b.2
  index : ∀ a ∈ labels, rank (key a.1) = a.1.index
  handle : ∀ a ∈ labels, ∀ b ∈ labels, a.1.index = b.1.index → a.1 = b.1

section Ranked

variable {key key' : ProgramHandle → ProgramKey} {rank rank' : ProgramKey → UInt32}
  {labels labels' : List (ProgramHandle × List UInt32)}

theorem Ranked.handle_eq_iff (hl : Ranked key rank labels) {a b : ProgramHandle × List UInt32}
    (ha : a ∈ labels) (hb : b ∈ labels) : a.1 = b.1 ↔ key a.1 = key b.1 :=
  ⟨congrArg key, fun hkey ↦ hl.handle a ha b hb
    ((hl.index a ha).symm.trans ((congrArg rank hkey).trans (hl.index b hb)))⟩

/-- Labels with the same keys change as often, however the keys are ranked. -/
theorem Ranked.changes_eq {β : Type} [DecidableEq β] (hl : Ranked key rank labels)
    (hl' : Ranked key' rank' labels')
    (hperm : (labels.map (Prod.map key id)).Perm (labels'.map (Prod.map key' id)))
    {f : ProgramKey × List UInt32 → β} (hf : ∀ a b, f a = f b → a.1 = b.1) :
    changes none (labels.map (f ∘ Prod.map key id)) =
      changes none (labels'.map (f ∘ Prod.map key' id)) := by
  have hsorted {key : ProgramHandle → ProgramKey} {rank : ProgramKey → UInt32}
      {labels : List (ProgramHandle × List UInt32)} (hl : Ranked key rank labels) :
      (labels.map (Prod.map key id)).Pairwise fun a b ↦ rank a.1 :: a.2 ≤ rank b.1 :: b.2 := by
    refine List.pairwise_map.mpr (hl.sorted.imp_of_mem fun {a b} ha hb hab ↦ ?_)
    show rank (key a.1) :: a.2 ≤ rank (key b.1) :: b.2
    rwa [hl.index a ha, hl.index b hb]
  have hrank {key : ProgramHandle → ProgramKey} {rank : ProgramKey → UInt32}
      {labels : List (ProgramHandle × List UInt32)} (hl : Ranked key rank labels) :
      ∀ a ∈ labels.map (Prod.map key id), ∀ b ∈ labels.map (Prod.map key id),
        rank a.1 = rank b.1 → a.1 = b.1 := by
    simp only [List.forall_mem_map, Prod.map_fst]
    intro a ha b hb heq
    rw [hl.index a ha, hl.index b hb] at heq
    exact congrArg key (hl.handle a ha b hb heq)
  rw [← List.map_map, ← List.map_map]
  exact changes_eq_of_sorted hf hperm (hsorted hl) (hsorted hl') (hrank hl) (hrank hl')

theorem Ranked.programBinds_eq (hl : Ranked key rank labels) (hl' : Ranked key' rank' labels')
    (hperm : (labels.map (Prod.map key id)).Perm (labels'.map (Prod.map key' id))) :
    programBinds none labels = programBinds none labels' := by
  have hkeys {key : ProgramHandle → ProgramKey} {rank : ProgramKey → UInt32}
      {labels : List (ProgramHandle × List UInt32)} (hl : Ranked key rank labels) :
      programBinds none labels = changes none (labels.map (Prod.fst ∘ Prod.map key id)) :=
    changes_congr none labels fun a b ha hb ↦ hl.handle_eq_iff ha hb
  rw [hkeys hl, hkeys hl']
  exact hl.changes_eq hl' hperm fun _ _ ↦ id

theorem Ranked.bindsAt_eq (hl : Ranked key rank labels) (hl' : Ranked key' rank' labels')
    (hperm : (labels.map (Prod.map key id)).Perm (labels'.map (Prod.map key' id))) (i : Nat) :
    bindsAt i none labels = bindsAt i none labels' := by
  have hkeys {key : ProgramHandle → ProgramKey} {rank : ProgramKey → UInt32}
      {labels : List (ProgramHandle × List UInt32)} (hl : Ranked key rank labels) :
      bindsAt i none labels =
        changes none (labels.map ((fun l ↦ (l.1, l.2[i]?)) ∘ Prod.map key id)) := by
    refine changes_congr none labels fun a b ha hb ↦ ?_
    simp only [Function.comp_apply, Prod.map_fst, Prod.map_snd, id, Prod.mk.injEq]
    rw [hl.handle_eq_iff ha hb]
  rw [hkeys hl, hkeys hl']
  exact hl.changes_eq hl' hperm fun a b hab ↦ (Prod.mk.inj hab).1

/-- A pass counts the same as one that ranks the programs in another way. -/
theorem Ranked.counts_eq (hl : Ranked key rank labels) (hl' : Ranked key' rank' labels')
    (hperm : (labels.map (Prod.map key id)).Perm (labels'.map (Prod.map key' id)))
    (skipped : Nat) :
    DrawState.counts none labels skipped = DrawState.counts none labels' skipped ∧
      CastState.counts none labels skipped = CastState.counts none labels' skipped := by
  have hlength : labels.length = labels'.length := by simpa using hperm.length_eq
  unfold DrawState.counts CastState.counts
  rw [hl.programBinds_eq hl' hperm, hl.bindsAt_eq hl' hperm, hl.bindsAt_eq hl' hperm,
    hl.bindsAt_eq hl' hperm, hlength]
  exact ⟨rfl, rfl⟩

end Ranked

end SceneRenderer
