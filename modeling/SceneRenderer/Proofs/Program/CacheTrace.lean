import Mathlib.Algebra.BigOperators.Group.Finset.Basic
import Mathlib.Algebra.BigOperators.Group.Finset.Piecewise
import Mathlib.Algebra.Order.BigOperators.Group.Finset
import SceneRenderer.Program.Cache

/-!
What happened to a program cache, as whoever calls it sees it: which keys were acquired under which
handles, and which handles were released. The uses of a handle and the programs a slot lost are
counted from this alone.
-/

set_option autoImplicit false
set_option relaxedAutoImplicit false

namespace SceneRenderer

open Shader

/-- What was seen of a call to the cache. -/
inductive CacheEvent
  | acquired (key : ProgramKey) (handle : ProgramHandle)
  /-- An acquisition without a handle. -/
  | failed (key : ProgramKey)
  | released (handle : ProgramHandle)
  | rejected (handle : ProgramHandle)
  | cleared
deriving DecidableEq

/-- Events, latest first. -/
abbrev CacheTrace := List CacheEvent

namespace CacheTrace

/-- The acquisitions of a handle that are not released. -/
def uses (h : ProgramHandle) : CacheTrace → Nat
  | [] => 0
  | .acquired _ h' :: t => if h' = h then uses h t + 1 else uses h t
  | .released h' :: t => if h' = h then uses h t - 1 else uses h t
  | .cleared :: _ => 0
  | _ :: t => uses h t

/-- The handles that were returned. -/
def handles (t : CacheTrace) : List ProgramHandle :=
  t.filterMap fun
    | .acquired _ h => some h
    | _ => none

/-- The unreleased acquisitions of all handles. -/
def outstanding (t : CacheTrace) : Nat := ∑ h ∈ t.handles.toFinset, uses h t

/-- How often a slot lost its program. -/
def losses (i : UInt32) : CacheTrace → Nat
  | [] => 0
  | .released h :: t => losses i t + if h.index = i ∧ uses h t = 1 then 1 else 0
  | .cleared :: t => losses i t + if ∃ h ∈ handles t, h.index = i ∧ 0 < uses h t then 1 else 0
  | _ :: t => losses i t

/-- At no time are there too many acquisitions outstanding, and no slot loses too many programs. -/
structure WithinLimits (t : CacheTrace) : Prop where
  outstanding : ∀ u, u <:+ t → outstanding u < 2 ^ 32
  losses : ∀ i, losses i t < 2 ^ 32

section Events

variable {t : CacheTrace} {k : ProgramKey} {h : ProgramHandle}

theorem mem_handles : h ∈ handles t ↔ ∃ k, .acquired k h ∈ t := by
  rw [handles, List.mem_filterMap]
  constructor
  · rintro ⟨event, hevent, hhandle⟩
    cases event with
    | acquired key handle => exact ⟨key, Option.some_inj.mp hhandle ▸ hevent⟩
    | _ => exact absurd hhandle nofun
  · rintro ⟨key, hevent⟩
    exact ⟨_, hevent, rfl⟩

/-- What is used was acquired. -/
theorem mem_handles_of_uses (huses : 0 < uses h t) : h ∈ handles t := by
  induction t with
  | nil => exact absurd huses (Nat.lt_irrefl 0)
  | cons event rest ih =>
    rw [mem_handles] at ih ⊢
    have hearlier (hrest : 0 < uses h rest) : ∃ k, .acquired k h ∈ event :: rest := by
      obtain ⟨k, hk⟩ := ih hrest
      exact ⟨k, List.mem_cons_of_mem _ hk⟩
    cases event with
    | acquired key handle =>
      by_cases heq : handle = h
      · exact ⟨key, heq ▸ List.mem_cons_self⟩
      · exact hearlier (by simpa [uses, heq] using huses)
    | failed key => exact hearlier huses
    | released handle =>
      refine hearlier ?_
      simp only [uses] at huses
      split at huses
      · exact Nat.lt_of_lt_of_le huses (Nat.sub_le _ _)
      · exact huses
    | rejected handle => exact hearlier huses
    | cleared => exact absurd huses (Nat.lt_irrefl 0)

/-- Each handle in use accounts for an acquisition that is outstanding. -/
theorem card_le_outstanding {live : Finset ProgramHandle} (hlive : ∀ h ∈ live, 0 < uses h t) :
    live.card ≤ t.outstanding := by
  calc live.card = ∑ h ∈ live, 1 := Finset.card_eq_sum_ones live
    _ ≤ ∑ h ∈ live, uses h t := Finset.sum_le_sum hlive
    _ ≤ t.outstanding := Finset.sum_le_sum_of_subset fun h hh ↦
        List.mem_toFinset.mpr (mem_handles_of_uses (hlive h hh))

theorem uses_le_outstanding (h : ProgramHandle) (t : CacheTrace) : uses h t ≤ t.outstanding := by
  by_cases hused : 0 < uses h t
  · exact Finset.single_le_sum (f := (uses · t)) (fun _ _ ↦ Nat.zero_le _)
      (List.mem_toFinset.mpr (mem_handles_of_uses hused))
  · exact (Nat.not_lt.mp hused).trans (Nat.zero_le _)

theorem WithinLimits.tail {event : CacheEvent} (hlimits : WithinLimits (event :: t)) :
    WithinLimits t where
  outstanding u hu := hlimits.outstanding u (hu.trans (List.suffix_cons event t))
  losses i := by
    have hle : CacheTrace.losses i t ≤ CacheTrace.losses i (event :: t) := by
      cases event with
      | released handle => exact Nat.le_add_right _ _
      | cleared => exact Nat.le_add_right _ _
      | _ => exact Nat.le_refl _
    exact Nat.lt_of_le_of_lt hle (hlimits.losses i)

end Events

/-! ### Short traces -/

theorem losses_le_length (i : UInt32) (t : CacheTrace) : losses i t ≤ t.length := by
  induction t with
  | nil => exact Nat.le_refl 0
  | cons event rest ih =>
    have hevent : losses i (event :: rest) ≤ losses i rest + 1 := by
      cases event with
      | released h =>
        simp only [losses]
        split <;> omega
      | cleared =>
        simp only [losses]
        split <;> omega
      | _ => exact Nat.le_succ _
    exact Nat.le_trans hevent (Nat.succ_le_succ ih)

theorem uses_cons_le (event : CacheEvent) (h : ProgramHandle) (t : CacheTrace)
    (hevent : ∀ k, event ≠ .acquired k h) : uses h (event :: t) ≤ uses h t := by
  cases event with
  | acquired key handle =>
    have hne : handle ≠ h := fun heq ↦ hevent key (heq ▸ rfl)
    simp [uses, hne]
  | released handle =>
    simp only [uses]
    split <;> omega
  | cleared => exact Nat.zero_le _
  | _ => exact Nat.le_refl _

theorem outstanding_le_length (t : CacheTrace) : outstanding t ≤ t.length := by
  induction t with
  | nil => exact Nat.le_refl 0
  | cons event rest ih =>
    suffices hevent : outstanding (event :: rest) ≤ outstanding rest + 1 from
      Nat.le_trans hevent (Nat.succ_le_succ ih)
    have hquiet (hne : ∀ k h, event ≠ .acquired k h) (hhandles : handles (event :: rest) =
        handles rest) : outstanding (event :: rest) ≤ outstanding rest + 1 := by
      unfold outstanding
      rw [hhandles]
      exact Nat.le_succ_of_le (Finset.sum_le_sum fun h _ ↦ uses_cons_le _ h _ fun k ↦ hne k h)
    cases event with
    | acquired key handle =>
      have huses : ∀ h, uses h (.acquired key handle :: rest) =
          uses h rest + if handle = h then 1 else 0 := by
        intro h
        simp only [uses]
        split <;> rfl
      have hunseen : handle ∉ (handles rest).toFinset → uses handle rest = 0 := by
        intro hnot
        by_contra hne
        exact hnot (List.mem_toFinset.mpr (mem_handles_of_uses (Nat.pos_of_ne_zero hne)))
      have hhandles : (handles (.acquired key handle :: rest)).toFinset =
          insert handle (handles rest).toFinset := List.toFinset_cons
      unfold outstanding
      rw [hhandles, Finset.sum_congr rfl fun h _ ↦ huses h, Finset.sum_add_distrib,
        Finset.sum_insert_of_eq_zero_if_notMem hunseen, Finset.sum_ite_eq,
        if_pos (Finset.mem_insert_self _ _)]
    | _ => exact hquiet (by simp) (by simp [handles])

/-- A short run stays within the limits. -/
theorem withinLimits_of_length_lt {t : CacheTrace} (hlength : t.length < 2 ^ 32) :
    WithinLimits t where
  outstanding u hu :=
    Nat.lt_of_le_of_lt (outstanding_le_length u) (Nat.lt_of_le_of_lt hu.length_le hlength)
  losses i := Nat.lt_of_le_of_lt (losses_le_length i t) hlength

end CacheTrace

end SceneRenderer
