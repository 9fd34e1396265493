import SceneRenderer.Proofs.Program.Accounts
import SceneRenderer.Renderer.Compile

/-!
The program slots of drawables. Pointing a slot at another program gives the use of the old program
back and takes one of the new program; the uses that others hold are not touched.
-/

set_option autoImplicit false
set_option relaxedAutoImplicit false

namespace SceneRenderer

open Shader

namespace ProgramSlot

/-- A slot never has a program and stands for a failure too. -/
def Exclusive (slot : ProgramSlot) : Prop := slot.handle = none ∨ slot.failed = none

theorem exclusive_iff (slot : ProgramSlot) :
    slot.Exclusive ↔ ¬ (slot.handle.isSome ∧ slot.failed.isSome) := by
  unfold Exclusive
  cases slot.handle <;> cases slot.failed <;> simp

/-- A slot stands for a key: its program is that of the key, or it has none and remembers that the
key failed. Without a key it has neither. -/
def StandsFor (cache : ProgramCache) (slot : ProgramSlot) : Option ProgramKey → Prop
  | none => slot.handle = none ∧ slot.failed = none
  | some key => (∃ h, slot.handle = some h ∧ cache.key? h = some key ∧ slot.failed = none) ∨
      (slot.handle = none ∧ slot.failed = some key)

variable {cache : ProgramCache} {slot : ProgramSlot} {key : Option ProgramKey}

/-- What a slot stands for depends on the cache only through the program that it has. -/
theorem StandsFor.of_kept {later : ProgramCache} (hstands : slot.StandsFor cache key)
    (hkept : ∀ h, slot.handle = some h → later.key? h = cache.key? h) :
    slot.StandsFor later key := by
  cases key with
  | none => exact hstands
  | some key =>
    rcases hstands with ⟨h, hhandle, hkey, hfailed⟩ | hfailed
    · exact .inl ⟨h, hhandle, (hkept h hhandle).trans hkey, hfailed⟩
    · exact .inr hfailed

theorem StandsFor.key_eq (hstands : slot.StandsFor cache key) {h : ProgramHandle}
    (hhandle : slot.handle = some h) : cache.key? h = key := by
  cases key with
  | none => exact absurd (hhandle.symm.trans hstands.1) nofun
  | some key =>
    rcases hstands with ⟨h', hhandle', hkey, _⟩ | ⟨hnone, _⟩
    · cases hhandle.symm.trans hhandle'
      exact hkey
    · exact absurd (hhandle.symm.trans hnone) nofun

/-- The program of a slot, if any, is a depth program or it is not. -/
def OfKind (shadow : Bool) (cache : ProgramCache) (slot : ProgramSlot) : Prop :=
  ∀ h, slot.handle = some h → (cache.key? h).map ProgramKey.isShadowDepth = some shadow

theorem ofKind_empty (shadow : Bool) (cache : ProgramCache) : empty.OfKind shadow cache :=
  fun _ hh ↦ absurd hh nofun

theorem OfKind.of_kept {shadow : Bool} {later : ProgramCache} (hkind : slot.OfKind shadow cache)
    (hkept : ∀ h, slot.handle = some h → later.key? h = cache.key? h) :
    slot.OfKind shadow later := by
  intro h hh
  rw [hkept h hh]
  exact hkind h hh

theorem StandsFor.ofKind {shadow : Bool} (hstands : slot.StandsFor cache key)
    (hkey : ∀ k, key = some k → k.isShadowDepth = shadow) : slot.OfKind shadow cache := by
  intro h hh
  rw [hstands.key_eq hh]
  cases key with
  | none => exact absurd (hh.symm.trans hstands.1) nofun
  | some k => exact congrArg some (hkey k rfl)

end ProgramSlot

namespace Renderer

variable {δ : Type} [Device δ] {alive : δ → ProgramId → Prop} {cache : ProgramCache} {device : δ}
  {uses : ProgramHandle → Nat} {slot : ProgramSlot} {t : Retargeted δ}

open ProgramCache

/-- An empty slot takes a program that is there. -/
theorem retarget_found (device : δ) {key : ProgramKey} {h : ProgramHandle} {e : CacheEntry}
    (hfind : cache.find? key = some h) (he : cache.entry? h = some e) {count : UInt32}
    (hcount : count.toNat = e.useCount.toNat + 1) :
    retarget cache device .empty (some key) =
      .ok ⟨none, ⟨some h, none⟩, cache.hit h count, device, []⟩ := by
  simp only [retarget]
  rw [if_neg (by simp [settled, ProgramSlot.empty]), acquire, acquireWith_hit hfind he hcount]
  rfl

/-- An empty slot gets a program that is not there yet. -/
theorem retarget_new {device' : δ} {key : ProgramKey} (hfind : cache.find? key = none)
    {source : ProgramSource} (hsource : synthesize cache.options key = .ok source)
    {p : LinkedProgram} (hlink : LinkedProgram.link device source = (.ok p, device')) :
    retarget cache device .empty (some key) =
      .ok ⟨none, ⟨some (cache.store ⟨key, source, p, 1⟩).1, none⟩,
        (cache.store ⟨key, source, p, 1⟩).2, device', []⟩ := by
  simp only [retarget]
  rw [if_neg (by simp [settled, ProgramSlot.empty]), acquire, acquireWith_miss hfind hsource,
    hlink]
  rfl

/-- What pointing a slot at another program leaves, the uses of the others being as they were. -/
structure Retargets (alive : δ → ProgramId → Prop) (uses : ProgramHandle → Nat)
    (cache : ProgramCache) (key : Option ProgramKey) (t : Retargeted δ) : Prop where
  accounts : Accounts alive t.cache t.device fun h ↦ uses h + held t.slot.handle h
  refusals : t.refusals = []
  exclusive : t.slot.Exclusive
  options : t.cache.options = cache.options
  /-- Programs that are held otherwise stay what they are. -/
  kept : ∀ h, 0 < uses h → t.cache.key? h = cache.key? h
  /-- The slot has the program that was asked for, if it could be built. -/
  stands : t.slot.StandsFor t.cache key

theorem retargets_of_settled (hexclusive : slot.Exclusive)
    (haccounts : Accounts alive cache device fun h ↦ uses h + held slot.handle h)
    {key : ProgramKey} (hsettled : settled cache key slot = true) :
    Retargets alive uses cache (some key) ⟨none, slot, cache, device, []⟩ := by
  refine ⟨haccounts, rfl, hexclusive, rfl, fun _ _ ↦ rfl, ?_⟩
  simp only [settled, Bool.or_eq_true, beq_iff_eq, Option.bind_eq_some_iff] at hsettled
  rcases hexclusive with hnone | hnone
  · refine .inr ⟨hnone, hsettled.resolve_left ?_⟩
    rintro ⟨h, hhandle, _⟩
    exact absurd (hhandle.symm.trans hnone) nofun
  · rcases hsettled with ⟨h, hhandle, hkey⟩ | hfailed
    · exact .inl ⟨h, hhandle, hkey, hnone⟩
    · exact absurd (hfailed.symm.trans hnone) nofun

theorem retargets (hdevice : KeepsPrograms alive) (hexclusive : slot.Exclusive)
    (haccounts : Accounts alive cache device fun h ↦ uses h + held slot.handle h)
    {key : Option ProgramKey} (hretarget : retarget cache device slot key = .ok t) :
    Retargets alive uses cache key t := by
  cases key with
  | none =>
    obtain ⟨cache', device', hrelease, haccounts', hoptions, hkept⟩ :=
      haccounts.releaseHandle hdevice
    simp only [retarget, hrelease] at hretarget
    cases hretarget
    exact ⟨haccounts', rfl, .inl rfl, hoptions, hkept, rfl, rfl⟩
  | some key =>
    simp only [retarget] at hretarget
    split at hretarget
    · rename_i hsettled
      cases hretarget
      exact retargets_of_settled hexclusive haccounts hsettled
    · rcases hacquire : cache.acquire device key with fault | ⟨result, cache', device'⟩
      · rw [hacquire] at hretarget
        exact absurd hretarget nofun
      · obtain ⟨hacquired, hoptions, hkey, hkept⟩ := haccounts.acquire hdevice hacquire
        have hreorder : Accounts alive cache' device'
            fun h ↦ (uses h + held result.toOption h) + held slot.handle h :=
          hacquired.of_eq fun h ↦ Nat.add_right_comm _ _ _
        obtain ⟨cache'', device'', hrelease, haccounts'', hoptions', hkept'⟩ :=
          hreorder.releaseHandle hdevice
        rw [hacquire] at hretarget
        have hheld {h : ProgramHandle} (hpos : 0 < uses h) :
            cache''.key? h = cache.key? h :=
          (hkept' h (Nat.lt_of_lt_of_le hpos (Nat.le_add_right _ _))).trans
            (hkept h (Nat.lt_of_lt_of_le hpos (Nat.le_add_right _ _)))
        cases result with
        | error e =>
          have ht :
              t = ⟨some e, { slot with handle := none, failed := some key }, cache'', device'',
                []⟩ := by
            rw [← Except.ok.inj hretarget]
            dsimp only
            rw [hrelease]
          subst ht
          exact ⟨haccounts'', rfl, .inl rfl, hoptions'.trans hoptions, fun h hpos ↦ hheld hpos,
            .inr ⟨rfl, rfl⟩⟩
        | ok handle =>
          have ht : t = ⟨none, { slot with handle := some handle, failed := none }, cache'',
              device'', []⟩ := by
            rw [← Except.ok.inj hretarget]
            dsimp only
            rw [hrelease]
          subst ht
          have hpos : 0 < uses handle + held (some handle) handle := by
            rw [held_self]
            exact Nat.succ_pos _
          exact ⟨haccounts'', rfl, .inr rfl, hoptions'.trans hoptions, fun h hpos ↦ hheld hpos,
            .inl ⟨handle, rfl, (hkept' handle hpos).trans (hkey handle rfl), rfl⟩⟩

end Renderer

end SceneRenderer
