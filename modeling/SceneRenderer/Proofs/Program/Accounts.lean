import Mathlib.Data.Finset.Card
import Mathlib.Data.Finset.Image
import Mathlib.Data.Finset.Range
import SceneRenderer.Proofs.Device.LivePrograms
import SceneRenderer.Proofs.Program.CacheSound
import SceneRenderer.Renderer.Basic

/-!
A program cache whose uses are accounted for: every use of a program is one that somebody outside
holds. What is held can be given back, and a program that is acquired is new to the device or
shared.
-/

set_option autoImplicit false
set_option relaxedAutoImplicit false

namespace SceneRenderer

open Shader

/-- The program of an entry is the one its key asks for, linked on some device. -/
def CacheEntry.Built (δ : Type) [Device δ] (options : ShaderOptions) (e : CacheEntry) : Prop :=
  synthesize options e.key = .ok e.source ∧
    ∃ device device' : δ, LinkedProgram.link device e.source = (.ok e.program, device')

/-- The uses that one holder has of a handle. -/
def held (holder : Option ProgramHandle) (h : ProgramHandle) : Nat :=
  if holder = some h then 1 else 0

@[simp] theorem held_none (h : ProgramHandle) : held none h = 0 := rfl

@[simp] theorem held_self (h : ProgramHandle) : held (some h) h = 1 := if_pos rfl

theorem held_of_ne {h h' : ProgramHandle} (hne : h' ≠ h) : held (some h) h' = 0 :=
  if_neg fun heq ↦ hne (Option.some_inj.mp heq).symm

namespace ProgramCache

/-- A cache whose slots are all taken has a program in each; one more identity is one too many. -/
theorem Sound.hasRoom {c : ProgramCache} (hc : c.Sound)
    (hdistinct : ∀ i j e e', c.entryAt? i = some e → c.entryAt? j = some e' →
      e.program.id = e'.program.id → i = j)
    {id : ProgramId} (hnew : ∀ i e, c.entryAt? i = some e → e.program.id ≠ id) : c.HasRoom := by
  intro hfree
  have htoNat {n : Nat} (hn : n < c.slots.size) : (UInt32.ofNat n).toNat = n :=
    UInt32.toNat_ofNat_of_lt' (Nat.lt_of_lt_of_le hn hc.bounded)
  have hentry : ∀ n < c.slots.size, ∃ e, c.entryAt? (UInt32.ofNat n) = some e := by
    intro n hn
    cases he : c.entryAt? (UInt32.ofNat n) with
    | none =>
      have hmem := (hc.mem_free (UInt32.ofNat n)).mpr ⟨by rwa [htoNat hn], he⟩
      rw [hfree] at hmem
      exact absurd hmem List.not_mem_nil
    | some e => exact ⟨e, rfl⟩
  let idAt (n : Nat) : Nat :=
    ((c.entryAt? (UInt32.ofNat n)).map (·.program.id.raw.toNat)).getD 0
  have hidAt : ∀ n < c.slots.size, ∃ e,
      c.entryAt? (UInt32.ofNat n) = some e ∧ idAt n = e.program.id.raw.toNat := by
    intro n hn
    obtain ⟨e, he⟩ := hentry n hn
    exact ⟨e, he, by simp only [idAt, he, Option.map_some, Option.getD_some]⟩
  have hinj : Set.InjOn idAt (Finset.range c.slots.size) := by
    intro n hn m hm heq
    obtain ⟨e, he, hidn⟩ := hidAt n (Finset.mem_range.mp hn)
    obtain ⟨e', he', hidm⟩ := hidAt m (Finset.mem_range.mp hm)
    rw [hidn, hidm, UInt32.toNat_inj] at heq
    have hid : e.program.id = e'.program.id := congrArg ProgramId.mk heq
    have hindex := congrArg UInt32.toNat (hdistinct _ _ e e' he he' hid)
    rwa [htoNat (Finset.mem_range.mp hn), htoNat (Finset.mem_range.mp hm)] at hindex
  have hmaps : (Finset.range c.slots.size).image idAt ⊆
      (Finset.range (2 ^ 32)).erase id.raw.toNat := by
    intro i hi
    obtain ⟨n, hn, rfl⟩ := Finset.mem_image.mp hi
    obtain ⟨e, he, hid⟩ := hidAt n (Finset.mem_range.mp hn)
    rw [hid, Finset.mem_erase, Finset.mem_range]
    refine ⟨fun heq ↦ hnew _ e he ?_, UInt32.toNat_lt _⟩
    exact congrArg ProgramId.mk (UInt32.toNat_inj.mp heq)
  have hcard := Finset.card_le_card hmaps
  rw [Finset.card_image_of_injOn hinj, Finset.card_range,
    Finset.card_erase_of_mem (Finset.mem_range.mpr (UInt32.toNat_lt _)), Finset.card_range] at hcard
  omega

variable {δ : Type} [Device δ]

/-- The uses that the cache counts are those that are held. -/
structure Accounts (alive : δ → ProgramId → Prop) (c : ProgramCache) (device : δ)
    (uses : ProgramHandle → Nat) : Prop where
  sound : c.Sound
  useCount : ∀ h, ((c.entry? h).map (·.useCount.toNat)).getD 0 = uses h
  built : ∀ h e, c.entry? h = some e → e.Built δ c.options
  alive : ∀ h e, c.entry? h = some e → alive device e.program.id
  distinct : ∀ h h' e e', c.entry? h = some e → c.entry? h' = some e' →
    e.program.id = e'.program.id → h = h'

theorem accounts_new (alive : δ → ProgramId → Prop) (options : ShaderOptions) (device : δ) :
    Accounts alive (.new options) device fun _ ↦ 0 := by
  have hnone (h : ProgramHandle) : ProgramCache.entry? (new options) h = none := by
    simp [ProgramCache.entry?, entryAt?, new]
  refine ⟨sound_new options, ?_, ?_, ?_, ?_⟩
  · intro h
    rw [hnone]
    rfl
  · intro h e he
    rw [hnone] at he
    cases he
  · intro h e he
    rw [hnone] at he
    cases he
  · intro h h' e e' he
    rw [hnone] at he
    cases he

namespace Accounts

variable {alive : δ → ProgramId → Prop} {c c' : ProgramCache} {device device' : δ}
  {uses : ProgramHandle → Nat} {h : ProgramHandle}

theorem of_outlives (haccounts : Accounts alive c device uses)
    (hdevice : Outlives alive device device') : Accounts alive c device' uses :=
  { haccounts with alive := fun h e he ↦ hdevice _ (haccounts.alive h e he) }

theorem of_eq {uses' : ProgramHandle → Nat} (haccounts : Accounts alive c device uses)
    (huses : ∀ h, uses' h = uses h) : Accounts alive c device uses' :=
  { haccounts with useCount := fun h ↦ (haccounts.useCount h).trans (huses h).symm }

theorem useCount_eq (haccounts : Accounts alive c device uses) {e : CacheEntry}
    (he : c.entry? h = some e) : e.useCount.toNat = uses h := by
  have huses := haccounts.useCount h
  rwa [he] at huses

theorem entry?_of_uses (haccounts : Accounts alive c device uses) (hpos : 0 < uses h) :
    ∃ e, c.entry? h = some e ∧ e.useCount.toNat = uses h := by
  cases he : c.entry? h with
  | none =>
    have huses := haccounts.useCount h
    rw [he] at huses
    exact absurd hpos (Nat.not_lt.mpr (Nat.le_of_eq huses.symm))
  | some e => exact ⟨e, rfl, haccounts.useCount_eq he⟩

/-- One more identity finds a slot. -/
theorem hasRoom (haccounts : Accounts alive c device uses) {id : ProgramId}
    (hnew : ∀ h e, c.entry? h = some e → e.program.id ≠ id) : c.HasRoom := by
  have hentry {i : UInt32} {e : CacheEntry} (he : c.entryAt? i = some e) :
      c.entry? ⟨i, c.generationAt i⟩ = some e := entry?_eq_some_iff.mpr ⟨rfl, he⟩
  refine haccounts.sound.hasRoom (fun i j e e' he he' hid ↦ ?_) fun i e he ↦ hnew _ e (hentry he)
  exact congrArg ProgramHandle.index (haccounts.distinct _ _ e e' (hentry he) (hentry he') hid)

/-! ### Releasing -/

/-- Every entry was there before, with other uses at most. -/
def Inherits (c later : ProgramCache) : Prop :=
  ∀ h e', later.entry? h = some e' →
    ∃ e, c.entry? h = some e ∧ e'.key = e.key ∧ e'.source = e.source ∧ e'.program = e.program

theorem inherit (haccounts : Accounts alive c device uses) {later : ProgramCache}
    {uses' : ProgramHandle → Nat} (hsound : later.Sound) (hoptions : later.options = c.options)
    (hinherits : Inherits c later)
    (hcount : ∀ h, ((later.entry? h).map (·.useCount.toNat)).getD 0 = uses' h)
    (halive : ∀ h e, c.entry? h = some e → later.entry? h ≠ none → alive device' e.program.id) :
    Accounts alive later device' uses' := by
  refine ⟨hsound, hcount, ?_, ?_, ?_⟩
  · intro h e' he'
    obtain ⟨e, he, hkey, hsource, hprogram⟩ := hinherits h e' he'
    have hbuilt := haccounts.built h e he
    unfold CacheEntry.Built at hbuilt ⊢
    rwa [hkey, hsource, hprogram, hoptions]
  · intro h e' he'
    obtain ⟨e, he, _, _, hprogram⟩ := hinherits h e' he'
    rw [hprogram]
    exact halive h e he (by rw [he']; exact nofun)
  · intro h₁ h₂ e₁ e₂ he₁ he₂ hid
    obtain ⟨f₁, hf₁, _, _, hp₁⟩ := hinherits h₁ e₁ he₁
    obtain ⟨f₂, hf₂, _, _, hp₂⟩ := hinherits h₂ e₂ he₂
    rw [hp₁, hp₂] at hid
    exact haccounts.distinct h₁ h₂ f₁ f₂ hf₁ hf₂ hid

theorem release (hdevice : KeepsPrograms alive)
    (haccounts : Accounts alive c device fun h' ↦ uses h' + held (some h) h')
    {commands : List Command} (hrelease : c.release h = .ok (commands, c')) :
    Accounts alive c' (Device.submitAll device commands) uses := by
  obtain ⟨e, he, hsound, rfl, hentries⟩ := release_ok haccounts.sound hrelease
  have hcount := haccounts.useCount_eq he
  rw [held_self] at hcount
  refine haccounts.inherit hsound (options_release hrelease) ?_ ?_ ?_
  · intro h' e' he'
    rw [hentries] at he'
    split at he'
    · rename_i heq
      split at he'
      · exact absurd he' nofun
      · cases he'
        exact ⟨e, heq ▸ he, rfl, rfl, rfl⟩
    · exact ⟨e', he', rfl, rfl, rfl⟩
  · intro h'
    have huses := haccounts.useCount h'
    rw [hentries]
    by_cases heq : h' = h
    · subst heq
      rw [if_pos rfl]
      by_cases hlast : e.useCount.toNat = 1
      · rw [if_pos hlast]
        show 0 = uses h'
        omega
      · rw [if_neg hlast]
        show (e.useCount - 1).toNat = uses h'
        rw [toNat_useCount_sub_one (by omega)]
        omega
    · rw [if_neg heq, huses, held_of_ne heq]
      rfl
  · intro h' e' he' hkept
    have halive := haccounts.alive h' e' he'
    by_cases hlast : e.useCount.toNat = 1
    · rw [if_pos hlast]
      refine hdevice.submit device _ _ (fun heq ↦ ?_) halive
      have hh : h = h' := haccounts.distinct h h' e e' he he' (Command.deleteProgram.inj heq)
      rw [hentries, if_pos hh.symm, if_pos hlast] at hkept
      exact absurd rfl hkept
    · rwa [if_neg hlast]

/-- A use that is held can be given back. Programs that are held otherwise stay what they are. -/
theorem releaseHandle (hdevice : KeepsPrograms alive) {holder : Option ProgramHandle}
    (haccounts : Accounts alive c device fun h ↦ uses h + held holder h) :
    ∃ c' device', Renderer.releaseHandle c device holder = ([], c', device') ∧
      Accounts alive c' device' uses ∧ c'.options = c.options ∧
      ∀ h, 0 < uses h → c'.key? h = c.key? h := by
  cases holder with
  | none => exact ⟨c, device, rfl, haccounts.of_eq fun _ ↦ rfl, rfl, fun _ _ ↦ rfl⟩
  | some h =>
    have hpos : 0 < uses h + held (some h) h := by rw [held_self]; exact Nat.succ_pos _
    obtain ⟨e, he, _⟩ := haccounts.entry?_of_uses hpos
    obtain ⟨⟨commands, c'⟩, hrelease⟩ := release_isOk_iff.mpr ⟨e, he⟩
    refine ⟨c', Device.submitAll device commands, ?_, haccounts.release hdevice hrelease,
      options_release hrelease, ?_⟩
    · simp only [Renderer.releaseHandle, hrelease]
    · intro h' hpos'
      obtain ⟨e', he', _, _, hentries⟩ := release_ok haccounts.sound hrelease
      rw [key?, key?, hentries]
      by_cases heq : h' = h
      · subst heq
        have hcount := haccounts.useCount_eq he'
        rw [held_self] at hcount
        have hmore : e'.useCount.toNat ≠ 1 := by omega
        rw [if_pos rfl, if_neg hmore, he']
        rfl
      · rw [if_neg heq]

/-! ### Acquiring -/

theorem hit (haccounts : Accounts alive c device uses) {e : CacheEntry}
    (he : c.entry? h = some e) {count : UInt32} (hcount : count.toNat = e.useCount.toNat + 1) :
    Accounts alive (c.hit h count) device fun h' ↦ uses h' + held (some h) h' := by
  have hentries := fun h' ↦ entry?_hit h' he count
  refine haccounts.inherit (haccounts.sound.hit h (hcount ▸ Nat.succ_pos _)) rfl ?_ ?_ ?_
  · intro h' e' he'
    rw [hentries] at he'
    split at he'
    · rename_i heq
      cases he'
      exact ⟨e, heq ▸ he, rfl, rfl, rfl⟩
    · exact ⟨e', he', rfl, rfl, rfl⟩
  · intro h'
    rw [hentries]
    by_cases heq : h' = h
    · subst heq
      rw [if_pos rfl, held_self, ← haccounts.useCount_eq he]
      exact hcount
    · rw [if_neg heq, held_of_ne heq, haccounts.useCount]
      rfl
  · exact fun h' e' he' _ ↦ haccounts.alive h' e' he'

theorem store (haccounts : Accounts alive c device uses) {e : CacheEntry}
    (hfind : c.find? e.key = none) (huse : e.useCount = 1) (hbuilt : e.Built δ c.options)
    (hnew : ¬ alive device e.program.id) (hlive : alive device' e.program.id)
    (houtlives : Outlives alive device device') :
    Accounts alive (c.store e).2 device' fun h ↦ uses h + held (some (c.store e).1) h := by
  have hother : ∀ h e', c.entry? h = some e' → e'.program.id ≠ e.program.id :=
    fun h e' he' heq ↦ hnew (heq ▸ haccounts.alive h e' he')
  have hroom := haccounts.hasRoom hother
  have hentries := fun h' ↦ entry?_store (e := e) h' haccounts.sound hroom
  have hself := entry?_store_self (e := e) haccounts.sound hroom
  have hnewKey := byKey_eq_none haccounts.sound hfind
  have hpos : 0 < e.useCount.toNat := huse ▸ Nat.one_pos
  refine ⟨haccounts.sound.store hroom hnewKey hpos, ?_, ?_, ?_, ?_⟩
  · intro h
    rw [hentries]
    have huses := haccounts.useCount h
    by_cases heq : h = (c.store e).1
    · rw [heq, hself] at huses
      have hzero : uses (c.store e).1 = 0 := huses.symm
      rw [if_pos heq, heq, hzero, held_self, Option.map_some, huse]
      rfl
    · rw [if_neg heq, held_of_ne heq]
      exact huses
  · intro h e' he'
    rw [hentries] at he'
    rw [options_store]
    split at he'
    · cases he'
      exact hbuilt
    · exact haccounts.built h e' he'
  · intro h e' he'
    rw [hentries] at he'
    split at he'
    · cases he'
      exact hlive
    · exact houtlives _ (haccounts.alive h e' he')
  · intro h₁ h₂ e₁ e₂ he₁ he₂ hid
    rw [hentries] at he₁ he₂
    split at he₁
    · split at he₂
      · simp_all
      · cases he₁
        exact absurd hid.symm (hother _ _ he₂)
    · split at he₂
      · cases he₂
        exact absurd hid (hother _ _ he₁)
      · exact haccounts.distinct h₁ h₂ e₁ e₂ he₁ he₂ hid

/-- An acquisition that gives an answer. -/
theorem acquire (hdevice : KeepsPrograms alive) (haccounts : Accounts alive c device uses)
    {k : ProgramKey} {result : Except ProgramError ProgramHandle}
    (hacquire : c.acquire device k = .ok (result, c', device')) :
    Accounts alive c' device' (fun h ↦ uses h + held result.toOption h) ∧
      c'.options = c.options ∧ (∀ h, result = .ok h → c'.key? h = some k) ∧
      ∀ h, 0 < uses h → c'.key? h = c.key? h := by
  rcases acquireWith_ok hacquire with
    ⟨h, e, count, hfind, he, hcount, rfl, rfl, rfl⟩ | ⟨hfind, source, hsource, hlinked⟩
  · obtain ⟨e', he', rfl⟩ := (find?_eq_some_iff haccounts.sound).mp hfind
    obtain rfl : e' = e := Option.some_inj.mp (he'.symm.trans he)
    refine ⟨haccounts.hit he hcount, rfl, ?_, ?_⟩
    · intro h' hh
      cases hh
      rw [key?, entry?_hit h he count, if_pos rfl]
      rfl
    · intro h' _
      rw [key?, key?, entry?_hit h' he count]
      by_cases heq : h' = h
      · subst heq
        rw [if_pos rfl, he]
        rfl
      · rw [if_neg heq]
  · obtain ⟨houtlives, hcreated⟩ := hdevice.link device source
    rcases hlinked with ⟨e, hlink, rfl, rfl⟩ | ⟨program, hlink, rfl, rfl⟩
    · rw [hlink] at houtlives
      have hfailed : Accounts alive c.fail device' uses := by
        have hsame := haccounts.of_outlives houtlives
        obtain ⟨⟨hbounded, hbyKey, hnodup, hfree, huse⟩, hcount, hbuilt, halive, hdistinct⟩ := hsame
        exact ⟨⟨hbounded, hbyKey, hnodup, hfree, huse⟩, hcount, hbuilt, halive, hdistinct⟩
      exact ⟨hfailed.of_eq fun _ ↦ rfl, rfl, fun h hh ↦ absurd hh nofun, fun _ _ ↦ rfl⟩
    · obtain ⟨hnew, hlive⟩ := hcreated program device' hlink
      rw [hlink] at houtlives
      have hstored := haccounts.store (e := ⟨k, source, program, 1⟩) hfind rfl
        ⟨hsource, device, device', hlink⟩ hnew hlive houtlives
      have hother : ∀ h e', c.entry? h = some e' → e'.program.id ≠ program.id :=
        fun h e' he' heq ↦ hnew (heq ▸ haccounts.alive h e' he')
      have hroom := haccounts.hasRoom hother
      refine ⟨hstored, c.options_store _, ?_, ?_⟩
      · intro h hh
        cases hh
        rw [key?, entry?_store _ haccounts.sound hroom, if_pos rfl]
        rfl
      · intro h hpos
        obtain ⟨e, he, _⟩ := haccounts.entry?_of_uses hpos
        have hne : h ≠ (c.store ⟨k, source, program, 1⟩).1 := by
          rintro rfl
          rw [entry?_store_self haccounts.sound hroom] at he
          exact absurd he nofun
        rw [key?, key?, entry?_store h haccounts.sound hroom, if_neg hne]

end Accounts

end ProgramCache

end SceneRenderer
