import SceneRenderer.Proofs.Program.Accounts

/-!
The programs of a cache, whatever devices it is used with: each is the one that its key asks for,
and has places for no uniforms but those that its source declares.

`ProgramCache.Acquired.built` goes by induction on the calls.
-/

set_option autoImplicit false
set_option relaxedAutoImplicit false

namespace SceneRenderer

open Shader

namespace LinkedProgram

variable {δ κ ν : Type}

/-- Answers are to questions that were asked. -/
theorem mem_of_get?_askAll [DecidableEq κ] (ask : δ → κ → Option ν × δ) (device : δ) {keys : List κ}
    {k : κ} {v : ν} (hget : (askAll ask device keys).1.get? k = some v) : k ∈ keys := by
  rw [askAll_eq_foldl] at hget
  refine List.foldlRecOn (motive := fun s ↦ ∀ v, s.1.get? k = some v → k ∈ keys) keys (askOne ask)
    (fun v hnone ↦ ?_) (fun s hs next hnext v hv ↦ ?_) v hget
  · cases hnone
  · rw [get?_askOne] at hv
    split at hv
    · rename_i hk
      rwa [hk]
    · exact hs v hv

/-- A linked program has places for no uniforms but those of its source. -/
theorem mem_uniforms_of_link [Device δ] {device device' : δ} {source : ProgramSource}
    {p : LinkedProgram} (hlink : link device source = (.ok p, device')) {name : String}
    {location : UniformLocation} (hname : p.bindings.uniform? name = some location) :
    name ∈ source.uniforms := by
  unfold link at hlink
  split at hlink
  · cases (Prod.mk.inj hlink).1
  · rename_i id linked _
    obtain ⟨hp, _⟩ := Prod.mk.inj hlink
    rw [← Except.ok.inj hp] at hname
    exact mem_of_get?_askAll (fun d name ↦ Device.uniformLocation d id name) linked hname

end LinkedProgram

theorem CacheEntry.Built.mem_uniforms {δ : Type} [Device δ] {o : ShaderOptions} {e : CacheEntry}
    (he : e.Built δ o) {name : String} {location : UniformLocation}
    (hname : e.program.bindings.uniform? name = some location) : name ∈ e.source.uniforms := by
  obtain ⟨_, device, device', hlink⟩ := he
  exact LinkedProgram.mem_uniforms_of_link hlink hname

namespace ProgramCache

variable {δ : Type} [Device δ]

/-- A cache that acquiring, releasing and clearing lead to. Between the calls the device may become
any other. -/
inductive Acquired (δ : Type) [Device δ] (o : ShaderOptions) : ProgramCache → Prop
  | new : Acquired δ o (.new o)
  | acquire {c c' : ProgramCache} {device device' : δ} {k : ProgramKey}
    {result : Except ProgramError ProgramHandle} (hc : Acquired δ o c)
    (hacquire : c.acquire device k = .ok (result, c', device')) : Acquired δ o c'
  | release {c c' : ProgramCache} {h : ProgramHandle} {commands : List Command}
    (hc : Acquired δ o c) (hrelease : c.release h = .ok (commands, c')) : Acquired δ o c'
  | clear {c : ProgramCache} (hc : Acquired δ o c) : Acquired δ o c.clear.2

/-- The program in each slot is the one that its key asks for. -/
def AllBuilt (δ : Type) [Device δ] (c : ProgramCache) : Prop :=
  ∀ i e, c.entryAt? i = some e → e.Built δ c.options

/-- What is in a slot after storing an entry was there before, or is the entry. -/
theorem eq_or_of_entryAt?_store {c : ProgramCache} {e e' : CacheEntry} {i : UInt32}
    (he' : (c.store e).2.entryAt? i = some e') : e' = e ∨ c.entryAt? i = some e' := by
  unfold store at he'
  split at he'
  · rename_i j free _
    simp only [entryAt?, Array.getElem?_modify] at he' ⊢
    split at he'
    · rcases hslot : c.slots[i.toNat]? with _ | slot
      · rw [hslot] at he'
        cases he'
      · rw [hslot] at he'
        exact .inl (Option.some_inj.mp he').symm
    · exact .inr he'
  · simp only [entryAt?, Array.getElem?_push] at he' ⊢
    split at he'
    · exact .inl (Option.some_inj.mp he').symm
    · exact .inr he'

section Entries

variable {c c' : ProgramCache} {p : CacheEntry → Prop}

theorem options_acquire {device device' : δ} {k : ProgramKey}
    {result : Except ProgramError ProgramHandle}
    (hacquire : c.acquire device k = .ok (result, c', device')) : c'.options = c.options := by
  rcases acquireWith_ok hacquire with
    ⟨h, _, _, _, _, _, _, rfl, _⟩ | ⟨_, source, _, ⟨_, _, _, rfl⟩ | ⟨program, _, _, rfl⟩⟩
  · rfl
  · rfl
  · exact options_store _ _

/-- What holds of the entries of a cache, whatever their uses, and of a linked program holds of the
entries after an acquisition. -/
theorem forall_entryAt?_acquire {device device' : δ} {k : ProgramKey}
    {result : Except ProgramError ProgramHandle}
    (hacquire : c.acquire device k = .ok (result, c', device'))
    (huses : ∀ e n, p e → p { e with useCount := n })
    (hlinked : ∀ source program, synthesize c.options k = .ok source →
      LinkedProgram.link device source = (.ok program, device') → p ⟨k, source, program, 1⟩)
    (hc : ∀ i e, c.entryAt? i = some e → p e) : ∀ i e, c'.entryAt? i = some e → p e := by
  intro i e' he'
  rcases acquireWith_ok hacquire with
    ⟨h, _, uses, _, _, _, _, rfl, _⟩ |
      ⟨_, source, hsource, ⟨_, _, _, rfl⟩ | ⟨program, hlink, _, rfl⟩⟩
  · change (c.modifyEntry h fun e ↦ { e with useCount := uses }).entryAt? i = _ at he'
    rw [entryAt?_modifyEntry] at he'
    split at he'
    · obtain ⟨e, he, rfl⟩ := Option.map_eq_some_iff.mp he'
      exact huses e _ (hc i e he)
    · exact hc i e' he'
  · exact hc i e' he'
  · rcases eq_or_of_entryAt?_store he' with rfl | hbefore
    · exact hlinked source program hsource hlink
    · exact hc i e' hbefore

/-- A release ends no more than that. -/
theorem forall_entryAt?_release {h : ProgramHandle} {commands : List Command}
    (hrelease : c.release h = .ok (commands, c')) (huses : ∀ e n, p e → p { e with useCount := n })
    (hc : ∀ i e, c.entryAt? i = some e → p e) : ∀ i e, c'.entryAt? i = some e → p e := by
  intro i e' he'
  rw [release_eq] at hrelease
  split at hrelease
  · rename_i entry _
    split at hrelease
    · have hcache : (c.destroyAt h.index entry).2 = c' :=
        congrArg Prod.snd (Except.ok.inj hrelease)
      rw [← hcache, entryAt?_destroyAt] at he'
      split at he'
      · cases he'
      · exact hc i e' he'
    · have hcache : (c.modifyEntry h fun e ↦ { e with useCount := e.useCount - 1 }) = c' :=
        congrArg Prod.snd (Except.ok.inj hrelease)
      rw [← hcache, entryAt?_modifyEntry] at he'
      split at he'
      · obtain ⟨e, he, rfl⟩ := Option.map_eq_some_iff.mp he'
        exact huses e _ (hc i e he)
      · exact hc i e' he'
  · cases hrelease

end Entries

/-- The programs that were acquired are those that their keys ask for. -/
theorem Acquired.built {o : ShaderOptions} {c : ProgramCache} (hc : Acquired δ o c) :
    c.options = o ∧ c.AllBuilt δ := by
  induction hc with
  | new => exact ⟨rfl, fun i e he ↦ absurd he (by simp [ProgramCache.new, entryAt?])⟩
  | @acquire c c' device device' k result hc hacquire ih =>
    obtain ⟨hoptions, hbuilt⟩ := ih
    have hsame := options_acquire hacquire
    refine ⟨hsame.trans hoptions, fun i e he ↦ ?_⟩
    rw [hsame]
    exact forall_entryAt?_acquire hacquire (fun e _ he ↦ he)
      (fun source program hsource hlink ↦ ⟨hsource, device, device', hlink⟩) hbuilt i e he
  | @release c c' h commands hc hrelease ih =>
    obtain ⟨hoptions, hbuilt⟩ := ih
    have hsame := options_release hrelease
    refine ⟨hsame.trans hoptions, fun i e he ↦ ?_⟩
    rw [hsame]
    exact forall_entryAt?_release hrelease (fun e _ he ↦ he) hbuilt i e he
  | @clear c hc ih =>
    refine ⟨ih.1, fun i e he ↦ ?_⟩
    rw [entryAt?_clear] at he
    cases he

theorem Acquired.entry_built {o : ShaderOptions} {c : ProgramCache} (hc : Acquired δ o c)
    {h : ProgramHandle} {e : CacheEntry} (he : c.entry? h = some e) : e.Built δ o := by
  obtain ⟨hoptions, hbuilt⟩ := hc.built
  rw [← hoptions]
  exact hbuilt _ e (entry?_eq_some_iff.mp he).2

end ProgramCache

end SceneRenderer
