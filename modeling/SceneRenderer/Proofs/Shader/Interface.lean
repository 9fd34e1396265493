import SceneRenderer.Proofs.Shader.CanonicalKey

/-!
The two stages of a program fit together. Neither stage names a global twice, what the fragments are
handed by name the vertices have sent under that name and type, and a global that both stages read
is the same for both.

Which varyings a stage declares is decided feature by feature and separately in each stage
(`varying_mem_vertexRecords` compares the two); that a global has one declaration is a matter of its
name alone, by `Name.signature`. The main statement is `stages_fit`.
-/

set_option autoImplicit false
set_option relaxedAutoImplicit false

namespace SceneRenderer.Shader

open Shader.Record Name

/-! ### One declaration for each name -/

namespace Stage

/-- No name is declared twice. -/
def Unambiguous (s : Stage) : Prop := (s.declarations.map (·.name)).Nodup

/-- A call declares a name only where the stage does not have it. -/
theorem Unambiguous.apply {s t : Stage} (hs : s.Unambiguous) {call : Call}
    (hstep : s.apply call = .ok t) : t.Unambiguous := by
  unfold Unambiguous at hs ⊢
  cases call with
  | declare d =>
    unfold Stage.apply at hstep
    cases hfind : s.declaration? d.name with
    | some e =>
      simp only [hfind] at hstep
      split at hstep
      · cases hstep
        exact hs
      · exact absurd hstep nofun
    | none =>
      simp only [hfind] at hstep
      cases hstep
      have hnew : d.name ∉ s.declarations.map (·.name) := by
        intro hmem
        obtain ⟨e, he, hname⟩ := List.mem_map.mp hmem
        have hother := List.find?_eq_none.mp hfind e he
        simp [hname] at hother
      rw [List.map_append, List.map_singleton]
      exact List.nodup_append.mpr ⟨hs, List.nodup_singleton _, by grind⟩
  | directive line =>
    obtain rfl := Except.ok.inj hstep
    split <;> exact hs
  | define d =>
    obtain rfl := Except.ok.inj hstep
    split <;> exact hs
  | statement line => cases hstep; exact hs
  | openBlock header => cases hstep; exact hs
  | closeBlock => cases hstep; exact hs

theorem Unambiguous.applyAll {s t : Stage} (hs : s.Unambiguous) {calls : List Call}
    (hrun : s.applyAll calls = .ok t) : t.Unambiguous := by
  induction calls generalizing s with
  | nil =>
    cases hrun
    exact hs
  | cons call rest ih =>
    rw [Stage.applyAll, List.foldlM_cons] at hrun
    rcases hstep : s.apply call with fault | middle
    · rw [hstep] at hrun
      cases hrun
    · rw [hstep] at hrun
      exact ih (hs.apply hstep) hrun

theorem unambiguous_ofRecords {records : List Record} {s : Stage}
    (hs : Stage.ofRecords records = .ok s) : s.Unambiguous :=
  Unambiguous.applyAll (s := .empty) List.nodup_nil hs

end Stage

/-! ### What the fragments are handed -/

/-- The fragment stage takes no varying that the vertex stage does not send. -/
theorem varying_mem_vertexRecords {c : Features} {o : ShaderOptions} {filter : List Record}
    (hfilter : globals filter = []) {n : Name} {type : GlslType}
    (hvarying : n.signature c.quantized = some (.varying, type))
    (hn : n ∈ globals (filteredFragmentRecords c o filter)) :
    n ∈ globals (vertexRecords c o) := by
  rw [globals_filteredFragmentRecords c o filter hfilter] at hn
  rw [globals_vertexRecords]
  cases n with
  | vViewPosition | vViewNormal | vUV | vColor | vWorldPosition =>
    simpa [hfilter] using hn
  | vLight i =>
    obtain ⟨hshaded, slot, hslot, hworld, rfl⟩ : c.isShaded = true ∧
        ∃ slot ∈ c.lightSlots, slot.isWorldSpace = true ∧ i = slot.index := by
      simpa [hfilter] using hn
    simpa [hshaded] using ⟨slot, ⟨hslot, hworld⟩, rfl⟩
  | vSpotDir i =>
    obtain ⟨hshaded, slot, hslot, ⟨hspot, hworld⟩, rfl⟩ : c.isShaded = true ∧
        ∃ slot ∈ c.lightSlots, (slot.type = .spot ∧ slot.isWorldSpace = true) ∧
          i = slot.index := by simpa [hfilter] using hn
    simpa [hshaded] using ⟨slot, ⟨hslot, hworld⟩, hspot, rfl⟩
  | vShadowPos i =>
    obtain ⟨hshaded, slot, hslot, hcasts, rfl⟩ : c.isShaded = true ∧
        ∃ slot ∈ c.lightSlots, slot.castsShadow = true ∧ i = slot.index := by
      simpa [hfilter] using hn
    simpa [Features.shadowSlots] using
      ⟨⟨slot, hslot, hcasts⟩, slot, ⟨hslot, hcasts⟩, rfl⟩
  | vertexInput a => cases a <;> simp at hvarying
  | _ => simp at hvarying

/-! ### Both stages -/

/-- The vertex stage `v` and the fragment stage `f` of a program fit together. -/
structure StagesFit (v f : Stage) : Prop where
  vertex : v.Unambiguous
  fragment : f.Unambiguous
  /-- The vertices send what the fragments are handed. -/
  varyings : ∀ d ∈ f.declarations, d.qualifier = .varying → d ∈ v.declarations
  /-- A name that both stages declare has the same qualifier and type in both. -/
  shared : ∀ d ∈ v.declarations, ∀ e ∈ f.declarations, d.name = e.name → d = e

section Fit

variable {q : Bool} {records : List Record} {s : Stage}

theorem built_of_ofRecords (hrespects : records.all (Record.respects q) = true)
    (hs : Stage.ofRecords records = .ok s) : Built records s := by
  obtain ⟨t, ht, hbuilt⟩ := built_of_respects hrespects
  rw [hs] at ht
  cases ht
  exact hbuilt

/-- A stage declares its globals, each with the qualifier and type of its name. -/
theorem mem_declarations_iff (hrespects : records.all (Record.respects q) = true)
    (hs : Built records s) (d : Declaration) :
    d ∈ s.declarations ↔ ∃ n ∈ globals records, ∃ qualifier type,
      n.signature q = some (qualifier, type) ∧ d = ⟨qualifier, type.text, n.text⟩ := by
  rw [hs.gained.declarations]
  constructor
  · intro hd
    obtain ⟨qualifier, type, n, hn, rfl⟩ :=
      declare_mem_toCall (hd.resolve_left List.not_mem_nil)
    refine ⟨n, List.mem_filterMap.mpr ⟨_, hn, rfl⟩, qualifier, type, ?_, rfl⟩
    exact eq_of_beq (List.all_eq_true.mp hrespects _ hn)
  · rintro ⟨n, hn, qualifier, type, hsignature, rfl⟩
    obtain ⟨r, hr, hglobal⟩ := List.mem_filterMap.mp hn
    cases r with
    | declare qualifier' type' m =>
      obtain rfl : m = n := Option.some_inj.mp hglobal
      have hsame := eq_of_beq (List.all_eq_true.mp hrespects _ hr)
      cases hsignature.symm.trans hsame
      exact .inr (List.mem_map.mpr ⟨_, hr, rfl⟩)
    | _ => exact absurd hglobal nofun

/-- Stages that respect one list of signatures fit, if no varying is missing. -/
theorem stagesFit_of_respects {vertexRecords fragmentRecords : List Record} {v f : Stage}
    (hvertex : vertexRecords.all (Record.respects q) = true)
    (hfragment : fragmentRecords.all (Record.respects q) = true)
    (hv : Stage.ofRecords vertexRecords = .ok v) (hf : Stage.ofRecords fragmentRecords = .ok f)
    (hvaryings : ∀ n type, n.signature q = some (.varying, type) → n ∈ globals fragmentRecords →
      n ∈ globals vertexRecords) : StagesFit v f := by
  have hmem := mem_declarations_iff hvertex (built_of_ofRecords hvertex hv)
  have hmem' := mem_declarations_iff hfragment (built_of_ofRecords hfragment hf)
  refine ⟨Stage.unambiguous_ofRecords hv, Stage.unambiguous_ofRecords hf, ?_, ?_⟩
  · intro d hd hvarying
    obtain ⟨n, hn, qualifier, type, hsignature, rfl⟩ := (hmem' d).mp hd
    obtain rfl : qualifier = .varying := hvarying
    exact (hmem _).mpr ⟨n, hvaryings n type hsignature hn, .varying, type, hsignature, rfl⟩
  · intro d hd e he hname
    obtain ⟨n, _, qualifier, type, hsignature, rfl⟩ := (hmem d).mp hd
    obtain ⟨m, _, qualifier', type', hsignature', rfl⟩ := (hmem' e).mp he
    obtain rfl : n = m := Name.text_injective hname
    cases hsignature.symm.trans hsignature'
    rfl

end Fit

/-- The records behind the stages of a draw program. -/
theorem drawStages_eq {c : Features} {o : ShaderOptions} {v f : Stage}
    (hstages : drawStages c o = .ok (v, f)) :
    ∃ filter, shadowFilterRecords c o = .ok filter ∧
      Stage.ofRecords (vertexRecords c o) = .ok v ∧
      Stage.ofRecords (filteredFragmentRecords c o filter) = .ok f := by
  rcases hv : Stage.ofRecords (vertexRecords c o) with fault | vertex
  · simp only [drawStages, hv] at hstages
    cases hstages
  rcases hfilter : shadowFilterRecords c o with fault | filter
  · simp only [drawStages, hv, fragmentRecords, hfilter] at hstages
    cases hstages
  rcases hf : Stage.ofRecords (filteredFragmentRecords c o filter) with fault | fragment
  · simp only [drawStages, hv, fragmentRecords, hfilter, bind, Except.bind, pure, Except.pure, hf]
      at hstages
    cases hstages
  · simp only [drawStages, hv, fragmentRecords, hfilter, bind, Except.bind, pure, Except.pure, hf]
      at hstages
    cases hstages
    exact ⟨filter, rfl, rfl, hf⟩

/-- The records behind the stages of a depth program. -/
theorem depthStages_eq {d : DepthFeatures} {o : ShaderOptions} {v f : Stage}
    (hstages : depthStages d o = .ok (v, f)) :
    Stage.ofRecords (depthVertexRecords d o) = .ok v ∧
      Stage.ofRecords (depthFragmentRecords o) = .ok f := by
  rcases hv : Stage.ofRecords (depthVertexRecords d o) with fault | vertex
  · simp only [depthStages, hv] at hstages
    cases hstages
  rcases hf : Stage.ofRecords (depthFragmentRecords o) with fault | fragment
  · simp only [depthStages, hv, bind, Except.bind, hf] at hstages
    cases hstages
  · simp only [depthStages, hv, bind, Except.bind, hf] at hstages
    cases hstages
    exact ⟨rfl, rfl⟩

theorem stagesFit_of_stages {o : ShaderOptions} {k : ProgramKey} {v f : Stage}
    (hstages : stages o k = .ok (v, f)) : StagesFit v f := by
  cases k with
  | draw c =>
    obtain ⟨filter, hfilter, hv, hf⟩ := drawStages_eq hstages
    refine stagesFit_of_respects (respects_vertexRecords c o)
      (respects_filteredFragmentRecords c.quantized c o filter
        (respects_shadowFilterRecords hfilter _)) hv hf fun n type hvarying hn ↦ ?_
    exact varying_mem_vertexRecords (globals_shadowFilterRecords hfilter) hvarying hn
  | shadowDepth d =>
    obtain ⟨hv, hf⟩ := depthStages_eq hstages
    refine stagesFit_of_respects (respects_depthVertexRecords d o)
      (respects_depthFragmentRecords d.quantized o) hv hf fun n type _ hn ↦ ?_
    exact absurd hn (by simp [depthFragmentRecords, precisionRecord])

/-- Every program has stages, whatever its features, unless the filter of shadow maps is too wide;
and they fit together. -/
theorem stages_fit {o : ShaderOptions} (hradius : o.kernelRadius ≤ maxKernelRadius)
    (k : ProgramKey) : ∃ v f, stages o k = .ok (v, f) ∧ StagesFit v f := by
  obtain ⟨v, f, hstages⟩ : ∃ v f, stages o k = .ok (v, f) := by
    cases k with
    | draw c =>
      obtain ⟨_, v, f, _, hstages, _⟩ := drawStages_ok c hradius
      exact ⟨v, f, hstages⟩
    | shadowDepth d =>
      obtain ⟨v, f, hstages, _⟩ := depthStages_ok d o
      exact ⟨v, f, hstages⟩
  exact ⟨v, f, hstages, stagesFit_of_stages hstages⟩

/-- Two lights under one index, which classification never gives. -/
def clashingFeatures : Features :=
  { (default : Features) with
    hasNormals := true
    lightSlots := [⟨5, .spot, .world, true⟩, ⟨5, .ambient, .view, true⟩] }

theorem stages_fit_clashingFeatures :
    ShaderOptions.standard.kernelRadius ≤ maxKernelRadius ∧
      ∃ v f, stages .standard (.draw clashingFeatures) = .ok (v, f) ∧ StagesFit v f :=
  ⟨by decide, stages_fit (by decide) (.draw clashingFeatures)⟩

end SceneRenderer.Shader
