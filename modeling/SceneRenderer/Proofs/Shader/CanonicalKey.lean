import SceneRenderer.Proofs.Shader.Recovery
import SceneRenderer.Shader.Source

/-!
Program keys are canonical: the keys that a renderer asks for have the same text exactly when they
are the same key. The main statement is `synthesize_eq_iff`.
-/

set_option autoImplicit false
set_option relaxedAutoImplicit false

namespace SceneRenderer.Shader

open Shader.Record Name

/-! ### Synthesis succeeds -/

/-- The largest radius for which the number of texels under a filter fits a word. -/
def maxKernelRadius : UInt32 := 32767

theorem filterTaps_ok {radius : UInt32} (hradius : radius ≤ maxKernelRadius) :
    ∃ taps, filterTaps radius = .ok taps := by
  have hnat : radius.toNat ≤ 32767 := UInt32.le_iff_toNat_le.mp hradius
  have hdouble : (2 * radius).toNat = 2 * radius.toNat := by
    rw [UInt32.toNat_mul]
    exact Nat.mod_eq_of_lt (by change 2 * radius.toNat < _; omega)
  have hedge : (2 * radius + 1).toNat = 2 * radius.toNat + 1 := by
    rw [UInt32.toNat_add, hdouble]
    exact Nat.mod_eq_of_lt (by change 2 * radius.toNat + 1 < _; omega)
  have hsquare : (2 * radius + 1).toNat * (2 * radius + 1).toNat < 2 ^ 32 := by
    rw [hedge]
    calc (2 * radius.toNat + 1) * (2 * radius.toNat + 1)
        ≤ 65535 * 65535 := Nat.mul_le_mul (by omega) (by omega)
      _ < 2 ^ 32 := by decide
  have hmul : checkedMul 2 radius = .ok (2 * radius) :=
    if_pos (by change 2 * radius.toNat < 2 ^ 32; omega)
  have hadd : checkedAdd (2 * radius) 1 = .ok (2 * radius + 1) :=
    if_pos (by rw [hdouble]; change 2 * radius.toNat + 1 < 2 ^ 32; omega)
  have htaps : checkedMul (2 * radius + 1) (2 * radius + 1) = .ok _ := if_pos hsquare
  rw [filterTaps, hmul]
  change ∃ taps, (do let edge ← checkedAdd (2 * radius) 1; checkedMul edge edge) = .ok taps
  rw [hadd]
  exact ⟨_, htaps⟩

theorem shadowFilterRecords_ok (c : Features) {o : ShaderOptions}
    (ho : o.kernelRadius ≤ maxKernelRadius) : ∃ filter, shadowFilterRecords c o = .ok filter := by
  obtain ⟨taps, htaps⟩ := filterTaps_ok ho
  unfold shadowFilterRecords
  split
  · rw [ShadowFilter.ofOptions, htaps]
    exact ⟨_, rfl⟩
  · exact ⟨_, rfl⟩

theorem respects_shadowFilterRecords {c : Features} {o : ShaderOptions} {filter : List Record}
    (hfilter : shadowFilterRecords c o = .ok filter) (q : Bool) :
    filter.all (Record.respects q) = true := by
  obtain rfl | ⟨f, rfl⟩ := shadowFilterRecords_cases hfilter <;> rfl

/-- A stage with the records that filled it. -/
structure Built (records : List Record) (s : Stage) : Prop where
  gained : Stage.Gained .empty (records.map Record.toCall) s
  separable : s.Separable

theorem built_of_respects {q : Bool} {records : List Record}
    (hrespects : records.all (Record.respects q) = true) :
    ∃ s, Stage.ofRecords records = .ok s ∧ Built records s := by
  obtain ⟨s, hs, hgained⟩ := Stage.ofRecords_gained hrespects
  exact ⟨s, hs, hgained, hgained.separable hrespects⟩

theorem drawStages_ok (c : Features) {o : ShaderOptions} (ho : o.kernelRadius ≤ maxKernelRadius) :
    ∃ filter vertex fragment, shadowFilterRecords c o = .ok filter ∧
      drawStages c o = .ok (vertex, fragment) ∧ Built (vertexRecords c o) vertex ∧
      Built (filteredFragmentRecords c o filter) fragment := by
  obtain ⟨filter, hfilter⟩ := shadowFilterRecords_ok c ho
  obtain ⟨vertex, hvertex, hv⟩ := built_of_respects (respects_vertexRecords c o)
  obtain ⟨fragment, hfragment, hf⟩ := built_of_respects
    (respects_filteredFragmentRecords c.quantized c o filter
      (respects_shadowFilterRecords hfilter _))
  refine ⟨filter, vertex, fragment, hfilter, ?_, hv, hf⟩
  have hrecords : fragmentRecords c o = .ok (filteredFragmentRecords c o filter) := by
    rw [fragmentRecords, hfilter]
    rfl
  simp only [drawStages, hvertex, hrecords, bind, Except.bind, hfragment]
  rfl

theorem depthStages_ok (d : DepthFeatures) (o : ShaderOptions) :
    ∃ vertex fragment, depthStages d o = .ok (vertex, fragment) ∧
      Built (depthVertexRecords d o) vertex ∧ Built (depthFragmentRecords o) fragment := by
  obtain ⟨vertex, hvertex, hv⟩ := built_of_respects (respects_depthVertexRecords d o)
  obtain ⟨fragment, hfragment, hf⟩ := built_of_respects (respects_depthFragmentRecords true o)
  refine ⟨vertex, fragment, ?_, hv, hf⟩
  simp only [depthStages, hvertex, bind, Except.bind, hfragment]
  rfl

/-- Every key has a source. -/
theorem synthesize_ok {o : ShaderOptions} (ho : o.kernelRadius ≤ maxKernelRadius) (k : ProgramKey) :
    ∃ source, synthesize o k = .ok source := by
  obtain ⟨vertex, fragment, hstages⟩ :
      ∃ vertex fragment, stages o k = .ok (vertex, fragment) := by
    cases k with
    | draw c =>
      obtain ⟨_, vertex, fragment, _, hstages, _⟩ := drawStages_ok c ho
      exact ⟨vertex, fragment, hstages⟩
    | shadowDepth d =>
      obtain ⟨vertex, fragment, hstages, _⟩ := depthStages_ok d o
      exact ⟨vertex, fragment, hstages⟩
  rw [synthesize, hstages]
  exact ⟨_, rfl⟩

/-! ### Text and keys -/

theorem Built.statements {records : List Record} {s : Stage} (hs : Built records s) :
    s.statements = bodyLines 1 records :=
  hs.gained.statements

/-- Two stages with the same lines come from records with the same globals and the same lines of
the main function. -/
theorem Built.same {records records' : List Record} {s t : Stage} (hs : Built records s)
    (ht : Built records' t) (hsome : globals records ≠ []) (hsome' : globals records' ≠ [])
    (hlines : s.lines = t.lines) :
    (∀ n, n ∈ globals records ↔ n ∈ globals records') ∧
      bodyLines 1 records = bodyLines 1 records' ∧ s.definitionLines = t.definitionLines := by
  obtain ⟨hdeclarations, hdefinitions, hstatements⟩ := hs.separable.sections_eq ht.separable
    (hs.gained.declarations_ne_nil hsome) (ht.gained.declarations_ne_nil hsome') hlines
  refine ⟨fun n ↦ ?_, ?_, hdefinitions⟩
  · rw [hs.gained.mem_globals, ht.gained.mem_globals, hdeclarations]
  · rwa [hs.statements, ht.statements] at hstatements

section Billboard

variable {quantized stationary : Bool} {billboard billboard' : Billboard} {first : Record}
  {rest rest' : List Record} {s t : Stage}

/-- The lines of the definitions start with the billboard. -/
theorem isPrefix_definitionLines (hfirst : first.toCall.definition? = none)
    (hs : Built (first :: (positionRecords quantized billboard stationary ++ rest)) s)
    {item : PreludeItem}
    (hitem : ((positionRecords quantized billboard stationary).map Record.toCall).findSome?
      Call.definition? = some ⟨item.name, item.source⟩) :
    splitLines item.source <+: s.definitionLines := by
  have hhead : s.definitions.head? = some ⟨item.name, item.source⟩ := by
    rw [hs.gained.firstDefinition, List.map_cons, List.map_append, List.findSome?_cons, hfirst,
      List.findSome?_append, hitem]
    rfl
  obtain ⟨others, hdefinitions⟩ := List.head?_eq_some_iff.mp hhead
  rw [Stage.definitionLines, hdefinitions, List.flatMap_cons]
  exact List.prefix_append _ _

/-- The two kinds of billboards differ in their fifth line. -/
theorem billboards_differ {lines : List String}
    (hspherical : PreludeItem.billboardSpherical.lines <+: lines)
    (hcylindrical : PreludeItem.billboardCylindrical.lines <+: lines) : False := by
  obtain ⟨others, rfl⟩ := hspherical
  obtain ⟨others', heq⟩ := hcylindrical
  have hfifth := congrArg (·[4]?) heq
  simp [PreludeItem.lines, functionLines, blockLines] at hfifth

/-- The definitions of a vertex stage tell the kind of a billboard. -/
theorem billboard_eq (hfirst : first.toCall.definition? = none)
    (hs : Built (first :: (positionRecords quantized billboard stationary ++ rest)) s)
    (ht : Built (first :: (positionRecords quantized billboard' stationary ++ rest')) t)
    (hnone : billboard = .none ↔ billboard' = .none)
    (hdefinitions : s.definitionLines = t.definitionLines) : billboard = billboard' := by
  have hspherical {b : Billboard} {r : List Record} {u : Stage}
      (hu : Built (first :: (positionRecords quantized b stationary ++ r)) u)
      (hb : b = .spherical) : PreludeItem.billboardSpherical.lines <+: u.definitionLines := by
    subst hb
    rw [← PreludeItem.splitLines_billboardSpherical]
    refine isPrefix_definitionLines hfirst hu ?_
    cases quantized <;> cases stationary <;> rfl
  have hcylindrical {b : Billboard} {r : List Record} {u : Stage}
      (hu : Built (first :: (positionRecords quantized b stationary ++ r)) u)
      (hb : b = .cylindrical) : PreludeItem.billboardCylindrical.lines <+: u.definitionLines := by
    subst hb
    rw [← PreludeItem.splitLines_billboardCylindrical]
    refine isPrefix_definitionLines hfirst hu ?_
    cases quantized <;> cases stationary <;> rfl
  cases hb : billboard <;> cases hb' : billboard'
  case none.none | spherical.spherical | cylindrical.cylindrical => rfl
  case spherical.cylindrical =>
    exact (billboards_differ (hspherical hs hb) (hdefinitions ▸ hcylindrical ht hb')).elim
  case cylindrical.spherical =>
    exact (billboards_differ (hspherical ht hb') (hdefinitions ▸ hcylindrical hs hb)).elim
  all_goals simp [hb, hb'] at hnone

end Billboard

/-! ### Canonical keys -/

/-- Classified features are known by the lines of their two stages. -/
theorem eq_of_drawStages {c d : Features} (hc : c.Classified) (hd : d.Classified)
    {o : ShaderOptions} {fc fd : List Record} {vc vd sc sd : Stage}
    (hfilter : shadowFilterRecords c o = .ok fc) (hfilter' : shadowFilterRecords d o = .ok fd)
    (hvc : Built (vertexRecords c o) vc) (hvd : Built (vertexRecords d o) vd)
    (hsc : Built (filteredFragmentRecords c o fc) sc)
    (hsd : Built (filteredFragmentRecords d o fd) sd)
    (hvertex : vc.lines = vd.lines) (hfragment : sc.lines = sd.lines) : c = d := by
  have hsome (e : Features) : globals (vertexRecords e o) ≠ [] := by
    simp [globals_vertexRecords]
  have hsome' {e : Features} {f : List Record} (hf : shadowFilterRecords e o = .ok f) :
      globals (filteredFragmentRecords e o f) ≠ [] := by
    simp [globals_filteredFragmentRecords, globals_shadowFilterRecords hf]
  obtain ⟨hvglobals, hvbody, hdefinitions⟩ := hvc.same hvd (hsome c) (hsome d) hvertex
  obtain ⟨hfglobals, hfbody, _⟩ := hsc.same hsd (hsome' hfilter) (hsome' hfilter') hfragment
  have hsame : SameText c d o fc fd := ⟨hfilter, hfilter', hvglobals, hfglobals, hvbody, hfbody⟩
  obtain ⟨hstationary, hnone⟩ := hsame.stationary_billboard
  refine hsame.eq_of_billboard hc hd ?_
  have hsplit (e : Features) : ∃ rest, vertexRecords e o = precisionRecord o ::
      (positionRecords e.quantized e.billboard e.stationary ++ rest) := by
    simp only [vertexRecords, List.cons_append, List.append_assoc]
    exact ⟨_, rfl⟩
  obtain ⟨rest, hrest⟩ := hsplit c
  obtain ⟨rest', hrest'⟩ := hsplit d
  rw [hrest] at hvc
  rw [hrest', ← hsame.quantized, ← hstationary] at hvd
  exact billboard_eq rfl hvc hvd hnone hdefinitions

theorem globals_depthVertexRecords (d : DepthFeatures) (o : ShaderOptions) :
    globals (depthVertexRecords d o) =
      globals (positionRecords d.quantized d.billboard d.stationary) ++
        if d.isPoints then [pointSize] else [] := by
  simp [depthVertexRecords, precisionRecord, pointSizeRecords, outputPositionRecord]

/-- The features of a depth program are known by the lines of its vertex stage. -/
theorem eq_of_depthStages {d e : DepthFeatures} {o : ShaderOptions} {vd ve : Stage}
    (hvd : Built (depthVertexRecords d o) vd) (hve : Built (depthVertexRecords e o) ve)
    (hvertex : vd.lines = ve.lines) : d = e := by
  have hsome (f : DepthFeatures) : globals (depthVertexRecords f o) ≠ [] := by
    simp [globals_depthVertexRecords]
  obtain ⟨hglobals, hbody, hdefinitions⟩ := hvd.same hve (hsome d) (hsome e) hvertex
  have hquantized : d.quantized = e.quantized := by
    simpa [globals_depthVertexRecords] using hglobals positionsDecodeMatrix
  have hpoints : d.isPoints = e.isPoints := by
    simpa [globals_depthVertexRecords] using hglobals pointSize
  obtain ⟨rest, hrest⟩ := bodyLines_depthVertexRecords d o
  obtain ⟨rest', hrest'⟩ := bodyLines_depthVertexRecords e o
  rw [hrest, hrest', ← hquantized] at hbody
  obtain ⟨hstationary, hnone⟩ := bodyLines_positionRecords_inj hbody
  have hsplit (f : DepthFeatures) : ∃ rest, depthVertexRecords f o = precisionRecord o ::
      (positionRecords f.quantized f.billboard f.stationary ++ rest) := by
    simp only [depthVertexRecords, List.cons_append, List.append_assoc]
    exact ⟨_, rfl⟩
  obtain ⟨tail, htail⟩ := hsplit d
  obtain ⟨tail', htail'⟩ := hsplit e
  rw [htail] at hvd
  rw [htail', ← hquantized, ← hstationary] at hve
  have hbillboard := billboard_eq rfl hvd hve hnone hdefinitions
  cases d
  cases e
  simp_all

/-- The main function of a draw program is longer than the one of a depth program. -/
theorem drawStages_ne_depthStages {c : Features} {o : ShaderOptions} {filter : List Record}
    {s t : Stage} (hs : Built (filteredFragmentRecords c o filter) s)
    (ht : Built (depthFragmentRecords o) t) : s.lines ≠ t.lines := by
  intro hlines
  have hbody : bodyLines 1 (filteredFragmentRecords c o filter) =
      bodyLines 1 (depthFragmentRecords o) := by
    rw [← hs.statements, ← ht.statements]
    exact hs.separable.statements_eq ht.separable hlines
  have hmaterial (depth : Nat) : 3 ≤ (bodyLines depth (materialRecords c)).length := by
    unfold materialRecords
    cases c.model <;> cases c.hasReflectionMap <;> exact Nat.le_of_ble_eq_true rfl
  obtain ⟨front, back, hsplit⟩ : ∃ front back,
      filteredFragmentRecords c o filter = front ++ (materialRecords c ++ back) := by
    rw [filteredFragmentRecords_eq, openingRecords, List.append_assoc]
    exact ⟨_, _, rfl⟩
  have hlength := congrArg List.length hbody
  rw [hsplit, bodyLines_append, bodyLines_append, List.length_append, List.length_append] at hlength
  have hthree := hmaterial (bodyDepth 1 front)
  have hone : (bodyLines 1 (depthFragmentRecords o)).length = 1 := rfl
  omega

/-- The keys that a renderer asks for: those of classified drawables and those of depth programs. -/
inductive ProgramKey.Requested : ProgramKey → Prop
  | draw (geometry : Geometry) (material : Material) (lights : List Light) (clips : List ClipPlane)
    (modes : DrawModes) (scene : SceneFlags) (hlights : lights.length < 2 ^ 32) :
    Requested (.draw (classify geometry material lights clips modes scene))
  | shadowDepth (features : DepthFeatures) : Requested (.shadowDepth features)

/-- The stages of a key with the records that filled them. -/
inductive StagesOf (o : ShaderOptions) : ProgramKey → Stage → Stage → Prop
  | draw {c : Features} {filter : List Record} {vertex fragment : Stage} (hc : c.Classified)
    (hfilter : shadowFilterRecords c o = .ok filter) (hvertex : Built (vertexRecords c o) vertex)
    (hfragment : Built (filteredFragmentRecords c o filter) fragment) :
    StagesOf o (.draw c) vertex fragment
  | shadowDepth {d : DepthFeatures} {vertex fragment : Stage}
    (hvertex : Built (depthVertexRecords d o) vertex)
    (hfragment : Built (depthFragmentRecords o) fragment) :
    StagesOf o (.shadowDepth d) vertex fragment

theorem ProgramKey.Requested.stages_ok {k : ProgramKey} (hk : k.Requested) {o : ShaderOptions}
    (ho : o.kernelRadius ≤ maxKernelRadius) :
    ∃ vertex fragment, stages o k = .ok (vertex, fragment) ∧ StagesOf o k vertex fragment := by
  cases hk with
  | draw geometry material lights clips modes scene hlights =>
    obtain ⟨filter, vertex, fragment, hfilter, hstages, hvertex, hfragment⟩ :=
      drawStages_ok (classify geometry material lights clips modes scene) ho
    exact ⟨vertex, fragment, hstages, .draw
      (classify_classified geometry material lights clips modes scene hlights) hfilter hvertex
      hfragment⟩
  | shadowDepth d =>
    obtain ⟨vertex, fragment, hstages, hvertex, hfragment⟩ := depthStages_ok d o
    exact ⟨vertex, fragment, hstages, .shadowDepth hvertex hfragment⟩

theorem StagesOf.key_eq {o : ShaderOptions} {k l : ProgramKey} {vertex fragment vertex' fragment' :
    Stage} (hk : StagesOf o k vertex fragment) (hl : StagesOf o l vertex' fragment')
    (hvertex : vertex.lines = vertex'.lines) (hfragment : fragment.lines = fragment'.lines) :
    k = l := by
  cases hk with
  | draw hc hfilter hv hf =>
    cases hl with
    | draw hd hfilter' hv' hf' =>
      rw [eq_of_drawStages hc hd hfilter hfilter' hv hv' hf hf' hvertex hfragment]
    | shadowDepth hv' hf' => exact (drawStages_ne_depthStages hf hf' hfragment).elim
  | shadowDepth hv hf =>
    cases hl with
    | draw hd hfilter' hv' hf' => exact (drawStages_ne_depthStages hf' hf hfragment.symm).elim
    | shadowDepth hv' hf' => rw [eq_of_depthStages hv hv' hvertex]

/-- The keys that a renderer asks for have the same text exactly if they are the same key: two texts
never share a key, and no key is split by a feature that leaves the text as it is. -/
theorem synthesize_eq_iff (o : ShaderOptions) (ho : o.kernelRadius ≤ maxKernelRadius)
    (k l : ProgramKey) (hk : k.Requested) (hl : l.Requested) :
    ∃ s t, synthesize o k = .ok s ∧ synthesize o l = .ok t ∧
      ((s.vertex = t.vertex ∧ s.fragment = t.fragment) ↔ k = l) := by
  obtain ⟨vertex, fragment, hstages, hof⟩ := hk.stages_ok ho
  obtain ⟨vertex', fragment', hstages', hof'⟩ := hl.stages_ok ho
  refine ⟨.ofLines vertex.lines fragment.lines, .ofLines vertex'.lines fragment'.lines, ?_, ?_, ?_⟩
  · rw [synthesize, hstages]
    rfl
  · rw [synthesize, hstages']
    rfl
  · constructor
    · rintro ⟨hvertex, hfragment⟩
      exact hof.key_eq hof' hvertex hfragment
    · rintro rfl
      rw [hstages] at hstages'
      obtain ⟨rfl, rfl⟩ := Prod.mk.inj (Except.ok.inj hstages')
      exact ⟨rfl, rfl⟩

/-- The features of a triangle with a texture and a map of normals under some lights, behind a clip
plane. -/
def plaque (lights : List Light) : Features :=
  let geometry :=
    { Geometry.ofTriangles ⟨0⟩ [] with
      autoNormals := true
      uv := some (.float32 [0.0, 0.0])
      indices := some (.uint16 [0, 0, 0]) }
  let material : Material := .ofSurface ⟨0⟩ <| .phong
    { PhongSurface.standard with
      diffuseMap := some ⟨⟨0⟩, none, .srgb⟩
      normalMap := some ⟨⟨1⟩, none, .linear⟩ }
  classify geometry material lights [.through .zero .one] .standard ⟨true, false, false, false⟩

/-- Two suns, of which one casts a shadow. -/
def twoSuns (first : Bool) : List Light :=
  let sun : Light := .directional .one .world
  [{ sun with shadow := first }, { sun with shadow := !first }]

/-- It makes a difference to the text which of two suns casts the shadow. -/
theorem synthesize_eq_iff_plaque :
    ((plaque (twoSuns true)).lightSlots.length = 2 ∧
        ((plaque (twoSuns true)).sampledTextures.map (·.1)) = [.diffuse, .normal] ∧
        ProgramKey.draw (plaque (twoSuns true)) ≠ .draw (plaque (twoSuns false))) ∧
      ∃ s t, synthesize .standard (.draw (plaque (twoSuns true))) = .ok s ∧
        synthesize .standard (.draw (plaque (twoSuns false))) = .ok t ∧
        ((s.vertex = t.vertex ∧ s.fragment = t.fragment) ↔
          ProgramKey.draw (plaque (twoSuns true)) = .draw (plaque (twoSuns false))) :=
  ⟨⟨by decide, by decide, by decide⟩,
    synthesize_eq_iff .standard (by decide) _ _ (.draw _ _ _ _ _ _ (by decide))
      (.draw _ _ _ _ _ _ (by decide))⟩

end SceneRenderer.Shader
