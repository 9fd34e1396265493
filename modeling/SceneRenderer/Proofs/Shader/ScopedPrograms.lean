import Mathlib.Data.List.Flatten
import SceneRenderer.Proofs.Shader.Interface
import SceneRenderer.Proofs.Shader.LightingScope

/-!
The stages of programs are well scoped: draw programs of classified features, whatever geometry,
material and scene these were read off, and depth programs. The locals of the main function are
distinct.
-/

set_option autoImplicit false
set_option relaxedAutoImplicit false

namespace SceneRenderer.Shader

open Shader.Record Name

/-! ### The fragment stage of a draw program -/

/-- What is there behind the material, its colors and the view. -/
def painted (c : Features) : Known :=
  (if c.isShaded then mathMacros else {}) ++ described c.model c.hasReflectionMap ++
    if c.isShaded then viewed else {}

theorem surroundings_le_painted (c : Features) : (surroundings c).Le (painted c) :=
  Known.append_le (Known.le_append_of_left (Known.le_append_right _ _) _)
    (Known.le_append_right _ _)

theorem described_le_painted (c : Features) : (described c.model false).Le (painted c) :=
  Known.le_append_of_left (Known.le_append_of_right (described_le _ _) _) _

theorem common_le_painted (c : Features) : Known.Le { main := commonLocals } (painted c) :=
  Known.Le.trans ⟨List.nil_subset _, List.nil_subset _, List.subset_append_right _ _⟩
    (described_le_painted c)

theorem litSurface_le_painted (c : Features) :
    (litSurface c ++ summed).Le (painted c ++ surfaced) := by
  refine Known.append_le (Known.append_le (Known.append_le ?_ ?_) (Known.le_append_right _ _)) ?_
  · split
    · rename_i hshaded
      refine Known.le_append_of_left ?_ _
      rw [painted, if_pos hshaded, if_pos hshaded]
      exact Known.append_le (Known.le_append_of_left (Known.le_append_left _ _) _)
        (Known.le_append_right _ _)
    · exact Known.empty_le _
  · exact Known.le_append_of_left (Known.le_append_of_left (Known.le_append_right _ _) _) _
  · have hsummed : summed.Le ({ main := commonLocals } ++ surfaced) := by
      refine ⟨List.nil_subset _, List.nil_subset _, ?_⟩
      simp [summed, commonLocals, surfaced]
    exact hsummed.trans (Known.append_le (Known.le_append_of_left (common_le_painted c) _)
      (Known.le_append_right _ _))

/-- The locals in front of those of textures. -/
def paintedLocals : List Symbol :=
  (["dist", "cxy"] : List Symbol) ++ materialLocals ++
    (["vertexColor", "viewNormal", "viewEyeDir"] : List Symbol)

/-- The locals behind those of textures. -/
def lightingLocals : List Symbol :=
  ["material", "dielectricSpecular", "ambientAlbedo", "geometry", "reflectedLight", "irradiance",
    "reflectVec", "radiance", "light", "lightDist", "lightVec", "outgoingLight"]

/-- What comes before textures. -/
theorem scoped_painting (c : Features) (o : ShaderOptions) :
    Scoped {}
      (onlyIf (c.samples .normal) [directive "#extension GL_OES_standard_derivatives : enable"] ++
        precisionRecord o :: onlyIf c.isShaded mathDirectives ++ clipRecords c ++
        onlyIf (c.isPoints && o.roundPoints) roundPointRecords ++ materialRecords c ++
        onlyIf c.hasColors (vertexColorRecords c) ++ onlyIf c.isShaded viewRecords)
      (painted c) paintedLocals := by
  have hnone (k : Known) : Known.Le {} k := Known.empty_le k
  have hdirectives := (Scoped.onlyIf (fun _ : c.samples .normal = true ↦ scoped_extension)).append
    ((scoped_precisionRecord o).appendIf (fun _ : c.isShaded = true ↦ scoped_mathDirectives)
      fun _ ↦ hnone _) (hnone _)
  have hmaterial := ((hdirectives.also (scoped_clipRecords c) (hnone _)).alsoIf
    (fun _ : (c.isPoints && o.roundPoints) = true ↦ scoped_roundPointRecords)
    (fun _ ↦ hnone _)).append (scoped_materialRecords c) (hnone _)
  have hview := (hmaterial.alsoIf (fun _ : c.hasColors = true ↦ scoped_vertexColorRecords c)
    (fun _ ↦ Known.le_append_of_right (Known.le_append_of_right (described_le _ _) _) _)).appendIf
    (fun _ : c.isShaded = true ↦ scoped_viewRecords) (fun _ ↦ hnone _)
  refine hview.weaken (Known.Le.refl _) (Known.append_le (Known.append_le ?_ ?_) ?_)
    (by simp [paintedLocals])
  · refine Known.le_append_of_left (Known.le_append_of_left ?_ _) _
    exact Known.le_append_of_right (Known.le_append_right _ _) _
  · exact Known.le_append_of_left (Known.le_append_right _ _) _
  · exact Known.le_append_right _ _

/-- The fragment stage of a draw program finds what it uses. -/
theorem scoped_filteredFragmentRecords {c : Features} (hc : c.Coherent) {o : ShaderOptions}
    {filter : List Record} (hfilter : shadowFilterRecords c o = .ok filter) :
    Scoped {} (filteredFragmentRecords c o filter) {}
      (paintedLocals ++ (["texturePos"] : List Symbol) ++ sampledLocals c ++ lightingLocals) := by
  have hsurroundings : (surroundings c).Le ({} ++ painted c) :=
    Known.le_append_of_right (surroundings_le_painted c) _
  have hsurface := (((scoped_painting c o).also (scoped_texturesRecords hc) hsurroundings).also
    (scoped_fresnelRecords hc) hsurroundings).append (scoped_surfaceRecords c.model)
    (Known.le_append_of_right (described_le_painted c) _)
  have hlight := hsurface.append (scoped_outgoingRecords hfilter)
    (Known.le_append_of_right (litSurface_le_painted c) _)
  have hcommon := Known.le_append_of_left (common_le_painted c) surfaced
  have halpha : Known.Le { main := ["alpha"] } { main := commonLocals } :=
    ⟨List.nil_subset _, List.nil_subset _, by simp [commonLocals]⟩
  have houtput : Known.Le { main := ["outgoingLight", "alpha"] }
      ({ main := commonLocals } ++ { main := ["outgoingLight"] }) :=
    ⟨List.nil_subset _, List.nil_subset _, by simp [commonLocals]⟩
  have hend := (hlight.also scoped_alphaRecords (Known.le_append_of_right
    (Known.le_append_of_left (halpha.trans hcommon) _) _)).also (scoped_outputRecords c)
    (Known.le_append_of_right (houtput.trans (Known.append_le (Known.le_append_of_left hcommon _)
      (Known.le_append_right _ _))) _)
  exact hend.weaken (Known.Le.refl _) (Known.empty_le _) (by simp [lightingLocals])

/-! ### Distinct locals -/

/-- The locals that the fragment stage of any program may have. -/
def fragmentLocals : List Symbol :=
  paintedLocals ++ (["texturePos"] : List Symbol) ++ TextureChannel.all.flatMap textureLocals ++
    lightingLocals

theorem nodup_text_fragmentLocals : (fragmentLocals.map Symbol.text).Nodup := by
  simp only [fragmentLocals, paintedLocals, materialLocals, lightingLocals, TextureChannel.all,
    List.flatMap_cons, List.flatMap_nil, textureLocals, List.map_cons, List.map_nil, Symbol.text,
    Name.text, TextureChannel.stem, String.toList_append, List.cons_append, List.nil_append,
    List.append_nil]
  repeat rw [String.toList_ofList]
  decide

theorem nodup_text_vertexLocals : (vertexLocals.map Symbol.text).Nodup := by
  simp only [vertexLocals, List.map_cons, List.map_nil, Symbol.text]
  repeat rw [String.toList_ofList]
  decide

theorem sampledLocals_sublist (c : Features) :
    (sampledLocals c).Sublist (TextureChannel.all.flatMap textureLocals) := by
  have hchannels : (c.textures.toList.map Prod.fst).Sublist TextureChannel.all := by
    have hguard (channel : TextureChannel) :
        ((c.textures.get channel).map (channel, ·)).map Prod.fst =
          Option.guard c.textures.contains channel := by
      cases hget : c.textures.get channel <;> simp [Option.guard, TextureFlags.contains, hget]
    rw [TextureFlags.toList, List.map_filterMap,
      List.filterMap_congr fun channel _ ↦ hguard channel, List.filterMap_eq_filter]
    exact List.filter_sublist
  have hsampled : (c.sampledTextures.map Prod.fst).Sublist TextureChannel.all :=
    (List.filter_sublist.map _).trans hchannels
  have hlocals := hsampled.flatMap textureLocals
  rwa [List.flatMap_map] at hlocals

/-! ### Finite numbers -/

/-- A record that writes only finite numbers. -/
def Record.isFinite : Record → Bool
  | define (.computeShadow filter) => filter.bias.isFinite
  | _ => true

theorem isFinite_of_all {records : List Record} (h : records.all Record.isFinite = true)
    {i : PreludeItem} (hi : define i ∈ records) : i.IsFinite := by
  have hfinite := List.all_eq_true.mp h _ hi
  cases i with
  | computeShadow filter => exact hfinite
  | _ => trivial

theorem isFinite_positionRecords (quantized : Bool) (billboard : Billboard) (stationary : Bool) :
    (positionRecords quantized billboard stationary).all Record.isFinite = true := by
  cases quantized <;> cases billboard <;> cases stationary <;> rfl

theorem isFinite_vertexRecords (c : Features) (o : ShaderOptions) :
    (vertexRecords c o).all Record.isFinite = true := by
  have hlight (slot : LightSlot) : (worldLightRecords slot).all Record.isFinite = true := by
    obtain ⟨i, type, space, castsShadow⟩ := slot
    cases type <;> rfl
  have hnormal : (normalRecords c).all Record.isFinite = true := by
    cases hquantized : c.quantized <;>
      simp [normalRecords, hquantized, Record.isFinite, List.all_flatMap, -List.all_eq_true, hlight]
  have huv : (uvRecords c).all Record.isFinite = true := by
    cases hquantized : c.quantized <;> simp [uvRecords, hquantized, Record.isFinite]
  simp [vertexRecords, precisionRecord, outputPositionRecord, pointSizeRecords,
    shadowPositionRecords, Record.isFinite, List.all_flatMap, -List.all_eq_true,
    isFinite_positionRecords, hnormal, huv]

theorem isFinite_depthVertexRecords (d : DepthFeatures) (o : ShaderOptions) :
    (depthVertexRecords d o).all Record.isFinite = true := by
  simp [depthVertexRecords, precisionRecord, outputPositionRecord, pointSizeRecords,
    Record.isFinite, -List.all_eq_true, isFinite_positionRecords]

theorem isFinite_filteredFragmentRecords (c : Features) (o : ShaderOptions) {filter : List Record}
    (hfilter : filter.all Record.isFinite = true) :
    (filteredFragmentRecords c o filter).all Record.isFinite = true := by
  have hmaterial : (materialRecords c).all Record.isFinite = true := by
    cases hmodel : c.model <;> simp [materialRecords, hmodel, Record.isFinite, -List.all_eq_true]
  have hcolor : (vertexColorRecords c).all Record.isFinite = true := by
    cases hgamma : c.gammaInput <;>
      simp [vertexColorRecords, hgamma, gammaFactorRecord, Record.isFinite]
  have htexture (channel : TextureChannel) (feature : TextureFeature) :
      (textureRecords c.model channel feature).all Record.isFinite = true := by
    obtain ⟨encoding, hasMatrix⟩ := feature
    cases channel <;> cases encoding <;> cases hasMatrix <;> rfl
  have hlight (slot : LightSlot) : (lightRecords c.model slot).all Record.isFinite = true := by
    obtain ⟨i, type, space, castsShadow⟩ := slot
    cases type <;> cases space <;> cases castsShadow <;> rfl
  have hsurface : (surfaceRecords c.model).all Record.isFinite = true := by
    cases c.model <;> rfl
  have hitems : ((lightingItems c.model).map define).all Record.isFinite = true := by
    cases c.model <;> rfl
  have houtput : (outputRecords c).all Record.isFinite = true := by
    cases hgamma : c.gammaOutput <;>
      simp [outputRecords, hgamma, gammaFactorRecord, Record.isFinite]
  have houtgoing : (outgoingRecords c filter).all Record.isFinite = true := by
    cases hshaded : c.isShaded <;>
      simp [outgoingRecords, hshaded, shadingSetupRecords, environmentRecords, lightsRecords,
        Record.isFinite, List.all_flatMap, -List.all_eq_true, -List.all_map, hfilter, hlight,
        hitems]
  simp [filteredFragmentRecords, precisionRecord, mathDirectives, clipRecords, clipPlaneRecords,
    roundPointRecords, discardIf, viewRecords, texturesRecords, fresnelRecords,
    fresnelChannelRecords, alphaRecords, Record.isFinite, List.all_flatMap, -List.all_eq_true,
    hmaterial, hcolor, htexture, hsurface, houtgoing, houtput]
theorem isFinite_shadowFilterRecords {c : Features} {o : ShaderOptions}
    (hbias : o.depthBias.isFinite = true) {filter : List Record}
    (hfilter : shadowFilterRecords c o = .ok filter) : filter.all Record.isFinite = true := by
  rw [shadowFilterRecords] at hfilter
  split at hfilter
  · rcases htaps : filterTaps o.kernelRadius with fault | taps
    · simp only [ShadowFilter.ofOptions, htaps] at hfilter
      cases hfilter
    · simp only [ShadowFilter.ofOptions, htaps, bind, Except.bind, pure, Except.pure] at hfilter
      obtain rfl := Except.ok.inj hfilter
      simp [Record.isFinite, hbias]
  · obtain rfl := Except.ok.inj hfilter
    rfl

/-! ### Programs -/

/-- Both stages of a source read only what is visible, so the check of scopes finds nothing. -/
structure ProgramSource.WellScoped (s : ProgramSource) : Prop where
  vertex : Shader.WellScoped s.vertex
  fragment : Shader.WellScoped s.fragment
  undeclared_vertex : undeclaredIdentifiers s.vertex = []
  undeclared_fragment : undeclaredIdentifiers s.fragment = []

/-- Records that need nothing fill a stage that is well scoped. -/
theorem Scoped.wellScoped {records : List Record} {provides : Known} {locals : List Symbol}
    (h : Scoped {} records provides locals) {s : Stage} (hbuilt : Built records s)
    (hs : Stage.ofRecords records = .ok s) (hfinite : records.all Record.isFinite = true)
    (hnodup : (locals.map Symbol.text).Nodup) : Shader.WellScoped s.lines := by
  obtain ⟨k, hrun, -, hgrown⟩ := h {} (Known.Le.refl _) rfl
  obtain ⟨words, hwords, hmain⟩ := hgrown.main
  refine wellScoped_of_run hbuilt hs (fun i hi ↦ isFinite_of_all hfinite hi) hrun ?_
  rw [hmain]
  exact hnodup.sublist (hwords.map _)

theorem wellScoped_draw {c : Features} (hc : c.Coherent) {o : ShaderOptions}
    (hradius : o.kernelRadius ≤ maxKernelRadius) (hbias : o.depthBias.isFinite = true) :
    ∃ s, synthesize o (.draw c) = .ok s ∧ s.WellScoped := by
  obtain ⟨filter, v, f, hfilter, hstages, hv, hf⟩ := drawStages_ok c hradius
  obtain ⟨filter', hfilter', hvertex, hfragment⟩ := drawStages_eq hstages
  obtain rfl : filter = filter' := Except.ok.inj (hfilter.symm.trans hfilter')
  have hscoped := (scoped_vertexRecords c o).wellScoped hv hvertex (isFinite_vertexRecords c o)
    nodup_text_vertexLocals
  have hlocals : (paintedLocals ++ (["texturePos"] : List Symbol) ++ sampledLocals c ++
      lightingLocals).Sublist fragmentLocals :=
    ((List.Sublist.refl _).append (sampledLocals_sublist c)).append (List.Sublist.refl _)
  have hscoped' := (scoped_filteredFragmentRecords hc hfilter).wellScoped hf hfragment
    (isFinite_filteredFragmentRecords c o (isFinite_shadowFilterRecords hbias hfilter))
    (nodup_text_fragmentLocals.sublist (hlocals.map _))
  refine ⟨.ofLines v.lines f.lines, ?_, hscoped, hscoped', hscoped.undeclaredIdentifiers_eq,
    hscoped'.undeclaredIdentifiers_eq⟩
  simp only [synthesize, stages, hstages]
  rfl

theorem wellScoped_depth (d : DepthFeatures) (o : ShaderOptions) :
    ∃ s, synthesize o (.shadowDepth d) = .ok s ∧ s.WellScoped := by
  obtain ⟨v, f, hstages, hv, hf⟩ := depthStages_ok d o
  obtain ⟨hvertex, hfragment⟩ := depthStages_eq hstages
  have hlocals : placedLocals.Sublist vertexLocals :=
    List.sublist_append_left placedLocals ["localNormal", "worldNormal", "viewNormal", "tmpVec3"]
  have hscoped := (scoped_depthVertexRecords d o).wellScoped hv hvertex
    (isFinite_depthVertexRecords d o) (nodup_text_vertexLocals.sublist (hlocals.map _))
  have hscoped' := (scoped_depthFragmentRecords o).wellScoped hf hfragment rfl List.nodup_nil
  refine ⟨.ofLines v.lines f.lines, ?_, hscoped, hscoped', hscoped.undeclaredIdentifiers_eq,
    hscoped'.undeclaredIdentifiers_eq⟩
  simp only [synthesize, stages, hstages]
  rfl

/-- Every program has a source that is well scoped: the draw program of any classified features, if
the bias of its shadow maps is finite, and every depth program. -/
theorem synthesize_wellScoped (geometry : Geometry) (material : Material) (lights : List Light)
    (clips : List ClipPlane) (modes : DrawModes) (scene : SceneFlags) (d : DepthFeatures)
    {o : ShaderOptions} (hradius : o.kernelRadius ≤ maxKernelRadius)
    (hbias : o.depthBias.isFinite = true) :
    (∃ s, synthesize o (.draw (classify geometry material lights clips modes scene)) = .ok s ∧
      s.WellScoped) ∧
    ∃ s, synthesize o (.shadowDepth d) = .ok s ∧ s.WellScoped :=
  ⟨wellScoped_draw (classify_coherent geometry material lights clips modes scene) hradius hbias,
    wellScoped_depth d o⟩

/-- A shiny surface among lights that cast shadows, with a map of reflections. -/
theorem synthesize_wellScoped_shiny :
    (ShaderOptions.standard.kernelRadius ≤ maxKernelRadius ∧
      ShaderOptions.standard.depthBias.isFinite = true) ∧
      (∃ s, synthesize .standard
        (.draw (classify { (default : Geometry) with topology := .triangles, autoNormals := true }
          { (default : Material) with surface := .phong default }
          [.point default default, (Light.directional default .view).withShadow default default] []
          .standard ⟨false, true, false, true⟩)) = .ok s ∧ s.WellScoped) ∧
      ∃ s, synthesize .standard (.shadowDepth ⟨true, .spherical, true, true⟩) = .ok s ∧
        s.WellScoped :=
  ⟨⟨by decide, by decide⟩,
    synthesize_wellScoped _ _ _ _ _ _ _ (by decide) (by decide)⟩

end SceneRenderer.Shader
