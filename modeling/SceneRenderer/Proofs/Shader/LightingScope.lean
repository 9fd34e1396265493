import SceneRenderer.Proofs.Shader.FragmentScope

/-!
The lit part of a fragment stage is well scoped. Lights share a few locals, each of which is
declared if some light needs it, and the functions of the shading model; a light that casts a shadow
finds the filter over shadow maps.
-/

set_option autoImplicit false
set_option relaxedAutoImplicit false

namespace SceneRenderer.Shader

open Shader.Record Name

/-! ### The surface -/

theorem scoped_surfaceRecords (model : ShadingModel) :
    Scoped (described model false) (surfaceRecords model) surfaced
      ["material", "dielectricSpecular", "ambientAlbedo"] := by
  refine .of_leaves rfl ?_
  cases model
  all_goals
    simp only [surfaceRecords, Record.request, Piece.chunk, PreludeItem.outline,
      PreludeItem.isStruct, PreludeItem.name, PreludeItem.usedStructs, PreludeItem.usedWords,
      List.map_cons, List.map_nil, List.cons_append, List.nil_append, String.toList_append,
      described, modelLocals, reflectionLocals, commonLocals, surfaced]
    repeat rw [String.toList_ofList]
    decide

/-- What lighting starts with. -/
def lightingSetup : Known :=
  collected ++ { file := [.name lightAmbient] }

theorem scoped_shadingSetupRecords :
    Scoped viewed (uniform .vec3 lightAmbient :: shadingSetupRecords) lightingSetup
      ["geometry", "reflectedLight"] := by
  refine .of_leaves rfl ?_
  simp only [shadingSetupRecords, uniform, Record.request, Piece.chunk, PreludeItem.outline,
    PreludeItem.isStruct, PreludeItem.name, PreludeItem.usedStructs, PreludeItem.usedWords,
    List.map_cons, List.map_nil, viewed, lightingSetup, collected]
  repeat rw [String.toList_ofList]
  decide

theorem scoped_environmentRecords (c : Features) :
    Scoped (described c.model c.hasReflectionMap ++ surfaced ++ collected) (environmentRecords c) {}
      ["irradiance", "reflectVec", "radiance"] := by
  refine .of_leaves ?_ ?_
  · rfl
  cases hmodel : c.model <;> cases hlight : c.hasLightMap <;> cases hreflects : c.hasReflectionMap
  all_goals
    simp only [environmentRecords, hmodel, hlight, hreflects, uniform, onlyIf, Record.request,
      Piece.chunk, PreludeItem.outline, PreludeItem.isStruct, PreludeItem.name,
      PreludeItem.usedStructs, PreludeItem.usedWords, Bool.or_true, Bool.or_false, Bool.or_self,
      if_true, if_false, Bool.false_eq_true, List.map_cons, List.map_nil, List.cons_append,
      List.nil_append, List.append_nil, String.toList_append, described, modelLocals,
      reflectionLocals, commonLocals, surfaced, collected]
    repeat rw [String.toList_ofList]
    decide

/-! ### Lights -/

/-- What all lights read of the fragment. -/
def litFragment : Known :=
  mathMacros ++ viewed ++ surfaced ++ collected

/-- The function that adds the light of one source, and the record of its light. -/
def lightingFunctions (model : ShadingModel) : Known where
  structs := ["IncidentLight".toList]
  file := [(lightingFunction model).name]

theorem scoped_lightingItems (model : ShadingModel) :
    Scoped litFragment
      ([define .incidentLightStruct, define .diffuseLambert] ++ (lightingItems model).map define)
      (lightingFunctions model) [] := by
  refine .of_leaves ?_ ?_
  · rfl
  cases model
  all_goals
    simp only [lightingItems, Record.request, PreludeItem.outline, PreludeItem.isStruct,
      PreludeItem.name, PreludeItem.usedStructs, PreludeItem.usedWords, List.map_cons, List.map_nil,
      List.cons_append, List.nil_append, litFragment, mathMacros, viewed, surfaced, collected,
      lightingFunctions, lightingFunction]
    repeat rw [String.toList_ofList]
    decide

/-- The locals and functions that some light needs. -/
def lightScratch (positional distant filtered : Bool) : Known :=
  { main := ["light"] } ++ (if positional then { main := ["lightDist"] } else {}) ++
    (if distant then { main := ["lightVec"] } else {}) ++
    if filtered then { file := ["computeShadow"] } else {}

/-- What one light needs. -/
def slotScratch (slot : LightSlot) : Known :=
  lightScratch slot.isPositional (slot.isPositional && !slot.isWorldSpace) slot.castsShadow

theorem lightScratch_le {positional positional' distant distant' filtered filtered' : Bool}
    (hpositional : positional = true → positional' = true)
    (hdistant : distant = true → distant' = true)
    (hfiltered : filtered = true → filtered' = true) :
    (lightScratch positional distant filtered).Le
      (lightScratch positional' distant' filtered') := by
  have hif {a b : Bool} (hab : a = true → b = true) (k : Known) :
      Known.Le (if a then k else {}) (if b then k else {}) := by
    cases a with
    | false => exact Known.empty_le _
    | true =>
      rw [hab rfl]
      exact Known.Le.refl _
  refine Known.append_le (Known.append_le (Known.append_le ?_ ?_) ?_) ?_
  · exact Known.le_append_of_left (Known.le_append_of_left (Known.le_append_left _ _) _) _
  · exact Known.le_append_of_left
      (Known.le_append_of_left (Known.le_append_of_right (hif hpositional _) _) _) _
  · exact Known.le_append_of_left (Known.le_append_of_right (hif hdistant _) _) _
  · exact Known.le_append_of_right (hif hfiltered _) _

/-- What the lights of a program share. -/
def sharedScratch (c : Features) : Known :=
  lightScratch (c.lightSlots.any LightSlot.isPositional)
    (c.lightSlots.any fun s ↦ s.isPositional && !s.isWorldSpace)
    (c.isShaded && !c.shadowSlots.isEmpty)

theorem slotScratch_le {c : Features} (hshaded : c.isShaded = true) {slot : LightSlot}
    (hslot : slot ∈ c.lightSlots) : (slotScratch slot).Le (sharedScratch c) := by
  refine lightScratch_le (fun h ↦ List.any_eq_true.mpr ⟨slot, hslot, h⟩)
    (fun h ↦ List.any_eq_true.mpr ⟨slot, hslot, h⟩) fun h ↦ ?_
  have hsome : c.shadowSlots ≠ [] := List.ne_nil_of_mem (List.mem_filter.mpr ⟨hslot, h⟩)
  rw [hshaded, List.isEmpty_eq_false_iff.mpr hsome]
  rfl

/-- The direction, the distance and the cone of a light. -/
theorem scoped_incidentLightRecords (slot : LightSlot) :
    Scoped (litFragment ++ slotScratch slot) (incidentLightRecords slot) {} [] := by
  obtain ⟨i, type, space, castsShadow⟩ := slot
  have hrecords : (incidentLightRecords ⟨i, type, space, castsShadow⟩).map Record.request =
      ((incidentLightRecords ⟨0, type, space, castsShadow⟩).map Record.request).map
        (Request.rename (·.withIndex i)) := by
    cases type <;> cases space <;> cases castsShadow <;> rfl
  have hneeds : (litFragment ++ slotScratch ⟨i, type, space, castsShadow⟩).rename
      (·.withIndex i) = litFragment ++ slotScratch ⟨i, type, space, castsShadow⟩ := by
    cases type <;> cases space <;> cases castsShadow <;> rfl
  refine Scoped.of_leaves_rename (·.withIndex i) {} [] rfl hneeds ?_ hrecords
  change (litFragment ++ slotScratch ⟨0, type, space, castsShadow⟩).leaves _ _ _ = true
  cases hpositional : LightSlot.isPositional ⟨0, type, space, castsShadow⟩
  all_goals cases hworld : LightSlot.isWorldSpace ⟨0, type, space, castsShadow⟩
  all_goals cases hspot : type == .spot
  all_goals cases castsShadow
  all_goals
    simp only [incidentLightRecords, lightDirectionRecords, spotRecords, hpositional, hworld, hspot,
      onlyIf, varying, uniform, Record.request, Piece.chunk, Bool.and_true, Bool.and_false,
      Bool.not_true, Bool.not_false, if_true, if_false, Bool.false_eq_true, List.map_cons,
      List.map_nil, List.cons_append, List.nil_append, List.append_nil, litFragment, mathMacros,
      viewed, surfaced, collected, slotScratch, lightScratch]
    repeat rw [String.toList_ofList]
    decide

theorem scoped_lightRecords (model : ShadingModel) (slot : LightSlot) :
    Scoped (litFragment ++ lightingFunctions model ++ slotScratch slot) (lightRecords model slot) {}
      [] := by
  have hcall : Scoped (litFragment ++ lightingFunctions model ++ { main := ["light"] })
      [statement [(lightingFunction model).name, "(light, geometry, material, reflectedLight);"]]
      {} [] := by
    refine .of_leaves rfl ?_
    cases model
    all_goals
      simp only [lightingFunction, PreludeItem.name, Record.request, Piece.chunk, List.map_cons,
        List.map_nil, litFragment, mathMacros, viewed, surfaced, collected, lightingFunctions]
      repeat rw [String.toList_ofList]
      decide
  have hlight : Known.Le { main := ["light"] } (slotScratch slot) :=
    Known.le_append_of_left (Known.le_append_of_left (Known.le_append_left _ _) _) _
  have hincident := (scoped_incidentLightRecords slot).weaken
    (Known.append_le (Known.le_append_of_left (Known.le_append_left _ (lightingFunctions model)) _)
      (Known.le_append_right _ _)) (Known.Le.refl _) (List.Sublist.refl _)
  refine (hincident.append hcall (Known.le_append_of_left ?_ _)).weaken (Known.Le.refl _)
    (Known.empty_le _) (List.Sublist.refl _)
  exact Known.append_le (Known.le_append_left _ _) (Known.le_append_of_right hlight _)

/-- The filter over shadow maps is there for the lights that cast shadows. -/
theorem scoped_shadowFilter {c : Features} {o : ShaderOptions} {filter : List Record}
    (hfilter : shadowFilterRecords c o = .ok filter) :
    Scoped {} filter
      (if c.isShaded && !c.shadowSlots.isEmpty then { file := ["computeShadow"] } else {}) [] := by
  rw [shadowFilterRecords] at hfilter
  split at hfilter
  · rename_i hfiltered
    rcases hoptions : ShadowFilter.ofOptions o with fault | f
    · rw [hoptions] at hfilter
      contradiction
    · rw [hoptions] at hfilter
      obtain rfl := Except.ok.inj hfilter
      rw [if_pos hfiltered]
      refine .of_leaves rfl ?_
      simp only [Record.request, PreludeItem.outline, PreludeItem.isStruct, PreludeItem.name,
        PreludeItem.usedStructs, PreludeItem.usedWords, List.map_cons, List.map_nil]
      repeat rw [String.toList_ofList]
      decide
  · rename_i hfiltered
    obtain rfl := Except.ok.inj hfilter
    rw [if_neg hfiltered]
    exact Scoped.nil

/-- The lights share the locals that some light needs. -/
theorem scoped_lightsRecords {c : Features} (hshaded : c.isShaded = true) {o : ShaderOptions}
    {filter : List Record} (hfilter : shadowFilterRecords c o = .ok filter) :
    Scoped litFragment (lightsRecords c filter) {} ["light", "lightDist", "lightVec"] := by
  have hlight : Scoped { structs := ["IncidentLight".toList] } [statement ["IncidentLight light;"]]
      { main := ["light"] } ["light"] := by
    refine .of_leaves rfl ?_
    simp only [Record.request, Piece.chunk, List.map_cons, List.map_nil]
    repeat rw [String.toList_ofList]
    decide
  have hdistance : Scoped {} [statement ["float lightDist;"]] { main := ["lightDist"] }
      ["lightDist"] := by
    refine .of_leaves rfl ?_
    simp only [Record.request, Piece.chunk, List.map_cons, List.map_nil]
    repeat rw [String.toList_ofList]
    decide
  have hvector : Scoped {} [statement ["vec3 lightVec;"]] { main := ["lightVec"] }
      ["lightVec"] := by
    refine .of_leaves rfl ?_
    simp only [Record.request, Piece.chunk, List.map_cons, List.map_nil]
    repeat rw [String.toList_ofList]
    decide
  have hstruct : Known.Le { structs := ["IncidentLight".toList] } (lightingFunctions c.model) :=
    ⟨List.Subset.refl _, List.nil_subset _, List.nil_subset _⟩
  -- Functions, filter and locals are shared by all lights.
  have hshared := ((((scoped_lightingItems c.model).append (scoped_shadowFilter hfilter)
    (Known.empty_le _)).append hlight
      (Known.le_append_of_right (Known.le_append_of_left hstruct _) _)).appendIf
    (fun _ : c.lightSlots.any LightSlot.isPositional = true ↦ hdistance)
    fun _ ↦ Known.empty_le _).appendIf
    (fun _ : (c.lightSlots.any fun s ↦ s.isPositional && !s.isWorldSpace) = true ↦ hvector)
    fun _ ↦ Known.empty_le _
  have hslots : Scoped (litFragment ++ lightingFunctions c.model ++ sharedScratch c)
      (c.lightSlots.flatMap (lightRecords c.model)) {} (c.lightSlots.flatMap fun _ ↦ []) :=
    Scoped.flatMap fun slot hslot ↦ (scoped_lightRecords c.model slot).weaken
      (Known.append_le (Known.le_append_left _ _)
        (Known.le_append_of_right (slotScratch_le hshaded hslot) _))
      (Known.Le.refl _) (List.Sublist.refl _)
  refine .onlyIf fun _ ↦ (hshared.append hslots ?_).weaken (Known.Le.refl _) (Known.empty_le _)
    (by simp)
  refine Known.append_le (Known.append_le (Known.le_append_left _ _) ?_) ?_
  · refine Known.le_append_of_right (Known.le_append_of_left (Known.le_append_of_left ?_ _) _) _
    exact Known.le_append_of_left (Known.le_append_left _ _) _
  · refine Known.le_append_of_right ?_ _
    refine Known.append_le (Known.append_le (Known.append_le ?_ ?_) ?_) ?_
    · exact Known.le_append_of_left (Known.le_append_of_left (Known.le_append_right _ _) _) _
    · exact Known.le_append_of_left (Known.le_append_right _ _) _
    · exact Known.le_append_right _ _
    · refine Known.le_append_of_left (Known.le_append_of_left (Known.le_append_of_left ?_ _) _) _
      exact Known.le_append_right _ _

/-! ### The light that leaves the surface -/

/-- What the light of the fragment is summed up from, whether there is lighting or not. -/
def summed : Known where
  main := ["ambientAlbedo", "occlusion", "emissiveColor"]

/-- What lighting finds. -/
def litSurface (c : Features) : Known :=
  (if c.isShaded then mathMacros ++ viewed else {}) ++ described c.model c.hasReflectionMap ++
    surfaced

theorem scoped_outgoingRecords {c : Features} {o : ShaderOptions} {filter : List Record}
    (hfilter : shadowFilterRecords c o = .ok filter) :
    Scoped (litSurface c ++ summed) (uniform .vec3 lightAmbient :: outgoingRecords c filter)
      { main := ["outgoingLight"] }
      ["geometry", "reflectedLight", "irradiance", "reflectVec", "radiance", "light", "lightDist",
        "lightVec", "outgoingLight"] := by
  rw [outgoingRecords]
  split
  · rename_i hshaded
    have hsum : Scoped (summed ++ lightingSetup) [statement ["vec3 outgoingLight = (", lightAmbient,
        " * ambientAlbedo + " ++ "reflectedLight.diffuse) * occlusion + " ++
          "reflectedLight.specular + emissiveColor;"]] { main := ["outgoingLight"] }
        ["outgoingLight"] := by
      refine .of_leaves rfl ?_
      simp only [Record.request, Piece.chunk, String.toList_append, List.map_cons, List.map_nil,
        summed, lightingSetup, collected]
      repeat rw [String.toList_ofList]
      decide
    have hlit : (mathMacros ++ viewed).Le (litSurface c) := by
      rw [litSurface, if_pos hshaded]
      exact Known.le_append_of_left (Known.le_append_left _ _) _
    have hmath := (Known.le_append_left mathMacros viewed).trans hlit
    have hviewed := (Known.le_append_right mathMacros viewed).trans hlit
    have hsurfaced : surfaced.Le (litSurface c) := Known.le_append_right _ _
    have hdescribed : (described c.model c.hasReflectionMap).Le (litSurface c) :=
      Known.le_append_of_left (Known.le_append_right _ _) _
    have hcollected : collected.Le lightingSetup := Known.le_append_left _ _
    have hsetup := scoped_shadingSetupRecords.weaken (Known.le_append_of_left hviewed summed)
      (Known.Le.refl _) (List.Sublist.refl _)
    refine ((((hsetup.also (scoped_environmentRecords c) ?_).also
      (scoped_lightsRecords hshaded hfilter) ?_)).append hsum ?_).weaken (Known.Le.refl _)
        (Known.le_append_right _ _) (List.Sublist.refl _)
    · refine Known.append_le (Known.le_append_of_left ?_ _) (Known.le_append_of_right hcollected _)
      exact Known.le_append_of_left (Known.append_le hdescribed hsurfaced) _
    · refine Known.append_le (Known.le_append_of_left ?_ _) (Known.le_append_of_right hcollected _)
      exact Known.le_append_of_left
        (Known.append_le (Known.append_le hmath hviewed) hsurfaced) _
    · exact Known.append_le (Known.le_append_of_left (Known.le_append_right _ _) _)
        (Known.le_append_right _ _)
  · have hsum : Scoped summed [uniform .vec3 lightAmbient, statement ["vec3 outgoingLight = ",
        lightAmbient, " * ambientAlbedo * occlusion + emissiveColor;"]]
        { main := ["outgoingLight"] } ["outgoingLight"] := by
      refine .of_leaves rfl ?_
      simp only [uniform, Record.request, Piece.chunk, List.map_cons, List.map_nil, summed]
      repeat rw [String.toList_ofList]
      decide
    exact hsum.weaken (Known.le_append_right _ _) (Known.Le.refl _) (by simp)

/-! ### Alpha and encoding -/

theorem scoped_alphaRecords : Scoped { main := ["alpha"] } alphaRecords {} [] := by
  refine .of_leaves rfl ?_
  simp only [alphaRecords, discardIf, uniform, Record.request, Piece.chunk, List.map_cons,
    List.map_nil, List.cons_append, List.nil_append]
  repeat rw [String.toList_ofList]
  decide

theorem scoped_outputRecords (c : Features) :
    Scoped { main := ["outgoingLight", "alpha"] } (outputRecords c) {} [] := by
  refine .of_leaves rfl ?_
  cases hgamma : c.gammaOutput
  all_goals
    simp only [outputRecords, hgamma, gammaFactorRecord, uniform, Record.request, Piece.chunk,
      PreludeItem.outline, PreludeItem.isStruct, PreludeItem.name, PreludeItem.usedStructs,
      PreludeItem.usedWords, if_true, if_false, Bool.false_eq_true, List.map_cons, List.map_nil]
    repeat rw [String.toList_ofList]
    decide

end SceneRenderer.Shader
