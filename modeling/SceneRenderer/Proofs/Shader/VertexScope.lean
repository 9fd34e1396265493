import SceneRenderer.Proofs.Shader.MainScope

/-!
The vertex stages are well scoped. Placing the vertex provides its positions to everything behind;
the parts that features ask for read these and their own globals.
-/

set_option autoImplicit false
set_option relaxedAutoImplicit false

namespace SceneRenderer.Shader

open Shader.Record Name

/-- What placing a vertex provides. -/
def placed : Known where
  file := [.name viewMatrix, .name projMatrix]
  main := ["viewMatrix2", "worldPosition", "viewPosition"]

def placedLocals : List Symbol :=
  ["localPosition", "viewMatrix2", "modelMatrix2", "worldPosition", "modelViewMatrix",
    "viewPosition"]

theorem scoped_precisionRecord (o : ShaderOptions) : Scoped {} [precisionRecord o] {} [] := by
  refine .of_leaves rfl ?_
  cases hprecision : o.precision
  all_goals
    simp only [precisionRecord, hprecision, Precision.keyword, Record.request, List.map_cons,
      List.map_nil, String.toList_append]
    repeat rw [String.toList_ofList]
    decide

theorem scoped_positionRecords (quantized : Bool) (billboard : Billboard) (stationary : Bool) :
    Scoped {} (positionRecords quantized billboard stationary) placed placedLocals := by
  refine .of_leaves rfl ?_
  cases quantized <;> cases billboard <;> cases stationary
  all_goals
    simp only [positionRecords, positionRecords.turned, onlyIf, perVertex, uniform, Record.request,
      Piece.chunk, PreludeItem.outline, PreludeItem.isStruct, PreludeItem.name,
      PreludeItem.usedStructs, PreludeItem.usedWords, if_true, if_false, Bool.false_eq_true,
      List.map_cons, List.map_nil, List.cons_append, List.nil_append, List.append_nil, placed,
      placedLocals]
    repeat rw [String.toList_ofList]
    decide

/-! ### Normals -/

/-- What the lights fixed in the world are computed in. -/
def scratch : Known where
  main := ["tmpVec3"]

theorem scoped_worldLightRecords (slot : LightSlot) :
    Scoped (placed ++ scratch) (worldLightRecords slot) {} [] := by
  obtain ⟨i, type, space, castsShadow⟩ := slot
  have hrecords : (worldLightRecords ⟨i, type, space, castsShadow⟩).map Record.request =
      ((worldLightRecords ⟨0, type, space, castsShadow⟩).map Record.request).map
        (Request.rename (·.withIndex i)) := by
    cases type <;> rfl
  refine Scoped.of_leaves_rename (·.withIndex i) {} [] rfl rfl ?_ hrecords
  cases type
  all_goals
    simp only [worldLightRecords, worldLightRecords.reach, varying, uniform, Record.request,
      Piece.chunk, List.map_cons, List.map_nil, List.cons_append, List.nil_append, placed, scratch]
    repeat rw [String.toList_ofList]
    decide

theorem scoped_worldLights (slots : List LightSlot) :
    Scoped placed (onlyIf (!slots.isEmpty) [statement ["vec3 tmpVec3;"]] ++
      slots.flatMap worldLightRecords) {} ["tmpVec3"] := by
  have hscratch : Scoped {} [statement ["vec3 tmpVec3;"]] scratch ["tmpVec3"] := by
    refine .of_leaves rfl ?_
    simp only [Record.request, Piece.chunk, List.map_cons, List.map_nil, scratch]
    repeat rw [String.toList_ofList]
    decide
  cases slots with
  | nil => exact Scoped.nil.weaken (Known.Le.refl _) (Known.Le.refl _) (List.nil_sublist _)
  | cons slot rest =>
    have hlights := Scoped.flatMap (l := slot :: rest) fun slot _ ↦ scoped_worldLightRecords slot
    exact (hscratch.within hlights).weaken (Known.Le.refl _) (Known.Le.refl _) (by simp)

/-- What the normal of a vertex is handed on from. -/
def turnedNormal : Known where
  file := [.name vViewPosition, .name vViewNormal]
  main := ["viewNormal"]

theorem scoped_normalRecords (c : Features) :
    Scoped placed (normalRecords c) {} ["localNormal", "worldNormal", "viewNormal", "tmpVec3"] := by
  rw [normalRecords, List.append_assoc _ (onlyIf _ _)]
  refine ((Scoped.also
    (?head : Scoped placed _ turnedNormal ["localNormal", "worldNormal", "viewNormal"])
    (scoped_worldLights _) (Known.le_append_left _ _)).also
      (?last : Scoped (placed ++ turnedNormal) _ {} []) (Known.Le.refl _)).weaken
        (Known.Le.refl _) (Known.empty_le _) (List.Sublist.refl _)
  case head =>
    refine .of_leaves rfl ?_
    cases hquantized : c.quantized
    all_goals
      simp only [perVertex, varying, uniform, Record.request, Piece.chunk, PreludeItem.outline,
        PreludeItem.isStruct, PreludeItem.name, PreludeItem.usedStructs, PreludeItem.usedWords,
        if_true, if_false, Bool.false_eq_true, List.map_cons, List.map_nil, List.cons_append,
        List.nil_append, placed, turnedNormal]
      repeat rw [String.toList_ofList]
      decide
  case last =>
    refine .of_leaves rfl ?_
    simp only [Record.request, Piece.chunk, List.map_cons, List.map_nil, placed, turnedNormal]
    repeat rw [String.toList_ofList]
    decide

/-! ### Other parts -/

theorem scoped_uvRecords (c : Features) : Scoped {} (uvRecords c) {} [] := by
  refine .of_leaves rfl ?_
  cases hquantized : c.quantized
  all_goals
    simp only [uvRecords, hquantized, perVertex, varying, uniform, Record.request, Piece.chunk,
      if_true, if_false, Bool.false_eq_true, List.map_cons, List.map_nil, List.cons_append,
      List.nil_append]
    repeat rw [String.toList_ofList]
    decide

theorem scoped_shadowPositionRecords (slot : LightSlot) :
    Scoped (placed ++ { file := ["texUnitConverter"] }) (shadowPositionRecords slot) {} [] := by
  have hrecords : (shadowPositionRecords slot).map Record.request =
      ((shadowPositionRecords { slot with index := 0 }).map Record.request).map
        (Request.rename (·.withIndex slot.index)) := rfl
  refine Scoped.of_leaves_rename (·.withIndex slot.index) {} [] rfl rfl ?_ hrecords
  simp only [shadowPositionRecords, varying, uniform, Record.request, Piece.chunk, List.map_cons,
    List.map_nil, placed]
  repeat rw [String.toList_ofList]
  decide

theorem scoped_shadowPositions (slots : List LightSlot) :
    Scoped placed (define .texUnitConverter :: slots.flatMap shadowPositionRecords) {} [] := by
  have hconverter : Scoped {} [define .texUnitConverter] { file := ["texUnitConverter"] } [] := by
    refine .of_leaves rfl ?_
    simp only [Record.request, PreludeItem.outline, PreludeItem.isStruct, PreludeItem.name,
      PreludeItem.usedStructs, PreludeItem.usedWords, List.map_cons, List.map_nil]
    repeat rw [String.toList_ofList]
    decide
  have hslots := Scoped.flatMap (l := slots) fun slot _ ↦ scoped_shadowPositionRecords slot
  exact (hconverter.within hslots).weaken (Known.Le.refl _) (Known.Le.refl _) (by simp)

theorem scoped_pointSizeRecords : Scoped {} pointSizeRecords {} [] := by
  refine .of_leaves rfl ?_
  simp only [pointSizeRecords, uniform, Record.request, Piece.chunk, List.map_cons, List.map_nil]
  repeat rw [String.toList_ofList]
  decide

theorem scoped_outputPositionRecord : Scoped placed [outputPositionRecord] {} [] := by
  refine .of_leaves rfl ?_
  simp only [outputPositionRecord, Record.request, Piece.chunk, List.map_cons, List.map_nil, placed]
  repeat rw [String.toList_ofList]
  decide

theorem scoped_vertexColor : Scoped {}
    [perVertex .vec4 (vertexInput .color), varying .vec4 vColor,
      statement [vColor, " = ", vertexInput .color, ";"]] {} [] := by
  refine .of_leaves rfl ?_
  simp only [perVertex, varying, Record.request, Piece.chunk, List.map_cons, List.map_nil]
  repeat rw [String.toList_ofList]
  decide

theorem scoped_worldPosition : Scoped placed
    [varying .vec4 vWorldPosition, statement [vWorldPosition, " = worldPosition;"]] {} [] := by
  refine .of_leaves rfl ?_
  simp only [varying, Record.request, Piece.chunk, List.map_cons, List.map_nil, placed]
  repeat rw [String.toList_ofList]
  decide

/-! ### The vertex stages -/

theorem scoped_placement (o : ShaderOptions) (quantized : Bool) (billboard : Billboard)
    (stationary : Bool) :
    Scoped {} (precisionRecord o :: positionRecords quantized billboard stationary) placed
      placedLocals :=
  ((scoped_precisionRecord o).append (scoped_positionRecords quantized billboard stationary)
    (Known.empty_le _)).weaken (Known.Le.refl _) (Known.le_append_right _ _)
      (List.Sublist.refl _)

def vertexLocals : List Symbol :=
  ["localPosition", "viewMatrix2", "modelMatrix2", "worldPosition", "modelViewMatrix",
    "viewPosition", "localNormal", "worldNormal", "viewNormal", "tmpVec3"]

/-- The vertex stage of a draw program finds what it uses. -/
theorem scoped_vertexRecords (c : Features) (o : ShaderOptions) :
    Scoped {} (vertexRecords c o) placed vertexLocals := by
  have hplaced : placed.Le ({} ++ placed) := Known.le_append_right _ _
  have hnone (k : Known) : Known.Le {} k := Known.empty_le k
  exact (((((((scoped_placement o c.quantized c.billboard c.stationary).alsoIf
    (fun _ ↦ scoped_normalRecords c) (fun _ ↦ hplaced)).alsoIf
    (fun _ ↦ scoped_uvRecords c) (fun _ ↦ hnone _)).alsoIf
    (fun _ ↦ scoped_vertexColor) (fun _ ↦ hnone _)).alsoIf
    (fun _ ↦ scoped_worldPosition) (fun _ ↦ hplaced)).alsoIf
    (fun _ ↦ scoped_shadowPositions c.shadowSlots) (fun _ ↦ hplaced)).alsoIf
    (fun _ ↦ scoped_pointSizeRecords) (fun _ ↦ hnone _)).also scoped_outputPositionRecord hplaced

/-- The vertex stage of a depth program finds what it uses. -/
theorem scoped_depthVertexRecords (d : DepthFeatures) (o : ShaderOptions) :
    Scoped {} (depthVertexRecords d o) placed placedLocals :=
  ((scoped_placement o d.quantized d.billboard d.stationary).alsoIf
    (fun _ ↦ scoped_pointSizeRecords) (fun _ ↦ Known.empty_le _)).also scoped_outputPositionRecord
      (Known.le_append_right _ _)

theorem scoped_depthFragmentRecords (o : ShaderOptions) :
    Scoped {} (depthFragmentRecords o) {} [] := by
  have hdepth :
      Scoped {} [define .packDepth, statement ["gl_FragColor = packDepth(gl_FragCoord.z);"]]
        {} [] := by
    refine .of_leaves rfl ?_
    simp only [Record.request, Piece.chunk, PreludeItem.outline, PreludeItem.isStruct,
      PreludeItem.name, PreludeItem.usedStructs, PreludeItem.usedWords, List.map_cons, List.map_nil]
    repeat rw [String.toList_ofList]
    decide
  exact (scoped_precisionRecord o).also hdepth (Known.empty_le _)

end SceneRenderer.Shader
