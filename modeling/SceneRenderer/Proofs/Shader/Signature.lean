import SceneRenderer.Proofs.Shader.DefinitionLines
import SceneRenderer.Proofs.Shader.Identifier
import SceneRenderer.Shader.Fragment
import SceneRenderer.Shader.Source

/-!
Every global has one qualifier and one type, whatever the features of the program: `signature` lists
them. The records of both stages respect the list, so that independent features may declare a
global together and no stage is refused.
-/

set_option autoImplicit false
set_option relaxedAutoImplicit false

namespace SceneRenderer.Shader

/-- The qualifier and type of a global. Quantized geometry stores normals in two components. -/
@[simp]
def Name.signature (quantized : Bool) : Name → Option (Qualifier × GlslType)
  | modelMatrix | viewMatrix | projMatrix | modelNormalMatrix | viewNormalMatrix
  | positionsDecodeMatrix | shadowViewMatrix _ | shadowProjMatrix _ | textureMatrix _ =>
    some (.uniform, .mat4)
  | uvDecodeMatrix => some (.uniform, .mat3)
  | lightMap | reflectionMap => some (.uniform, .samplerCube)
  | textureMap _ | shadowMap _ => some (.uniform, .sampler2D)
  | clipActive _ => some (.uniform, .bool)
  | pointSize | gammaFactor | materialAlpha | materialShininess | materialReflectivity
  | materialMetallic | materialRoughness | materialSpecularF0 | materialGlossiness
  | lightCutoff _ | fresnelEdgeBias _ | fresnelCenterBias _ | fresnelPower _ =>
    some (.uniform, .float)
  | lightAmbient | materialAmbient | materialColor | materialDiffuse | materialSpecular
  | materialEmissive | materialBaseColor | lightColor _ | lightDir _ | lightPos _
  | lightAttenuation _ | clipPos _ | clipDir _ | fresnelEdgeColor _ | fresnelCenterColor _ =>
    some (.uniform, .vec3)
  | materialAlphaModeCutoff => some (.uniform, .vec4)
  | vUV => some (.varying, .vec2)
  | vViewNormal | vSpotDir _ => some (.varying, .vec3)
  | vViewPosition | vColor | vWorldPosition | vLight _ | vShadowPos _ => some (.varying, .vec4)
  | vertexInput .position => some (.perVertex, .vec3)
  | vertexInput .normal => some (.perVertex, if quantized then .vec2 else .vec3)
  | vertexInput .uv => some (.perVertex, .vec2)
  | vertexInput .color => some (.perVertex, .vec4)
  | textureUv _ | texel _ => none

namespace Record

/-- Whether a declaration is the one of its global, and a directive unlike any declaration. -/
def respects (quantized : Bool) : Record → Bool
  | declare qualifier type name => name.signature quantized == some (qualifier, type)
  | directive line => !isDeclarationLine line
  | _ => true

/-- The global that a record declares. -/
def global? : Record → Option Name
  | declare _ _ name => some name
  | _ => none

@[simp]
theorem respects_declare (q : Bool) (qualifier : Qualifier) (type : GlslType) (name : Name) :
    (declare qualifier type name).respects q = (name.signature q == some (qualifier, type)) :=
  rfl

@[simp]
theorem respects_directive (q : Bool) (line : String) :
    (directive line).respects q = !isDeclarationLine line :=
  rfl

@[simp]
theorem respects_define (q : Bool) (item : PreludeItem) : (define item).respects q = true := rfl

@[simp]
theorem respects_statement (q : Bool) (line : Line) : (statement line).respects q = true := rfl

@[simp]
theorem respects_openBlock (q : Bool) (header : Line) : (openBlock header).respects q = true := rfl

@[simp]
theorem respects_closeBlock (q : Bool) : closeBlock.respects q = true := rfl

attribute [simp] uniform varying perVertex

end Record

@[simp]
theorem all_onlyIf (p : Record → Bool) (enabled : Bool) (records : List Record) :
    (onlyIf enabled records).all p = (!enabled || records.all p) := by
  cases enabled <;> rfl

theorem respects_precisionRecord (q : Bool) (o : ShaderOptions) :
    (precisionRecord o).respects q = true := by
  rw [precisionRecord, Record.respects, String.append_assoc,
    isDeclarationLine_ofList_append _ _ (by decide)]
  rfl

theorem respects_mathDirectives (q : Bool) : mathDirectives.all (Record.respects q) = true := by
  simp only [mathDirectives, List.all_cons, List.all_nil, Record.respects]
  rw [isDeclarationLine_ofList (by decide), isDeclarationLine_ofList (by decide),
    isDeclarationLine_ofList (by decide), isDeclarationLine_ofList (by decide)]
  rfl

theorem isDeclarationLine_extension :
    isDeclarationLine "#extension GL_OES_standard_derivatives : enable" = false :=
  isDeclarationLine_ofList (by decide)

@[simp]
theorem all_const_true {α : Type} (l : List α) : (l.all fun _ ↦ true) = true :=
  List.all_eq_true.mpr fun _ _ ↦ rfl

/-! ### The records of the stages -/

section Respects

variable (q : Bool)

theorem respects_positionRecords (billboard : Billboard) (stationary : Bool) :
    (positionRecords q billboard stationary).all (Record.respects q) = true := by
  cases q <;> cases billboard <;> cases stationary <;> decide +kernel

theorem respects_worldLightRecords (slot : LightSlot) :
    (worldLightRecords slot).all (Record.respects q) = true := by
  obtain ⟨i, type, space, castsShadow⟩ := slot
  cases type <;> rfl

theorem respects_normalRecords (c : Features) :
    (normalRecords c).all (Record.respects c.quantized) = true := by
  cases hquantized : c.quantized <;>
    simp [normalRecords, hquantized, List.all_flatMap, -List.all_eq_true,
      respects_worldLightRecords]

theorem respects_uvRecords (c : Features) :
    (uvRecords c).all (Record.respects c.quantized) = true := by
  cases hquantized : c.quantized <;> simp [uvRecords, hquantized]

theorem respects_shadowPositionRecords (slot : LightSlot) :
    (shadowPositionRecords slot).all (Record.respects q) = true := by
  simp [shadowPositionRecords]

theorem respects_pointSizeRecords : pointSizeRecords.all (Record.respects q) = true := by
  simp [pointSizeRecords]

theorem respects_vertexRecords (c : Features) (o : ShaderOptions) :
    (vertexRecords c o).all (Record.respects c.quantized) = true := by
  simp [vertexRecords, respects_precisionRecord, outputPositionRecord, List.all_flatMap,
    -List.all_eq_true, respects_positionRecords, respects_normalRecords, respects_uvRecords,
    respects_shadowPositionRecords, respects_pointSizeRecords]

theorem respects_depthVertexRecords (d : DepthFeatures) (o : ShaderOptions) :
    (depthVertexRecords d o).all (Record.respects d.quantized) = true := by
  simp [depthVertexRecords, respects_precisionRecord, outputPositionRecord, -List.all_eq_true,
    respects_positionRecords, respects_pointSizeRecords]

theorem respects_depthFragmentRecords (o : ShaderOptions) :
    (depthFragmentRecords o).all (Record.respects q) = true := by
  simp [depthFragmentRecords, respects_precisionRecord]

theorem respects_clipRecords (c : Features) :
    (clipRecords c).all (Record.respects q) = true := by
  simp [clipRecords, clipPlaneRecords, discardIf, List.all_flatMap, -List.all_eq_true]

theorem respects_materialRecords (c : Features) :
    (materialRecords c).all (Record.respects q) = true := by
  cases hmodel : c.model <;> simp [materialRecords, hmodel, -List.all_eq_true]

theorem respects_vertexColorRecords (c : Features) :
    (vertexColorRecords c).all (Record.respects q) = true := by
  cases hgamma : c.gammaInput <;> simp [vertexColorRecords, hgamma, gammaFactorRecord]

theorem respects_textureRecords (model : ShadingModel) (channel : TextureChannel)
    (feature : TextureFeature) :
    (textureRecords model channel feature).all (Record.respects q) = true := by
  obtain ⟨encoding, hasMatrix⟩ := feature
  cases channel <;> cases encoding <;> cases hasMatrix <;> rfl

theorem respects_fresnelChannelRecords (channel : FresnelChannel) :
    (fresnelChannelRecords channel).all (Record.respects q) = true := by
  simp [fresnelChannelRecords]

theorem respects_environmentRecords (c : Features) :
    (environmentRecords c).all (Record.respects q) = true := by
  simp [environmentRecords, -List.all_eq_true]

theorem respects_lightRecords (model : ShadingModel) (slot : LightSlot) :
    (lightRecords model slot).all (Record.respects q) = true := by
  obtain ⟨i, type, space, castsShadow⟩ := slot
  cases type <;> cases space <;> cases castsShadow <;> rfl

theorem respects_lightsRecords (c : Features) (filter : List Record)
    (hfilter : filter.all (Record.respects q) = true) :
    (lightsRecords c filter).all (Record.respects q) = true := by
  simp [lightsRecords, List.all_flatMap, List.all_map, Function.comp_def, -List.all_eq_true,
    hfilter, respects_lightRecords]

theorem respects_filteredFragmentRecords (c : Features) (o : ShaderOptions) (filter : List Record)
    (hfilter : filter.all (Record.respects q) = true) :
    (filteredFragmentRecords c o filter).all (Record.respects q) = true := by
  have hsurface : (surfaceRecords c.model).all (Record.respects q) = true := by
    cases c.model <;> rfl
  have houtput : (outputRecords c).all (Record.respects q) = true := by
    cases hgamma : c.gammaOutput <;> simp [outputRecords, hgamma, gammaFactorRecord]
  have houtgoing : (outgoingRecords c filter).all (Record.respects q) = true := by
    cases hshaded : c.isShaded <;>
      simp [outgoingRecords, hshaded, shadingSetupRecords, -List.all_eq_true,
        respects_environmentRecords, respects_lightsRecords q c filter hfilter]
  simp [filteredFragmentRecords, isDeclarationLine_extension, respects_precisionRecord,
    respects_mathDirectives, roundPointRecords, discardIf,
    viewRecords, texturesRecords, fresnelRecords, alphaRecords, List.all_flatMap,
    -List.all_eq_true, respects_clipRecords, respects_materialRecords, respects_vertexColorRecords,
    respects_textureRecords, respects_fresnelChannelRecords, hsurface, houtgoing, houtput]

end Respects

/-! ### Stages filled by records -/

/-- The globals that records declare. -/
def globals (records : List Record) : List Name := records.filterMap Record.global?

theorem GlslType.text_injective : Function.Injective GlslType.text := by
  intro t u
  cases t <;> cases u <;> simp [text]

theorem GlslType.blank_notMem_text (t : GlslType) : ' ' ∉ t.text.toList := by
  cases t <;> simp [text]

section Filled

variable {q : Bool} {records : List Record} {s : Stage}

/-- A declaration call comes from a declaration among the records. -/
theorem declare_mem_toCall {d : Declaration} (hd : Call.declare d ∈ records.map Record.toCall) :
    ∃ qualifier type name, Record.declare qualifier type name ∈ records ∧
      d = ⟨qualifier, type.text, name.text⟩ := by
  obtain ⟨r, hr, hcall⟩ := List.mem_map.mp hd
  cases r with
  | declare qualifier type name => exact ⟨qualifier, type, name, hr, (Call.declare.inj hcall).symm⟩
  | _ => simp [Record.toCall] at hcall

theorem consistent_toCall (hrespects : records.all (Record.respects q) = true) :
    Consistent (records.map Record.toCall) := by
  intro d e hd he hname
  obtain ⟨qualifier, type, n, hn, rfl⟩ := declare_mem_toCall hd
  obtain ⟨qualifier', type', m, hm, rfl⟩ := declare_mem_toCall he
  have hnm : n = m := Name.text_injective hname
  have hsignature := eq_of_beq (List.all_eq_true.mp hrespects _ hn)
  have hsignature' := eq_of_beq (List.all_eq_true.mp hrespects _ hm)
  rw [hnm, hsignature', Option.some_inj, Prod.mk.injEq] at hsignature
  rw [hnm, hsignature.1, hsignature.2]

/-- Records that respect the signatures fill a stage. -/
theorem Stage.ofRecords_gained (hrespects : records.all (Record.respects q) = true) :
    ∃ s, Stage.ofRecords records = .ok s ∧ Stage.Gained .empty (records.map Record.toCall) s :=
  Stage.build_gained _ (consistent_toCall hrespects)

namespace Stage.Gained

/-- The declarations of a stage tell which globals the records declared. -/
theorem mem_globals (hgained : Stage.Gained .empty (records.map Record.toCall) s) (n : Name) :
    n ∈ globals records ↔ ∃ d ∈ s.declarations, d.name = n.text := by
  constructor
  · intro hn
    obtain ⟨r, hr, hglobal⟩ := List.mem_filterMap.mp hn
    cases r with
    | declare qualifier type name =>
      rw [← Option.some_inj.mp hglobal]
      exact ⟨_, (hgained.declarations _).mpr (.inr (List.mem_map.mpr ⟨_, hr, rfl⟩)), rfl⟩
    | _ => simp [Record.global?] at hglobal
  · rintro ⟨d, hd, hname⟩
    have hcall := ((hgained.declarations d).mp hd).resolve_left List.not_mem_nil
    obtain ⟨qualifier, type, m, hm, rfl⟩ := declare_mem_toCall hcall
    rw [← Name.text_injective hname]
    exact List.mem_filterMap.mpr ⟨_, hm, rfl⟩

theorem definition_mem (hgained : Stage.Gained .empty (records.map Record.toCall) s)
    {d : Definition} (hd : d ∈ s.definitions) : ∃ i : PreludeItem, Record.define i ∈ records ∧
      d = ⟨i.name, i.source⟩ := by
  have hcall := (hgained.definitions d hd).resolve_left List.not_mem_nil
  obtain ⟨r, hr, hcall⟩ := List.mem_map.mp hcall
  cases r with
  | define i => exact ⟨i, hr, (Call.define.inj hcall).symm⟩
  | _ => simp [Record.toCall] at hcall

theorem declarations_ne_nil (hgained : Stage.Gained .empty (records.map Record.toCall) s)
    (hsome : globals records ≠ []) : s.declarations ≠ [] := by
  obtain ⟨n, hn⟩ := List.exists_mem_of_ne_nil _ hsome
  obtain ⟨d, hd, _⟩ := (hgained.mem_globals n).mp hn
  exact List.ne_nil_of_mem hd

/-- The sections of a stage can be told apart. -/
theorem separable (hgained : Stage.Gained .empty (records.map Record.toCall) s)
    (hrespects : records.all (Record.respects q) = true) : s.Separable where
  types d hd := by
    have hcall := ((hgained.declarations d).mp hd).resolve_left List.not_mem_nil
    obtain ⟨_, type, _, _, rfl⟩ := declare_mem_toCall hcall
    exact type.blank_notMem_text
  directives line hline := by
    have hcall := ((hgained.directives line).mp hline).resolve_left List.not_mem_nil
    obtain ⟨r, hr, hcall⟩ := List.mem_map.mp hcall
    cases r with
    | directive text =>
      rw [← Call.directive.inj hcall]
      simpa using List.all_eq_true.mp hrespects _ hr
    | _ => simp [Record.toCall] at hcall
  definitions line hline := by
    rw [Stage.definitionLines, List.head?_flatMap] at hline
    obtain ⟨d, hd, hfirst⟩ := List.exists_of_findSome?_eq_some hline
    obtain ⟨i, _, rfl⟩ := hgained.definition_mem hd
    exact isDeclarationLine_of_isPrefix (isPrefix_head_splitLines hfirst) i.isDeclarationLine_source
  statements line hline := by
    rw [hgained.statements] at hline
    exact head_statementLines Nat.one_pos hline

end Stage.Gained

end Filled

end SceneRenderer.Shader
