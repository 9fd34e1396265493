import SceneRenderer.Proofs.Shader.Classified
import SceneRenderer.Proofs.Shader.Vocabulary

/-!
Globals are declared exactly where they are used: a stage of a draw program declares a uniform, a
varying or an input of vertices if and only if its code names it.

The records of a stage come in blocks, and most blocks declare what they name. Two globals cross the
borders of blocks: in the vertex stage the view matrix, which comes with every position, and in the
fragment stage the position in view space, which comes with lighting. `Matched` says what a block
owes to the others, and the stages are put together from it by `append`, `around` and `declare`.
-/

set_option autoImplicit false
set_option relaxedAutoImplicit false

namespace SceneRenderer.Shader

open Shader.Record Name

/-! ### Names of records -/

/-- The globals that the definitions among some records name. -/
def definedNames (records : List Record) : List Name :=
  records.flatMap fun
    | define i => i.named
    | _ => []

section Names

@[simp]
theorem Line.names_nil : Line.names [] = [] := rfl

@[simp]
theorem Line.names_literal (s : String) (rest : Line) :
    Line.names (.literal s :: rest) = Line.names rest := rfl

@[simp]
theorem Line.names_name (n : Name) (rest : Line) :
    Line.names (.name n :: rest) = n :: Line.names rest := rfl

@[simp]
theorem Line.names_append (front back : Line) :
    Line.names (front ++ back) = Line.names front ++ Line.names back :=
  List.filterMap_append

@[simp]
theorem Record.named_directive (line : String) : (directive line).named = [] := rfl

@[simp]
theorem Record.named_declare (qualifier : Qualifier) (type : GlslType) (name : Name) :
    (declare qualifier type name).named = [] := rfl

@[simp]
theorem Record.named_define (i : PreludeItem) : (define i).named = [] := rfl

@[simp]
theorem Record.named_statement (line : Line) : (statement line).named = line.names := rfl

@[simp]
theorem Record.named_openBlock (line : Line) : (openBlock line).named = line.names := rfl

@[simp]
theorem Record.named_closeBlock : closeBlock.named = [] := rfl

@[simp]
theorem bodyNames_nil : bodyNames [] = [] := rfl

@[simp]
theorem bodyNames_cons (r : Record) (rest : List Record) :
    bodyNames (r :: rest) = r.named ++ bodyNames rest := rfl

@[simp]
theorem bodyNames_append (front back : List Record) :
    bodyNames (front ++ back) = bodyNames front ++ bodyNames back :=
  List.flatMap_append

@[simp]
theorem bodyNames_onlyIf (enabled : Bool) (records : List Record) :
    bodyNames (onlyIf enabled records) = if enabled then bodyNames records else [] := by
  cases enabled <;> rfl

@[simp]
theorem bodyNames_flatMap {α : Type} (l : List α) (f : α → List Record) :
    bodyNames (l.flatMap f) = l.flatMap fun x ↦ bodyNames (f x) := by
  simp [bodyNames, List.flatMap_assoc]

@[simp]
theorem definedNames_nil : definedNames [] = [] := rfl

@[simp]
theorem definedNames_define (i : PreludeItem) (rest : List Record) :
    definedNames (define i :: rest) = i.named ++ definedNames rest := rfl

@[simp]
theorem definedNames_directive (line : String) (rest : List Record) :
    definedNames (directive line :: rest) = definedNames rest := rfl

@[simp]
theorem definedNames_declare (qualifier : Qualifier) (type : GlslType) (name : Name)
    (rest : List Record) :
    definedNames (declare qualifier type name :: rest) = definedNames rest := rfl

@[simp]
theorem definedNames_statement (line : Line) (rest : List Record) :
    definedNames (statement line :: rest) = definedNames rest := rfl

@[simp]
theorem definedNames_openBlock (line : Line) (rest : List Record) :
    definedNames (openBlock line :: rest) = definedNames rest := rfl

@[simp]
theorem definedNames_closeBlock (rest : List Record) :
    definedNames (closeBlock :: rest) = definedNames rest := rfl

@[simp]
theorem definedNames_append (front back : List Record) :
    definedNames (front ++ back) = definedNames front ++ definedNames back :=
  List.flatMap_append

@[simp]
theorem definedNames_onlyIf (enabled : Bool) (records : List Record) :
    definedNames (onlyIf enabled records) = if enabled then definedNames records else [] := by
  cases enabled <;> rfl

attribute [simp] PreludeItem.named

end Names

/-! ### Records that use what they declare -/

/-- Records use the globals they declare, and declare the globals they use except for some that are
given. A definition that names a global comes with a line that does. -/
structure Matched (kind : StageKind) (given : List Name) (records : List Record) : Prop where
  global : ∀ n ∈ globals records, n.isGlobal kind = true
  used : ∀ n ∈ globals records, n ∈ bodyNames records
  declared : ∀ n ∈ bodyNames records, n.isGlobal kind = true → n ∈ globals records ∨ n ∈ given
  defined : ∀ n ∈ definedNames records, n ∈ bodyNames records

namespace Matched

variable {kind : StageKind} {given : List Name} {front back records : List Record}

theorem nil : Matched kind given [] := by
  constructor <;> simp

theorem append (hfront : Matched kind given front) (hback : Matched kind given back) :
    Matched kind given (front ++ back) := by
  obtain ⟨hglobal, hused, hdeclared, hdefined⟩ := hfront
  obtain ⟨hglobal', hused', hdeclared', hdefined'⟩ := hback
  constructor
  all_goals
    simp only [bodyNames_append, globals_append, definedNames_append, List.mem_append]
    grind

theorem cons {r : Record} (hr : Matched kind given [r]) (hrecords : Matched kind given records) :
    Matched kind given (r :: records) :=
  hr.append hrecords

/-- Records between others that use what they declare. -/
theorem around {middle : List Record} (hframe : Matched kind given (front ++ back))
    (hmiddle : Matched kind given middle) : Matched kind given (front ++ middle ++ back) := by
  obtain ⟨hglobal, hused, hdeclared, hdefined⟩ := hframe
  obtain ⟨hglobal', hused', hdeclared', hdefined'⟩ := hmiddle
  constructor
  all_goals
    simp only [bodyNames_append, globals_append, definedNames_append, List.mem_append] at *
    grind

/-- A declaration gives its global to the records behind it, which must use it. -/
theorem declare {n : Name} (qualifier : Qualifier) (type : GlslType)
    (hn : n.isGlobal kind = true) (hrecords : Matched kind (n :: given) records)
    (hused : n ∈ bodyNames records) :
    Matched kind given (declare qualifier type n :: records) := by
  obtain ⟨hglobal, huses, hdeclared, hdefined⟩ := hrecords
  constructor
  all_goals simp
  all_goals grind

theorem onlyIf {enabled : Bool} (hrecords : enabled = true → Matched kind given records) :
    Matched kind given (onlyIf enabled records) := by
  cases enabled with
  | false => exact nil
  | true => exact hrecords rfl

theorem flatMap {α : Type} {l : List α} {f : α → List Record}
    (hf : ∀ x ∈ l, Matched kind given (f x)) : Matched kind given (l.flatMap f) := by
  induction l with
  | nil => exact nil
  | cons x rest ih =>
    rw [List.flatMap_cons]
    exact (hf x List.mem_cons_self).append (ih fun y hy ↦ hf y (List.mem_cons_of_mem _ hy))

end Matched

attribute [local simp] isGlobal

/-! ### The vertex stage -/

section Vertex

theorem matched_worldLightRecords {slot : LightSlot} (hslot : slot.type ≠ .ambient) :
    Matched .vertex [viewMatrix] (worldLightRecords slot) := by
  obtain ⟨i, type, space, castsShadow⟩ := slot
  cases type with
  | ambient => exact absurd rfl hslot
  | directional | point | spot =>
    constructor <;> simp [worldLightRecords, worldLightRecords.reach]

/-- The lights fixed in the world lie between the declarations of the normal and their use. -/
theorem matched_normalRecords {c : Features}
    (htypes : ∀ slot ∈ c.lightSlots, slot.type ≠ .ambient) :
    Matched .vertex [viewMatrix] (normalRecords c) := by
  have hlights : Matched .vertex [viewMatrix]
      ((c.lightSlots.filter LightSlot.isWorldSpace).flatMap worldLightRecords) :=
    .flatMap fun slot hslot ↦ matched_worldLightRecords (htypes slot (List.mem_of_mem_filter hslot))
  unfold normalRecords
  refine .around (.around ?_ (.onlyIf fun _ ↦ ?_)) hlights
  · cases c.quantized
    all_goals constructor
    all_goals simp
  · constructor <;> simp

theorem matched_uvRecords (c : Features) : Matched .vertex [viewMatrix] (uvRecords c) := by
  unfold uvRecords
  cases c.quantized
  all_goals constructor
  all_goals simp

theorem matched_shadowPositionRecords (slot : LightSlot) :
    Matched .vertex [viewMatrix] (shadowPositionRecords slot) := by
  constructor <;> simp [shadowPositionRecords]

/-- The position in clip space comes at the end of the stage, so the projection is used there. -/
theorem matched_positionRecords (quantized : Bool) (billboard : Billboard) (stationary : Bool) :
    Matched .vertex [viewMatrix]
      (positionRecords quantized billboard stationary ++ [outputPositionRecord]) := by
  unfold positionRecords
  cases quantized
  all_goals cases billboard
  all_goals cases stationary
  all_goals constructor
  all_goals simp [positionRecords.turned, outputPositionRecord]

theorem matched_vertexRecords {c : Features} (o : ShaderOptions)
    (htypes : ∀ slot ∈ c.lightSlots, slot.type ≠ .ambient) :
    Matched .vertex [viewMatrix] (vertexRecords c o) := by
  have hframe : Matched .vertex [viewMatrix]
      (precisionRecord o :: positionRecords c.quantized c.billboard c.stationary ++
        [outputPositionRecord]) :=
    .cons (by constructor <;> simp [precisionRecord])
      (matched_positionRecords _ _ _)
  refine .around (.around (.around (.around (.around (.around hframe ?normals) ?uv) ?colors)
    ?clips) ?shadows) ?points
  case normals => exact .onlyIf fun _ ↦ matched_normalRecords htypes
  case uv => exact .onlyIf fun _ ↦ matched_uvRecords c
  case shadows =>
    refine .onlyIf fun _ ↦ .cons ?_
      (.flatMap fun slot _ ↦ matched_shadowPositionRecords slot)
    constructor <;> simp
  all_goals
    refine .onlyIf fun _ ↦ ?_
    constructor <;> simp [pointSizeRecords]

end Vertex

/-! ### The fragment stage -/

section Fragment

variable {given : List Name}

theorem matched_discardIf {condition : Line} (hcondition : condition.names = []) :
    Matched .fragment given (discardIf condition) := by
  constructor <;> simp [discardIf, hcondition]

theorem matched_clipPlaneRecords (i : UInt32) :
    Matched .fragment (vWorldPosition :: given) (clipPlaneRecords i) := by
  constructor <;> simp [clipPlaneRecords]

/-- There is a clip plane to read the varying that comes with the first one. -/
theorem matched_clipRecords (c : Features) : Matched .fragment given (clipRecords c) := by
  refine .onlyIf fun hcount ↦ .append (.declare _ _ rfl (.cons (by constructor <;> simp)
    (.flatMap fun i _ ↦ matched_clipPlaneRecords i)) ?_) (matched_discardIf rfl)
  have hfirst : 0 < c.clipCount.toNat := by
    simpa [UInt32.lt_iff_toNat_lt] using hcount
  simp [clipPlaneRecords]
  exact ⟨0, hfirst⟩

theorem matched_roundPointRecords : Matched .fragment given roundPointRecords :=
  .cons (by constructor <;> simp) (matched_discardIf rfl)

theorem matched_materialRecords (c : Features) :
    Matched .fragment given (materialRecords c) := by
  unfold materialRecords
  cases c.model
  all_goals cases c.hasReflectionMap
  all_goals constructor
  all_goals simp

theorem matched_vertexColorRecords (c : Features) :
    Matched .fragment given (vertexColorRecords c) := by
  unfold vertexColorRecords
  cases c.gammaInput
  all_goals constructor
  all_goals simp [gammaFactorRecord]

theorem matched_viewRecords : Matched .fragment given viewRecords := by
  constructor <;> simp [viewRecords]

theorem matched_texelRecords (channel : TextureChannel) (encoding : TextureEncoding) :
    Matched .fragment (textureMap channel :: given) (texelRecords channel encoding) := by
  cases encoding
  all_goals constructor
  all_goals simp [texelRecords, gammaFactorRecord, isGlobal]

/-- A map of normals needs the position in view space. -/
theorem matched_texelEffectRecords (model : ShadingModel) {channel : TextureChannel}
    (hgiven : channel = .normal → vViewPosition ∈ given) :
    Matched .fragment given (texelEffectRecords model channel) := by
  cases channel
  all_goals constructor
  all_goals simp [texelEffectRecords, isGlobal, hgiven]

theorem matched_textureRecords (model : ShadingModel) {channel : TextureChannel}
    (feature : TextureFeature) (hgiven : channel = .normal → vViewPosition ∈ given) :
    Matched .fragment given (textureRecords model channel feature) := by
  refine .append (.declare _ _ rfl
    (.append ?_ (matched_texelRecords channel feature.encoding)) ?_)
    (matched_texelEffectRecords model hgiven)
  · cases feature.hasMatrix
    all_goals constructor
    all_goals simp [isGlobal]
  · cases feature.encoding <;> simp [texelRecords]

/-- A texture reads the varying that comes with the first one. -/
theorem matched_texturesRecords (c : Features)
    (hgiven : c.samples .normal = true → vViewPosition ∈ given) :
    Matched .fragment given (texturesRecords c) := by
  refine .onlyIf fun _ ↦ .append (by constructor <;> simp) (.flatMap fun t ht ↦ ?_)
  refine matched_textureRecords c.model t.2 fun hnormal ↦ hgiven ?_
  exact hnormal ▸ (List.mem_filter.mp ht).2

theorem matched_fresnelChannelRecords (channel : FresnelChannel) :
    Matched .fragment given (fresnelChannelRecords channel) := by
  cases channel
  all_goals constructor
  all_goals simp [fresnelChannelRecords]

theorem matched_fresnelRecords (c : Features) :
    Matched .fragment given (fresnelRecords c) :=
  .onlyIf fun _ ↦ .cons (by constructor <;> simp)
    (.flatMap fun channel _ ↦ matched_fresnelChannelRecords channel)

theorem matched_surfaceRecords (model : ShadingModel) :
    Matched .fragment given (surfaceRecords model) := by
  cases model
  all_goals constructor
  all_goals simp [surfaceRecords]

theorem matched_environmentRecords (c : Features) :
    Matched .fragment given (environmentRecords c) := by
  unfold environmentRecords
  cases c.model
  all_goals cases c.hasLightMap
  all_goals cases c.hasReflectionMap
  all_goals constructor
  all_goals simp

/-- A light that moves with the camera needs the position of the fragment in view space. -/
theorem matched_lightDirectionRecords (slot : LightSlot) :
    Matched .fragment [vViewPosition] (lightDirectionRecords slot) := by
  unfold lightDirectionRecords
  cases slot.isWorldSpace
  all_goals cases slot.isPositional
  all_goals constructor
  all_goals simp

theorem matched_spotRecords (slot : LightSlot) :
    Matched .fragment [vViewPosition] (spotRecords slot) := by
  unfold spotRecords
  cases slot.isWorldSpace
  all_goals constructor
  all_goals simp

theorem matched_lightRecords (model : ShadingModel) (slot : LightSlot) :
    Matched .fragment [vViewPosition] (lightRecords model slot) := by
  refine .append (.append (.append (.append (.append (matched_lightDirectionRecords slot) ?_)
    (.onlyIf fun _ ↦ ?_)) (.onlyIf fun _ ↦ matched_spotRecords slot)) (.onlyIf fun _ ↦ ?_)) ?_
  all_goals constructor <;> simp

/-- Lights share a few locals, and no globals. -/
theorem matched_lightsRecords (c : Features) {filter : List Record}
    (hfilter : Matched .fragment [vViewPosition] filter) :
    Matched .fragment [vViewPosition] (lightsRecords c filter) := by
  refine .onlyIf fun _ ↦ .append (.append (.append (.append (.append (.append ?_ ?_) hfilter)
    ?_) (.onlyIf fun _ ↦ ?_)) (.onlyIf fun _ ↦ ?_)) (.flatMap fun slot _ ↦ ?_)
  case refine_2 => cases c.model <;> constructor <;> simp [lightingItems]
  case refine_6 => exact matched_lightRecords c.model slot
  all_goals constructor <;> simp

/-- The positions of fragments in view space, where a program evaluates lighting. -/
def viewPosition (c : Features) : List Name := if c.isShaded then [vViewPosition] else []

/-- Light from the surroundings comes in where all light is summed up. -/
theorem matched_outgoingRecords (c : Features) {filter : List Record}
    (hfilter : Matched .fragment [vViewPosition] filter) :
    Matched .fragment (viewPosition c)
      (uniform .vec3 lightAmbient :: outgoingRecords c filter) := by
  unfold outgoingRecords viewPosition
  split
  · have hframe : Matched .fragment [vViewPosition] (uniform .vec3 lightAmbient ::
        shadingSetupRecords ++ [statement ["vec3 outgoingLight = (", lightAmbient,
          " * ambientAlbedo + " ++
          "reflectedLight.diffuse) * occlusion + reflectedLight.specular + emissiveColor;"]]) := by
      constructor <;> simp [shadingSetupRecords]
    exact (hframe.around (matched_environmentRecords c)).around (matched_lightsRecords c hfilter)
  · constructor <;> simp

theorem matched_alphaRecords : Matched .fragment given alphaRecords := by
  constructor <;> simp [alphaRecords, discardIf]

theorem matched_outputRecords (c : Features) :
    Matched .fragment given (outputRecords c) := by
  unfold outputRecords
  cases c.gammaOutput
  all_goals constructor
  all_goals simp [gammaFactorRecord]

theorem matched_shadowFilterRecords {c : Features} {o : ShaderOptions} {filter : List Record}
    (hfilter : shadowFilterRecords c o = .ok filter) : Matched .fragment given filter := by
  obtain rfl | ⟨f, rfl⟩ := shadowFilterRecords_cases hfilter
  all_goals constructor
  all_goals simp

/-- A map of normals is read only where lighting is evaluated. -/
theorem matched_filteredFragmentRecords {c : Features} {o : ShaderOptions} {filter : List Record}
    (hfilter : shadowFilterRecords c o = .ok filter) :
    Matched .fragment (viewPosition c) (filteredFragmentRecords c o filter) := by
  have hnormal (hsamples : c.samples .normal = true) : vViewPosition ∈ viewPosition c := by
    have hshaded : c.isShaded = true := by
      simpa [Features.samples, feedsLighting] using (Bool.and_eq_true_iff.mp hsamples).2
    simp [viewPosition, hshaded]
  refine .append (.append (.append (.append (.append (.append (.append (.append (.append (.append
    (.append (.append ?_ ?_) ?clip) ?round) ?material) ?colors) ?view) ?textures) ?fresnel)
    ?surface) ?outgoing) ?alpha) ?output
  case clip => exact matched_clipRecords c
  case round => exact .onlyIf fun _ ↦ matched_roundPointRecords
  case material => exact matched_materialRecords c
  case colors => exact .onlyIf fun _ ↦ matched_vertexColorRecords c
  case view => exact .onlyIf fun _ ↦ matched_viewRecords
  case textures => exact matched_texturesRecords c hnormal
  case fresnel => exact matched_fresnelRecords c
  case surface => exact matched_surfaceRecords c.model
  case outgoing => exact matched_outgoingRecords c (matched_shadowFilterRecords hfilter)
  case alpha => exact matched_alphaRecords
  case output => exact matched_outputRecords c
  · refine .onlyIf fun _ ↦ ?_
    constructor <;> simp
  · refine .cons ?_ (.onlyIf fun _ ↦ ?_)
    all_goals constructor <;> simp [precisionRecord, mathDirectives]

end Fragment

/-! ### Both stages -/

/-- A stage declares a global if and only if its code names it. -/
def Stage.DeclaresUsed (s : Stage) (kind : StageKind) : Prop :=
  ∀ n : Name, n.isGlobal kind = true →
    (n.text ∈ s.declarations.map (·.name) ↔ s.Names n.text)

theorem Matched.declaresUsed {kind : StageKind} {given : List Name} {records : List Record}
    {s : Stage} (hrecords : Matched kind given records) (hs : Built records s)
    (hgiven : ∀ n ∈ given, n ∈ globals records) (hinert : AllInert kind records) :
    s.DeclaresUsed kind ∧ s.unused = [] := by
  have hnames {n : Name} (hn : n.isGlobal kind = true) : s.Names n.text ↔
      n ∈ bodyNames records := by
    refine hs.names_iff hinert (fun i hi m hm ↦ ?_) hn
    exact hrecords.defined m (List.mem_flatMap.mpr ⟨define i, hi, hm⟩)
  constructor
  · intro n hn
    rw [hnames hn, List.mem_map, ← hs.gained.mem_globals]
    exact ⟨hrecords.used n, fun hbody ↦ (hrecords.declared n hbody hn).elim id (hgiven n)⟩
  · rw [Stage.unused, List.filter_eq_nil_iff]
    intro name hname
    obtain ⟨d, hd, rfl⟩ := List.mem_map.mp hname
    obtain ⟨qualifier, type, n, hdeclare, rfl⟩ :=
      declare_mem_toCall (((hs.gained.declarations d).mp hd).resolve_left List.not_mem_nil)
    have hn : n ∈ globals records := List.mem_filterMap.mpr ⟨_, hdeclare, rfl⟩
    have hmentioned : s.mentions n.text = true :=
      (s.mentions_iff n.isIdentifier_text).mpr
        ((hnames (hrecords.global n hn)).mpr (hrecords.used n hn))
    simp [hmentioned]

theorem allInert_shadowFilterRecords {c : Features} {o : ShaderOptions} {filter : List Record}
    (hfilter : shadowFilterRecords c o = .ok filter) : AllInert .fragment filter := by
  obtain rfl | ⟨f, rfl⟩ := shadowFilterRecords_cases hfilter
  · exact allInert_nil
  · simp [PreludeItem.inert]

/-- The stages of a draw program declare the globals that their code names and no others, whatever
geometry, material and scene its features were read off. -/
theorem classify_declaresUsed (geometry : Geometry) (material : Material) (lights : List Light)
    (clips : List ClipPlane) (modes : DrawModes) (scene : SceneFlags) {o : ShaderOptions}
    (hradius : o.kernelRadius ≤ maxKernelRadius) :
    ∃ v f, drawStages (classify geometry material lights clips modes scene) o = .ok (v, f) ∧
      v.DeclaresUsed .vertex ∧ f.DeclaresUsed .fragment ∧ v.unused = [] ∧ f.unused = [] := by
  have htypes := type_of_mem_classify geometry material lights clips modes scene
  generalize classify geometry material lights clips modes scene = c at *
  obtain ⟨filter, v, f, hfilter, hstages, hv, hf⟩ := drawStages_ok c hradius
  obtain ⟨hvertex, hvertexUnused⟩ := (matched_vertexRecords o htypes).declaresUsed hv
    (by simp [globals_vertexRecords]) (allInert_vertexRecords c o)
  obtain ⟨hfragment, hfragmentUnused⟩ := (matched_filteredFragmentRecords hfilter).declaresUsed hf
    (by simp [viewPosition, globals_filteredFragmentRecords, globals_shadowFilterRecords hfilter])
    (allInert_filteredFragmentRecords c o (allInert_shadowFilterRecords hfilter))
  exact ⟨v, f, hstages, hvertex, hfragment, hvertexUnused, hfragmentUnused⟩

/-- Eleven lights, among which the names of the second are the start of the names of the last. -/
theorem classify_declaresUsed_elevenLights :
    ShaderOptions.standard.kernelRadius ≤ maxKernelRadius ∧
      ∃ v f, drawStages
          (classify
            { (default : Geometry) with topology := .triangles, autoNormals := true } default
            (List.replicate 11 (.ofShape (.directional default))) [] .standard
            ⟨false, true, false, false⟩) .standard = .ok (v, f) ∧
        v.DeclaresUsed .vertex ∧ f.DeclaresUsed .fragment ∧ v.unused = [] ∧ f.unused = [] :=
  ⟨by decide, classify_declaresUsed _ _ _ _ _ _ (by decide)⟩

end SceneRenderer.Shader
