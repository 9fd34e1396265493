import SceneRenderer.Proofs.Shader.InertText

/-!
The vocabulary of the shaders: the literal text of their statements and definitions contains no
globals. What a stage names is therefore what its records say it names.

The two definitions that decode and encode gamma have a parameter under the name of a global, and
the filter over shadow maps contains numbers that the options choose; every other text is fixed.
-/

set_option autoImplicit false
set_option relaxedAutoImplicit false

namespace SceneRenderer.Shader

open Shader.Record Name

/-- All lines of the records, and all their definitions, name only the globals they show. -/
def AllInert (kind : StageKind) (records : List Record) : Prop := ∀ r ∈ records, r.Inert kind

section Rules

variable {kind : StageKind} {running : Bool}

@[simp]
theorem inert_directive (line : String) : (directive line).Inert kind := trivial

@[simp]
theorem inert_declare (qualifier : Qualifier) (type : GlslType) (name : Name) :
    (declare qualifier type name).Inert kind :=
  trivial

@[simp]
theorem inert_closeBlock : closeBlock.Inert kind := trivial

@[simp]
theorem inert_define (i : PreludeItem) : (define i).Inert kind ↔ i.Inert kind := .rfl

@[simp]
theorem inert_statement (line : Line) :
    (statement line).Inert kind ↔ Line.Inert kind false line := .rfl

@[simp]
theorem inert_openBlock (header : Line) :
    (openBlock header).Inert kind ↔ Line.Inert kind false header := .rfl

@[simp]
theorem line_inert_nil : Line.Inert kind running [] := trivial

@[simp]
theorem line_inert_name (n : Name) (rest : Line) :
    Line.Inert kind running (.name n :: rest) ↔ running = false ∧ Line.Inert kind true rest := .rfl

theorem InertText.open {s : String} {closed : Bool} (hs : InertText kind running closed s) :
    InertText kind running false s :=
  ⟨hs.foreign, hs.front, fun h ↦ absurd h Bool.false_ne_true⟩

@[simp]
theorem line_inert_literal_nil (s : String) :
    Line.Inert kind running [.literal s] ↔ InertText kind running false s :=
  ⟨fun ⟨_, hs, _⟩ ↦ hs.open, fun hs ↦ ⟨false, hs, trivial⟩⟩

@[simp]
theorem line_inert_literal_name (s : String) (n : Name) (rest : Line) :
    Line.Inert kind running (.literal s :: .name n :: rest) ↔
      InertText kind running true s ∧ Line.Inert kind true rest := by
  constructor
  · rintro ⟨closed, hs, hclosed, hrest⟩
    rw [Bool.not_eq_false_eq_eq_true] at hclosed
    exact ⟨hclosed ▸ hs, hrest⟩
  · rintro ⟨hs, hrest⟩
    exact ⟨true, hs, rfl, hrest⟩

/-- Of two neighbouring literals, one is closed where they meet. -/
theorem line_inert_literal {s : String} {rest : Line} (closed : Bool)
    (hs : InertText kind running closed s) (hrest : Line.Inert kind (!closed) rest) :
    Line.Inert kind running (.literal s :: rest) :=
  ⟨closed, hs, hrest⟩

@[simp]
theorem allInert_nil : AllInert kind [] := fun _ hr ↦ absurd hr List.not_mem_nil

@[simp]
theorem allInert_cons (r : Record) (rest : List Record) :
    AllInert kind (r :: rest) ↔ r.Inert kind ∧ AllInert kind rest :=
  List.forall_mem_cons

@[simp]
theorem allInert_append (front back : List Record) :
    AllInert kind (front ++ back) ↔ AllInert kind front ∧ AllInert kind back :=
  List.forall_mem_append

@[simp]
theorem allInert_onlyIf (enabled : Bool) (records : List Record) :
    AllInert kind (onlyIf enabled records) ↔ (enabled = true → AllInert kind records) := by
  cases enabled <;> simp [onlyIf]

@[simp]
theorem allInert_ite (p : Prop) [Decidable p] (yes no : List Record) :
    AllInert kind (if p then yes else no) ↔ (p → AllInert kind yes) ∧ (¬p → AllInert kind no) := by
  split <;> simp [*]

@[simp]
theorem allInert_flatMap {α : Type} (l : List α) (f : α → List Record) :
    AllInert kind (l.flatMap f) ↔ ∀ x ∈ l, AllInert kind (f x) := by
  simp only [AllInert, List.mem_flatMap]
  grind

end Rules

/-! ### Definitions -/

section Definitions

variable {kind : StageKind} {P : List Char → Prop}

/-- Line feeds stand between identifiers. -/
theorem mem_identifiers_intercalate {lines : List String} {word : List Char} :
    word ∈ identifiers ("\n".intercalate lines).toList ↔
      ∃ line ∈ lines, word ∈ identifiers line.toList := by
  induction lines with
  | nil => simp
  | cons first rest ih =>
    cases rest with
    | nil => simp
    | cons second others =>
      have hchars : ("\n".intercalate (first :: second :: others)).toList =
          first.toList ++ '\n' :: ("\n".intercalate (second :: others)).toList := by
        simp [String.intercalate_cons_cons]
      rw [hchars, identifiers_append_cons _ _ (by decide), List.mem_append, ih]
      simp

/-- What holds of the identifiers of a header and a body holds of those of their block. -/
theorem forall_identifiers_blockLines {header closing : String} {body : List String}
    (hclosing : identifiers closing.toList = [])
    (hheader : ∀ word ∈ identifiers header.toList, P word)
    (hbody : ∀ line ∈ body, ∀ word ∈ identifiers line.toList, P word) :
    ∀ line ∈ blockLines header body closing, ∀ word ∈ identifiers line.toList, P word := by
  intro line hline
  rcases List.mem_append.mp hline with hfront | hlast
  · rcases List.mem_cons.mp hfront with rfl | hmem
    · rwa [identifiers_append_brace]
    · obtain ⟨inner, hinner, rfl⟩ := List.mem_map.mp hmem
      have hindent : "    " ++ inner = indent 1 inner := by simp [indent, String.join_cons]
      rw [hindent, identifiers_indent]
      exact hbody inner hinner
  · rw [List.mem_singleton.mp hlast, hclosing]
    exact fun word hword ↦ absurd hword List.not_mem_nil

theorem forall_identifiers_functionLines {header : String} {body : List String}
    (hheader : ∀ word ∈ identifiers header.toList, P word)
    (hbody : ∀ line ∈ body, ∀ word ∈ identifiers line.toList, P word) :
    ∀ line ∈ functionLines header body, ∀ word ∈ identifiers line.toList, P word :=
  forall_identifiers_blockLines (identifiers_of_forall (by simp [isIdentifierChar])) hheader
    hbody

/-- Literal lines without globals. -/
def Silent (kind : StageKind) (lines : List String) : Prop :=
  ∀ line ∈ lines, ∀ word ∈ identifiers line.toList, Foreign kind word

@[simp]
theorem silent_nil : Silent kind [] := fun _ hline ↦ absurd hline List.not_mem_nil

theorem silent_cons {line : String} {rest : List String} (hline : InertText kind false false line)
    (hrest : Silent kind rest) : Silent kind (line :: rest) :=
  List.forall_mem_cons.mpr ⟨hline.foreign, hrest⟩

theorem silent_append {front back : List String} (hfront : Silent kind front)
    (hback : Silent kind back) : Silent kind (front ++ back) :=
  List.forall_mem_append.mpr ⟨hfront, hback⟩

theorem silent_functionLines {header : String} {body : List String}
    (hheader : InertText kind false false header) (hbody : Silent kind body) :
    Silent kind (functionLines header body) :=
  forall_identifiers_functionLines hheader.foreign hbody

theorem silent_structLines {name : String} {fields : List String}
    (hname : InertText kind false false ("struct " ++ name)) (hfields : Silent kind fields) :
    Silent kind (structLines name fields) :=
  forall_identifiers_blockLines (identifiers_of_forall (by simp [isIdentifierChar]))
    hname.foreign hfields

theorem PreludeItem.inert_of_silent {i : PreludeItem} (hlines : Silent kind i.lines) :
    i.Inert kind := by
  intro n hn hmem
  obtain ⟨line, hline, hword⟩ := mem_identifiers_intercalate.mp hmem
  exact absurd rfl (hlines line hline _ hword n hn)

/-- The fixed text of the definitions. -/
theorem PreludeItem.silent_lines {i : PreludeItem} (hnamed : i.named = [])
    (hfixed : ∀ f, i ≠ .computeShadow f) : Silent .fragment i.lines := by
  cases i with
  | gammaToLinear | linearToGamma => exact absurd hnamed (List.cons_ne_nil _ _)
  | computeShadow f => exact absurd rfl (hfixed f)
  | _ =>
    unfold lines
    repeat' with_reducible first
      | apply silent_functionLines | apply silent_structLines | apply silent_append
      | apply silent_cons | apply silent_nil | apply InertText.append
    all_goals exact inertText_ofList rfl

/-- The fixed text of what the vertex stage defines. -/
theorem PreludeItem.silent_lines_vertex {i : PreludeItem}
    (hi : i ∈ [octDecode, billboardSpherical, billboardCylindrical, texUnitConverter]) :
    Silent .vertex i.lines := by
  simp only [List.mem_cons, List.not_mem_nil, or_false] at hi
  rcases hi with rfl | rfl | rfl | rfl
  all_goals
    unfold lines
    repeat' with_reducible first
      | apply silent_functionLines | apply silent_append | apply silent_cons | apply silent_nil
      | apply InertText.append
    all_goals exact inertText_ofList rfl

theorem PreludeItem.inert_vertex {i : PreludeItem}
    (hi : i ∈ [octDecode, billboardSpherical, billboardCylindrical, texUnitConverter]) :
    i.Inert .vertex :=
  inert_of_silent (silent_lines_vertex hi)

/-- A text whose identifiers are foreign or the text of one name. -/
theorem foreign_or_eq_ofList {n : Name} {chars name : List Char}
    (hname : n.text = String.ofList name)
    (h : ((identifiers chars).all fun word ↦ word == name ||
      !(fingerprints kind).testBit (fingerprint word)) = true) :
    ∀ word ∈ identifiers (String.ofList chars).toList,
      word = n.text.toList ∨ Foreign kind word := by
  intro word hword
  rw [String.toList_ofList] at hword
  rw [hname, String.toList_ofList]
  have hcase := List.all_eq_true.mp h word hword
  rw [Bool.or_eq_true, beq_iff_eq, Bool.not_eq_true'] at hcase
  exact hcase.imp_right foreign_of_fingerprint

/-- The definitions that decode and encode gamma name the global after which their parameter is
called, and no other. -/
theorem PreludeItem.inert_of_gamma {i : PreludeItem} (hnamed : i.named = [gammaFactor])
    (hlines : ∀ line ∈ i.lines, ∀ word ∈ identifiers line.toList,
      word = gammaFactor.text.toList ∨ Foreign kind word) : i.Inert kind := by
  intro n hn hmem
  obtain ⟨line, hline, hword⟩ := mem_identifiers_intercalate.mp hmem
  rw [hnamed, List.mem_singleton]
  rcases hlines line hline _ hword with heq | hforeign
  · exact Name.text_injective (String.toList_inj.mp heq)
  · exact absurd rfl (hforeign n hn)

/-- Numbers stand between the literal parts of the filter over shadow maps. -/
theorem silent_shadowFilterLines (f : ShadowFilter) : Silent .fragment (shadowFilterLines f) := by
  have hloop (v : String) (hv : InertText .fragment false false v) (radius : String)
      (hradius : InertText .fragment false false radius) :
      InertText .fragment false false ("for (float " ++ v ++ " = -" ++ radius ++ "; " ++ v ++
        " <= " ++ radius ++ "; " ++ v ++ " += 1.0)") := by
    refine .insert (.insert (.insert (.insert (.insert ?_ hv ?_) hradius ?_) hv ?_) hradius ?_)
      hv ?_
    all_goals exact inertText_ofList rfl
  unfold shadowFilterLines
  refine silent_functionLines ?_ (silent_append (silent_append ?_ (silent_functionLines
    (hloop "x" ?_ _ (inertText_floatLiteral _)) (silent_functionLines
      (hloop "y" ?_ _ (inertText_floatLiteral _)) ?_))) ?_)
  case refine_2 =>
    refine silent_cons ?_ (silent_cons (.insert ?_ (inertText_floatLiteral _) ?_)
      (silent_cons ?_ silent_nil))
    all_goals exact inertText_ofList rfl
  case refine_5 =>
    refine silent_cons ?_ (silent_cons (.insert ?_ (inertText_floatLiteral _) ?_) silent_nil)
    all_goals exact inertText_ofList rfl
  case refine_6 =>
    refine silent_cons (.insert ?_ (inertText_floatLiteral _) ?_) silent_nil
    all_goals exact inertText_ofList rfl
  all_goals exact inertText_ofList rfl

/-- A definition names nothing but the globals after which its parameters are called. -/
theorem PreludeItem.inert (i : PreludeItem) : i.Inert .fragment := by
  cases hi : i with
  | gammaToLinear | linearToGamma =>
    refine inert_of_gamma rfl (forall_identifiers_functionLines ?_ ?_)
    · exact foreign_or_eq_ofList rfl (by decide)
    · rw [List.forall_mem_singleton]
      exact foreign_or_eq_ofList rfl (by decide)
  | computeShadow f => exact inert_of_silent (silent_shadowFilterLines f)
  | _ => exact inert_of_silent (silent_lines rfl nofun)

end Definitions

/-! ### The vertex stage -/

section Vertex

theorem allInert_turned {item : PreludeItem} (hitem : item.Inert .vertex) :
    AllInert .vertex (positionRecords.turned item) := by
  simp [positionRecords.turned, hitem]
  and_intros
  all_goals exact inertText_ofList rfl

theorem allInert_positionRecords (quantized : Bool) (billboard : Billboard) (stationary : Bool) :
    AllInert .vertex (positionRecords quantized billboard stationary) := by
  unfold positionRecords
  rw [allInert_append]
  constructor
  · simp
    and_intros
    all_goals intros
    all_goals and_intros
    all_goals exact inertText_ofList rfl
  · cases billboard with
    | none =>
      simp
      and_intros
      all_goals exact inertText_ofList rfl
    | spherical => exact allInert_turned (PreludeItem.inert_vertex (by simp))
    | cylindrical => exact allInert_turned (PreludeItem.inert_vertex (by simp))

theorem allInert_worldLightRecords (slot : LightSlot) :
    AllInert .vertex (worldLightRecords slot) := by
  obtain ⟨i, type, space, castsShadow⟩ := slot
  cases type
  all_goals simp [worldLightRecords, worldLightRecords.reach]
  all_goals and_intros
  all_goals exact inertText_ofList rfl

theorem allInert_normalRecords (c : Features) : AllInert .vertex (normalRecords c) := by
  have hoct : PreludeItem.octDecode.Inert .vertex := PreludeItem.inert_vertex (by simp)
  simp [normalRecords, hoct, allInert_worldLightRecords]
  and_intros
  all_goals intros
  all_goals and_intros
  all_goals exact inertText_ofList rfl

theorem allInert_uvRecords (c : Features) : AllInert .vertex (uvRecords c) := by
  simp [uvRecords]
  and_intros
  all_goals intros
  all_goals and_intros
  all_goals exact inertText_ofList rfl

theorem allInert_shadowPositionRecords (slot : LightSlot) :
    AllInert .vertex (shadowPositionRecords slot) := by
  simp [shadowPositionRecords]
  and_intros
  all_goals exact inertText_ofList rfl

theorem allInert_vertexRecords (c : Features) (o : ShaderOptions) :
    AllInert .vertex (vertexRecords c o) := by
  have hunit : PreludeItem.texUnitConverter.Inert .vertex := PreludeItem.inert_vertex (by simp)
  simp [vertexRecords, precisionRecord, pointSizeRecords, outputPositionRecord,
    allInert_positionRecords, allInert_normalRecords, allInert_uvRecords,
    allInert_shadowPositionRecords, hunit]
  and_intros
  all_goals intros
  all_goals and_intros
  all_goals exact inertText_ofList rfl

end Vertex

/-! ### The fragment stage -/

section Fragment

variable (c : Features)

/-- A condition of literals and names, closed behind an opening parenthesis and before the closing
one. -/
theorem allInert_discardIf {condition : Line}
    (hcondition : Line.Inert .fragment false (condition ++ [.literal ")"])) :
    AllInert .fragment (discardIf condition) := by
  simp only [discardIf, allInert_cons, inert_openBlock, inert_statement, line_inert_literal_nil,
    inert_closeBlock, allInert_nil, and_true]
  exact ⟨line_inert_literal true (inertText_ofList rfl) hcondition,
    inertText_ofList rfl⟩

theorem allInert_clipPlaneRecords (i : UInt32) : AllInert .fragment (clipPlaneRecords i) := by
  simp [clipPlaneRecords]
  and_intros
  all_goals exact inertText_ofList rfl

theorem allInert_clipRecords : AllInert .fragment (clipRecords c) := by
  have hdiscard : AllInert .fragment (discardIf ["dist > 0.0"]) :=
    allInert_discardIf (line_inert_literal false (inertText_ofList rfl)
      ((line_inert_literal_nil _).mpr (inertText_ofList rfl)))
  have hdist : InertText .fragment false false "float dist = 0.0;" :=
    inertText_ofList rfl
  simp [clipRecords, allInert_clipPlaneRecords, hdiscard, hdist]

theorem allInert_roundPointRecords : AllInert .fragment roundPointRecords := by
  have hdiscard : AllInert .fragment (discardIf ["dot(cxy, cxy) > 1.0"]) :=
    allInert_discardIf (line_inert_literal false (inertText_ofList rfl)
      ((line_inert_literal_nil _).mpr (inertText_ofList rfl)))
  have hcorner : InertText .fragment false false "vec2 cxy = 2.0 * gl_PointCoord - 1.0;" :=
    inertText_ofList rfl
  simp [roundPointRecords, hdiscard, hcorner]

theorem allInert_materialRecords : AllInert .fragment (materialRecords c) := by
  unfold materialRecords
  cases c.model
  all_goals simp
  all_goals and_intros
  all_goals intros
  all_goals and_intros
  all_goals exact inertText_ofList rfl

theorem inertText_albedoLocal (model : ShadingModel) :
    InertText .fragment false false (albedoLocal model) := by
  cases model <;> exact inertText_ofList rfl

theorem inertText_specularLocal (model : ShadingModel) :
    InertText .fragment false false (specularLocal model) := by
  cases model <;> exact inertText_ofList rfl

theorem allInert_vertexColorRecords : AllInert .fragment (vertexColorRecords c) := by
  have hscaled : Line.Inert .fragment false
      [.literal (albedoLocal c.model), .literal " *= vertexColor.rgb;"] :=
    line_inert_literal false (inertText_albedoLocal _)
      ((line_inert_literal_nil _).mpr (inertText_ofList rfl))
  simp [vertexColorRecords, gammaFactorRecord, PreludeItem.inert, hscaled]
  and_intros
  all_goals intros
  all_goals and_intros
  all_goals exact inertText_ofList rfl

theorem allInert_texelRecords (channel : TextureChannel) (encoding : TextureEncoding) :
    AllInert .fragment (texelRecords channel encoding) := by
  cases encoding
  all_goals simp [texelRecords, gammaFactorRecord, PreludeItem.inert]
  all_goals and_intros
  all_goals exact inertText_ofList rfl

/-- A local that is multiplied with a component of a texel. -/
theorem line_inert_scaled {target component : String}
    (htarget : InertText .fragment false false target)
    (hcomponent : InertText .fragment true false component) (channel : TextureChannel) :
    Line.Inert .fragment false
      [.literal target, .literal " *= ", .name (texel channel), .literal component] := by
  refine line_inert_literal false htarget ?_
  simp only [Bool.not_false, line_inert_literal_name, line_inert_literal_nil]
  exact ⟨inertText_ofList rfl, hcomponent⟩

theorem allInert_texelEffectRecords (model : ShadingModel) (channel : TextureChannel) :
    AllInert .fragment (texelEffectRecords model channel) := by
  have hcolor : InertText .fragment true false ".rgb;" := inertText_ofList rfl
  have halbedo := line_inert_scaled (inertText_albedoLocal model) hcolor channel
  have hspecular := line_inert_scaled (inertText_specularLocal model) hcolor channel
  cases channel
  all_goals simp [texelEffectRecords, PreludeItem.inert, halbedo, hspecular]
  all_goals and_intros
  all_goals exact inertText_ofList rfl

theorem allInert_texturesRecords : AllInert .fragment (texturesRecords c) := by
  simp [texturesRecords, textureRecords, allInert_texelRecords, allInert_texelEffectRecords]
  intros
  and_intros
  all_goals intros
  all_goals and_intros
  all_goals intros
  all_goals and_intros
  all_goals exact inertText_ofList rfl

theorem allInert_fresnelRecords : AllInert .fragment (fresnelRecords c) := by
  have hchannel (channel : FresnelChannel) :
      AllInert .fragment (fresnelChannelRecords channel) := by
    cases channel
    all_goals
      simp only [fresnelChannelRecords, Record.uniform, allInert_cons, inert_declare,
        inert_statement, allInert_nil, true_and, and_true]
      refine line_inert_literal false (inertText_ofList rfl) ?_
      simp
      and_intros
      all_goals exact inertText_ofList rfl
  simp [fresnelRecords, PreludeItem.inert, hchannel]

theorem allInert_surfaceRecords (model : ShadingModel) :
    AllInert .fragment (surfaceRecords model) := by
  cases model
  all_goals simp only [surfaceRecords, List.cons_append, List.nil_append, allInert_cons,
    inert_define, PreludeItem.inert, inert_statement, line_inert_literal_nil, allInert_nil,
    true_and, and_true]
  all_goals and_intros
  all_goals repeat' with_reducible apply InertText.append
  all_goals exact inertText_ofList rfl

theorem allInert_environmentRecords : AllInert .fragment (environmentRecords c) := by
  unfold environmentRecords
  cases c.model
  all_goals simp only [allInert_append, allInert_onlyIf, allInert_cons, allInert_nil,
    Record.uniform, inert_declare, inert_define, PreludeItem.inert, inert_statement,
    line_inert_literal_nil, line_inert_literal_name, true_and, and_true, implies_true]
  all_goals and_intros
  all_goals intros
  all_goals and_intros
  all_goals repeat' with_reducible apply InertText.append
  all_goals exact inertText_ofList rfl

theorem allInert_lightDirectionRecords (slot : LightSlot) :
    AllInert .fragment (lightDirectionRecords slot) := by
  simp [lightDirectionRecords]
  and_intros
  all_goals intros
  all_goals and_intros
  all_goals intros
  all_goals and_intros
  all_goals exact inertText_ofList rfl

theorem allInert_spotRecords (slot : LightSlot) : AllInert .fragment (spotRecords slot) := by
  simp [spotRecords]
  and_intros
  all_goals intros
  all_goals and_intros
  all_goals exact inertText_ofList rfl

theorem allInert_lightRecords (model : ShadingModel) (slot : LightSlot) :
    AllInert .fragment (lightRecords model slot) := by
  have hcall : Line.Inert .fragment false [.literal (lightingFunction model).name,
      .literal "(light, geometry, material, reflectedLight);"] := by
    refine line_inert_literal false ?_
      ((line_inert_literal_nil _).mpr (inertText_ofList rfl))
    cases model <;> exact inertText_ofList rfl
  simp [lightRecords, incidentLightRecords, allInert_lightDirectionRecords, allInert_spotRecords,
    hcall]
  and_intros
  all_goals intros
  all_goals and_intros
  all_goals exact inertText_ofList rfl

theorem allInert_lightsRecords {filter : List Record} (hfilter : AllInert .fragment filter) :
    AllInert .fragment (lightsRecords c filter) := by
  have hitems : AllInert .fragment ((lightingItems c.model).map define) := by
    intro r hr
    obtain ⟨i, _, rfl⟩ := List.mem_map.mp hr
    exact i.inert
  simp [lightsRecords, PreludeItem.inert, hfilter, hitems, allInert_lightRecords]
  intros
  and_intros
  all_goals intros
  all_goals exact inertText_ofList rfl

theorem allInert_outgoingRecords {filter : List Record} (hfilter : AllInert .fragment filter) :
    AllInert .fragment (outgoingRecords c filter) := by
  have hsum : InertText .fragment true false (" * ambientAlbedo + " ++
      "reflectedLight.diffuse) * occlusion + reflectedLight.specular + emissiveColor;") :=
    .append (inertText_ofList rfl) (inertText_ofList rfl)
  simp only [outgoingRecords, shadingSetupRecords, allInert_ite, allInert_append, allInert_cons,
    allInert_nil, inert_define, PreludeItem.inert, inert_statement, line_inert_literal_nil,
    line_inert_literal_name, true_and, and_true, hsum,
    allInert_environmentRecords, allInert_lightsRecords c hfilter]
  and_intros
  all_goals intros
  all_goals and_intros
  all_goals exact inertText_ofList rfl

theorem allInert_alphaRecords : AllInert .fragment alphaRecords := by
  have hdiscard : AllInert .fragment
      (discardIf ["alpha < ", materialAlphaModeCutoff, ".z"]) := by
    refine allInert_discardIf ?_
    simp only [List.cons_append, List.nil_append, line_inert_literal_name]
    exact ⟨inertText_ofList rfl,
      line_inert_literal false (inertText_ofList rfl)
        ((line_inert_literal_nil _).mpr (inertText_ofList rfl))⟩
  simp [alphaRecords, hdiscard]
  and_intros
  all_goals exact inertText_ofList rfl

theorem allInert_outputRecords : AllInert .fragment (outputRecords c) := by
  simp [outputRecords, gammaFactorRecord, PreludeItem.inert]
  and_intros
  all_goals intros
  all_goals and_intros
  all_goals exact inertText_ofList rfl

/-- The fragment stage names only the globals it shows, given the filter over shadow maps. -/
theorem allInert_filteredFragmentRecords (o : ShaderOptions) {filter : List Record}
    (hfilter : AllInert .fragment filter) :
    AllInert .fragment (filteredFragmentRecords c o filter) := by
  have hview : AllInert .fragment viewRecords := by
    simp [viewRecords]
    and_intros
    all_goals exact inertText_ofList rfl
  simp [filteredFragmentRecords, precisionRecord, mathDirectives, hview, allInert_clipRecords,
    allInert_roundPointRecords, allInert_materialRecords, allInert_vertexColorRecords,
    allInert_texturesRecords, allInert_fresnelRecords, allInert_surfaceRecords,
    allInert_outgoingRecords c hfilter, allInert_alphaRecords, allInert_outputRecords]

end Fragment

end SceneRenderer.Shader
