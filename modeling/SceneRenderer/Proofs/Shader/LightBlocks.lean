import SceneRenderer.Proofs.Shader.GlobalsUsed
import SceneRenderer.Proofs.Shader.Statements
import SceneRenderer.Scene.Codec.Material

/-!
Lights do not reach into each other. The lines of the fragment stage that add up light are a block
of lines for each light (`classify_lightBlocks`). All lights share a few locals; the block of a
light assigns whatever it reads of these, so that nothing is left over from the light before, and
names no other light.

Blocks of lights of one kind differ in the index of their names alone, so that each kind is looked
at once, under the first index.
-/

set_option autoImplicit false
set_option relaxedAutoImplicit false

namespace SceneRenderer.Shader

open Shader.Record Name

/-! ### The code of one light -/

/-- What all lights share of the locals of a main function. -/
def sharedPlaces : List (List String) :=
  [["light", "direction"], ["light", "color"], ["lightDist"], ["lightVec"]]

/-- The statements of one light, given how words stand in them. -/
structure LightCode {ι : Type} [DecidableEq ι] (word : String → ι) (model : ShadingModel)
    (castsShadow : Bool) (code : List (List (Token ι))) : Prop where
  /-- The last one is a call of the lighting function. -/
  ending : ∃ arguments, code.getLast? =
    some (.identifier (word (lightingFunction model).name) :: .mark '(' :: arguments)
  /-- There is no other call of it. -/
  once : callsOf (word (lightingFunction model).name) code = 1
  /-- Nothing is left over from another light. -/
  assigned : ∀ place ∈ sharedPlaces, AssignedFirst (place.map word) code
  /-- Maps are filtered for lights that cast shadows. -/
  shadow : callsOf (word "computeShadow") code = if castsShadow then 1 else 0
  /-- The light is not summed up yet. -/
  unsummed : ∀ line ∈ code, .identifier (word "outgoingLight") ∉ line

/-- The words that the code of a light is told by. -/
def lightWords (model : ShadingModel) : List String :=
  ["computeShadow", "outgoingLight", (lightingFunction model).name] ++ sharedPlaces.flatten

theorem LightCode.map {ι κ : Type} [DecidableEq ι] [DecidableEq κ] {f : ι → κ} {word : String → ι}
    {model : ShadingModel} {castsShadow : Bool} {code : List (List (Token ι))}
    (h : LightCode word model castsShadow code)
    (hf : TellsApart f ((lightWords model).map word) code) :
    LightCode (f ∘ word) model castsShadow (code.map (List.map (Token.map f))) where
  ending := by
    obtain ⟨arguments, hlast⟩ := h.ending
    exact ⟨arguments.map (Token.map f), by rw [List.getLast?_map, hlast]; rfl⟩
  once := (callsOf_map (hf.mono (by simp [lightWords]))).trans h.once
  assigned place hplace := by
    rw [← List.map_map]
    refine (h.assigned place hplace).map (hf.mono (List.map_subset _ ?_))
    exact List.subset_append_of_subset_right _
      fun w hw ↦ List.mem_flatten.mpr ⟨place, hplace, hw⟩
  shadow := (callsOf_map (hf.mono (by simp [lightWords]))).trans h.shadow
  unsummed mapped hmapped hsum := by
    obtain ⟨line, hline, rfl⟩ := List.mem_map.mp hmapped
    obtain ⟨t, ht, htext⟩ := List.mem_map.mp hsum
    cases t with
    | mark c => exact absurd htext nofun
    | identifier w =>
      have hword : word "outgoingLight" ∈ (lightWords model).map word :=
        List.mem_map_of_mem (by simp [lightWords])
      have hsame := hf line hline w ht _ hword (Token.identifier.inj htext)
      exact h.unsummed line hline (hsame ▸ ht)

/-! ### The symbols of lights -/

/-- How a word of a text stands among symbols. -/
def spelled (s : String) : Symbol := .word s.toList

/-- Whether a statement is a call of a function. -/
def isCallOf (function : Symbol) : List (Token Symbol) → Bool
  | .identifier word :: .mark c :: _ => decide (word = function) && c == '('
  | _ => false

theorem isCallOf_iff {function : Symbol} {line : List (Token Symbol)} :
    isCallOf function line = true ↔
      ∃ arguments, line = .identifier function :: .mark '(' :: arguments := by
  rcases line with _ | ⟨word | _, _ | ⟨_ | c, arguments⟩⟩ <;> simp [isCallOf]

/-- The names in some code are globals. -/
def namesGlobals (code : List (List (Token Symbol))) : Bool :=
  code.all fun line ↦ line.all fun
    | .identifier (.name n) => n.isGlobal .fragment
    | _ => true

/-- What is checked of the code of a light. -/
def checkLight (function filter sum : Symbol) (shared : List (List Symbol)) (castsShadow : Bool)
    (code : List (List (Token Symbol))) : Bool :=
  code.getLast?.any (isCallOf function) && callsOf function code == 1 &&
    shared.all (fun place ↦ assignedFirst place code) &&
    callsOf filter code == (if castsShadow then 1 else 0) &&
    code.all (fun line ↦ decide (.identifier sum ∉ line)) && namesGlobals code

/-- The check with the words of a model. -/
def checkLightOf (model : ShadingModel) (castsShadow : Bool) (code : List (List (Token Symbol))) :
    Bool :=
  checkLight (spelled (lightingFunction model).name) (spelled "computeShadow")
    (spelled "outgoingLight") (sharedPlaces.map (List.map spelled)) castsShadow code

theorem LightCode.of_checkLightOf {model : ShadingModel} {castsShadow : Bool}
    {code : List (List (Token Symbol))} (h : checkLightOf model castsShadow code = true) :
    LightCode spelled model castsShadow code ∧ namesGlobals code = true := by
  simp only [checkLightOf, checkLight, Bool.and_eq_true, beq_iff_eq, List.all_eq_true,
    decide_eq_true_eq] at h
  obtain ⟨⟨⟨⟨⟨hending, honce⟩, hassigned⟩, hshadow⟩, hunsummed⟩, hnames⟩ := h
  obtain ⟨last, hlast, hcall⟩ := (Option.any_eq_true _ _).mp hending
  obtain ⟨arguments, rfl⟩ := isCallOf_iff.mp hcall
  exact ⟨⟨⟨arguments, hlast⟩, honce,
    fun place hplace ↦ .of_assignedFirst (hassigned _ (List.mem_map_of_mem hplace)), hshadow,
    hunsummed⟩, hnames⟩

/-- The call that adds the light of one source. -/
def lightingCall (model : ShadingModel) : List (Token Symbol) :=
  .identifier (spelled (lightingFunction model).name) ::
    (tokens "(light, geometry, material, reflectedLight);".toList).map (Token.map .word)

theorem statementSymbols_lightingCall (model : ShadingModel) :
    statementSymbols ([statement [(lightingFunction model).name,
      "(light, geometry, material, reflectedLight);"]].map Record.request) =
        some [lightingCall model] := by
  cases model
  all_goals
    simp only [lightingFunction, PreludeItem.name, Record.request, Piece.chunk, List.map_cons,
      List.map_nil, lightingCall, spelled]
    repeat rw [String.toList_ofList]
    decide

/-- The code of lights of all kinds under the first index, for all models. -/
theorem checkLightOf_incidentLightRecords (type : LightType) (space : LightSpace)
    (castsShadow : Bool) :
    (statementSymbols ((incidentLightRecords ⟨0, type, space, castsShadow⟩).map Record.request)).any
      (fun code ↦ ShadingModel.all.all fun model ↦
        checkLightOf model castsShadow (code ++ [lightingCall model])) = true := by
  cases hpositional : LightSlot.isPositional ⟨0, type, space, castsShadow⟩
  all_goals cases hworld : LightSlot.isWorldSpace ⟨0, type, space, castsShadow⟩
  all_goals cases hspot : type == .spot
  all_goals cases castsShadow
  all_goals
    simp only [incidentLightRecords, lightDirectionRecords, spotRecords, hpositional, hworld, hspot,
      onlyIf, varying, uniform, Record.request, Piece.chunk, if_true, if_false, Bool.false_eq_true,
      List.map_cons, List.map_nil, List.cons_append, List.nil_append, List.append_nil,
      ShadingModel.all, List.all_cons, List.all_nil, checkLightOf, lightingCall, lightingFunction,
      PreludeItem.name, sharedPlaces, spelled]
    repeat rw [String.toList_ofList]
    decide

/-- The code of a light, whatever its kind, under the first index. -/
theorem exists_code_lightRecords (model : ShadingModel) (type : LightType) (space : LightSpace)
    (castsShadow : Bool) :
    ∃ code,
      statementSymbols ((lightRecords model ⟨0, type, space, castsShadow⟩).map Record.request) =
        some code ∧
      LightCode spelled model castsShadow code ∧ namesGlobals code = true := by
  obtain ⟨code, hcode, hmodels⟩ := (Option.any_eq_true _ _).mp
    (checkLightOf_incidentLightRecords type space castsShadow)
  have hchecked := List.all_eq_true.mp hmodels model (by cases model <;> decide)
  refine ⟨_, ?_, LightCode.of_checkLightOf hchecked⟩
  rw [lightRecords, List.map_append, statementSymbols_append, hcode, statementSymbols_lightingCall]
  rfl

theorem foreign_lightWords (model : ShadingModel) :
    ∀ s ∈ lightWords model, Foreign .fragment s.toList := by
  cases model
  all_goals
    simp only [lightWords, sharedPlaces, lightingFunction, PreludeItem.name, List.flatten_cons,
      List.flatten_nil, List.cons_append, List.nil_append, List.forall_mem_cons]
    repeat rw [String.toList_ofList]
    and_intros
  all_goals first | exact foreign_of_fingerprint (by decide) | exact List.forall_mem_nil _

/-- An index keeps a global among the globals. -/
theorem isGlobal_withIndex (n : Name) (kind : StageKind) (i : UInt32) :
    (n.withIndex i).isGlobal kind = n.isGlobal kind := by
  cases n <;> rfl

/-- The words that tell the code of a light are told from its names, under any index. -/
theorem tellsApart_lightWords {code : List (List (Token Symbol))} (hcode : namesGlobals code = true)
    (model : ShadingModel) (i : UInt32) :
    TellsApart (fun w ↦ (w.rename (·.withIndex i)).text) ((lightWords model).map spelled) code := by
  intro line hline w hw other hother htext
  obtain ⟨s, hs, rfl⟩ := List.mem_map.mp hother
  cases w with
  | word chars => exact congrArg Symbol.word htext
  | name n =>
    have hglobal : n.isGlobal .fragment = true :=
      List.all_eq_true.mp (List.all_eq_true.mp hcode line hline) _ hw
    exact absurd htext (foreign_lightWords model s hs _ (by rwa [isGlobal_withIndex]))

theorem request_lightRecords (model : ShadingModel) (slot : LightSlot) :
    (lightRecords model slot).map Record.request =
      ((lightRecords model { slot with index := 0 }).map Record.request).map
        (Request.rename (·.withIndex slot.index)) := by
  obtain ⟨i, type, space, castsShadow⟩ := slot
  cases type <;> cases space <;> cases castsShadow <;> rfl

/-- The lines of a light are its code. -/
theorem lightCode_lightRecords (model : ShadingModel) (slot : LightSlot) (depth : Nat) :
    LightCode String.toList model slot.castsShadow
      ((bodyLines depth (lightRecords model slot)).map fun line ↦ tokens line.toList) := by
  obtain ⟨code, hcode, hfirst, hnames⟩ :=
    exists_code_lightRecords model slot.type slot.space slot.castsShadow
  have hsymbols : statementSymbols ((lightRecords model slot).map Record.request) =
      some (code.map (List.map (Token.map (Symbol.rename (·.withIndex slot.index))))) := by
    rw [request_lightRecords, statementSymbols_rename, hcode]
    rfl
  have hlight := hfirst.map (tellsApart_lightWords hnames model slot.index)
  have htokens (t : Token Symbol) :
      (t.map (Symbol.rename (·.withIndex slot.index))).map Symbol.text =
        t.map fun w ↦ (w.rename (·.withIndex slot.index)).text := by
    cases t <;> rfl
  simp only [map_tokens_bodyLines hsymbols, List.map_map, Function.comp_def, htokens]
  exact hlight

/-! ### The lines of one light -/

/-- The light that a name belongs to. -/
def Name.light? : Name → Option UInt32
  | lightColor i | lightDir i | lightPos i | lightAttenuation i | lightCutoff i | vLight i
  | vSpotDir i | shadowMap i | shadowViewMatrix i | shadowProjMatrix i | vShadowPos i => some i
  | _ => none

/-- The lines that one light adds to a main function. -/
structure LightBlock (model : ShadingModel) (slot : LightSlot) (lines : List String) : Prop where
  code : LightCode String.toList model slot.castsShadow (lines.map fun line ↦ tokens line.toList)
  /-- They name no other light. -/
  own : ∀ line ∈ lines, ∀ n : Name, ∀ i, n.light? = some i →
    containsIdentifier line n.text = true → i = slot.index

theorem light?_of_mem_bodyNames {model : ShadingModel} {slot : LightSlot} :
    ∀ n ∈ bodyNames (lightRecords model slot), ∀ i, n.light? = some i → i = slot.index := by
  have hdirection : ∀ n ∈ bodyNames (lightDirectionRecords slot), ∀ i, n.light? = some i →
      i = slot.index := by
    unfold lightDirectionRecords
    cases slot.isWorldSpace <;> cases slot.isPositional <;>
      simp [onlyIf, uniform, varying, Name.light?]
  have hspot : ∀ n ∈ bodyNames (spotRecords slot), ∀ i, n.light? = some i → i = slot.index := by
    unfold spotRecords
    cases slot.isWorldSpace <;> simp [uniform, varying, Name.light?]
  have hif {enabled : Bool} {names : List Name}
      (hnames : ∀ n ∈ names, ∀ i, n.light? = some i → i = slot.index) :
      ∀ n ∈ if enabled then names else [], ∀ i, n.light? = some i → i = slot.index := by
    cases enabled
    · exact List.forall_mem_nil _
    · exact hnames
  simp only [lightRecords, incidentLightRecords, bodyNames_append, bodyNames_onlyIf,
    List.forall_mem_append]
  refine ⟨⟨⟨⟨⟨hdirection, ?_⟩, hif ?_⟩, hif hspot⟩, hif ?_⟩, ?_⟩
  all_goals simp [uniform, varying, Name.light?]

theorem lightBlock_lightRecords (model : ShadingModel) (slot : LightSlot) (depth : Nat) :
    LightBlock model slot (bodyLines depth (lightRecords model slot)) where
  code := lightCode_lightRecords model slot depth
  own line hline n i hi hmentioned := by
    have hglobal : n.isGlobal .fragment = true := by
      cases n <;> first | rfl | exact absurd hi nofun
    rw [containsIdentifier_iff n.isIdentifier_text] at hmentioned
    exact light?_of_mem_bodyNames n ((mem_bodyLines_iff (allInert_lightRecords model slot) hglobal
      depth).mp ⟨line, hline, hmentioned⟩) i hi

/-! ### The lights of a fragment stage -/

theorem bodyDepth_append_of {front back : List Record} (hfront : bodyDepth 1 front = 1)
    (hback : bodyDepth 1 back = 1) : bodyDepth 1 (front ++ back) = 1 := by
  rw [bodyDepth_append, hfront, hback]

/-- What the fragment stage does before it adds up light. -/
def surroundingRecords (c : Features) (o : ShaderOptions) : List Record :=
  openingRecords c o ++ onlyIf c.hasColors (vertexColorRecords c) ++ viewRecords ++
    texturesRecords c ++ fresnelRecords c ++ surfaceRecords c.model ++
    (uniform .vec3 lightAmbient :: shadingSetupRecords) ++ environmentRecords c

/-- All blocks before the lights are closed. -/
theorem bodyDepth_surroundingRecords (c : Features) (o : ShaderOptions) :
    bodyDepth 1 (surroundingRecords c o) = 1 := by
  have hclip : bodyDepth 1 (clipRecords c) = 1 := by
    refine bodyDepth_onlyIf (bodyDepth_append_of (bodyDepth_append_of rfl ?_) rfl) _
    exact bodyDepth_flatMap fun _ _ ↦ rfl
  have hmaterial : bodyDepth 1 (materialRecords c) = 1 := by
    unfold materialRecords
    cases c.model <;> cases c.hasReflectionMap <;> rfl
  have hopening : bodyDepth 1 (openingRecords c o) = 1 := by
    refine bodyDepth_append_of (bodyDepth_append_of (bodyDepth_append_of ?_ hclip)
      (bodyDepth_onlyIf rfl _)) hmaterial
    exact bodyDepth_append_of (bodyDepth_onlyIf rfl _) (bodyDepth_onlyIf rfl _)
  have htextures : bodyDepth 1 (texturesRecords c) = 1 := by
    refine bodyDepth_onlyIf (bodyDepth_append_of rfl ?_) _
    exact bodyDepth_flatMap fun t _ ↦ bodyDepth_textureRecords 1 c.model t.1 t.2
  have hfresnel : bodyDepth 1 (fresnelRecords c) = 1 := by
    refine bodyDepth_onlyIf ?_ _
    exact bodyDepth_flatMap fun _ _ ↦ rfl
  have hsurface : bodyDepth 1 (surfaceRecords c.model) = 1 := by
    cases c.model <;> rfl
  have henvironment : bodyDepth 1 (environmentRecords c) = 1 := by
    unfold environmentRecords
    cases c.hasLightMap <;> cases c.hasReflectionMap <;> rfl
  have hcolors := bodyDepth_onlyIf (bodyDepth_vertexColorRecords 1 c) c.hasColors
  exact bodyDepth_append_of (bodyDepth_append_of (bodyDepth_append_of (bodyDepth_append_of
    (bodyDepth_append_of (bodyDepth_append_of (bodyDepth_append_of hopening hcolors) rfl)
      htextures) hfresnel) hsurface) rfl) henvironment

/-- The definitions that lighting needs, with the filter over shadow maps. -/
def lightingDefinitions (model : ShadingModel) (filter : List Record) : List Record :=
  [define .incidentLightStruct, define .diffuseLambert] ++
    (lightingItems model).map define ++ filter

theorem bodyLines_lightingDefinitions {c : Features} {o : ShaderOptions} {filter : List Record}
    (hfilter : shadowFilterRecords c o = .ok filter) :
    bodyLines 1 (lightingDefinitions c.model filter) = [] ∧
      bodyDepth 1 (lightingDefinitions c.model filter) = 1 := by
  obtain rfl | ⟨f, rfl⟩ := shadowFilterRecords_cases hfilter <;>
    cases c.model <;> exact ⟨rfl, rfl⟩

def localRecords (slots : List LightSlot) : List Record :=
  [statement ["IncidentLight light;"]] ++
    onlyIf (slots.any LightSlot.isPositional) [statement ["float lightDist;"]] ++
    onlyIf (slots.any fun s ↦ s.isPositional && !s.isWorldSpace) [statement ["vec3 lightVec;"]]

/-- The declarations of the locals that lights share. -/
def lightLocals (slots : List LightSlot) : List String :=
  [indent 1 "IncidentLight light;"] ++
    (if slots.any LightSlot.isPositional then [indent 1 "float lightDist;"] else []) ++
    if slots.any fun s ↦ s.isPositional && !s.isWorldSpace then [indent 1 "vec3 lightVec;"] else []

theorem bodyLines_localRecords (slots : List LightSlot) :
    bodyLines 1 (localRecords slots) = lightLocals slots ∧
    bodyDepth 1 (localRecords slots) = 1 := by
  unfold localRecords lightLocals
  cases slots.any LightSlot.isPositional <;>
    cases (slots.any fun s ↦ s.isPositional && !s.isWorldSpace) <;> exact ⟨rfl, rfl⟩

theorem bodyDepth_lightRecords (model : ShadingModel) (slot : LightSlot) :
    bodyDepth 1 (lightRecords model slot) = 1 := by
  have hdirection : bodyDepth 1 (lightDirectionRecords slot) = 1 := by
    unfold lightDirectionRecords
    cases slot.isWorldSpace <;> cases slot.isPositional <;> rfl
  have hspot : bodyDepth 1 (spotRecords slot) = 1 := by
    unfold spotRecords
    cases slot.isWorldSpace <;> rfl
  exact bodyDepth_append_of (bodyDepth_append_of (bodyDepth_append_of (bodyDepth_append_of
    (bodyDepth_append_of hdirection rfl) (bodyDepth_onlyIf rfl _)) (bodyDepth_onlyIf hspot _))
      (bodyDepth_onlyIf rfl _)) rfl

theorem bodyLines_lightsRecords {c : Features} {o : ShaderOptions} {filter : List Record}
    (hslots : c.lightSlots ≠ []) (hfilter : shadowFilterRecords c o = .ok filter) :
    bodyLines 1 (lightsRecords c filter) = lightLocals c.lightSlots ++
        (c.lightSlots.flatMap fun slot ↦ bodyLines 1 (lightRecords c.model slot)) ∧
      bodyDepth 1 (lightsRecords c filter) = 1 := by
  have hrecords : lightsRecords c filter = lightingDefinitions c.model filter ++
      (localRecords c.lightSlots ++ c.lightSlots.flatMap (lightRecords c.model)) := by
    simp [lightsRecords, lightingDefinitions, localRecords, onlyIf, hslots]
  obtain ⟨hsilent, hdefinitions⟩ := bodyLines_lightingDefinitions hfilter
  obtain ⟨hlocals, hdepth⟩ := bodyLines_localRecords c.lightSlots
  have hblocks (slot : LightSlot) (_ : slot ∈ c.lightSlots) := bodyDepth_lightRecords c.model slot
  rw [hrecords]
  constructor
  · rw [bodyLines_append, hsilent, hdefinitions, List.nil_append, bodyLines_append, hlocals, hdepth,
      bodyLines_flatMap hblocks]
  · exact bodyDepth_append_of hdefinitions (bodyDepth_append_of hdepth (bodyDepth_flatMap hblocks))

/-- Lights do not reach into each other: between the declarations of the locals that they share and
the sum of all light, the fragment stage has a block of lines for each slot, in the order of the
slots. -/
theorem classify_lightBlocks (geometry : Geometry) (material : Material) (lights : List Light)
    (clips : List ClipPlane) (modes : DrawModes) (scene : SceneFlags) {o : ShaderOptions}
    (hslots : (classify geometry material lights clips modes scene).lightSlots ≠ [])
    (hradius : o.kernelRadius ≤ maxKernelRadius) :
    ∃ vertex fragment blocks sum, ∃ before after : List String,
      drawStages (classify geometry material lights clips modes scene) o = .ok (vertex, fragment) ∧
      fragment.statements =
        before ++ lightLocals (classify geometry material lights clips modes scene).lightSlots ++
          blocks.flatten ++ indent 1 ("vec3 outgoingLight = (" ++ sum) :: after ∧
      List.Forall₂ (LightBlock material.model)
        (classify geometry material lights clips modes scene).lightSlots blocks := by
  have hshaded : (classify geometry material lights clips modes scene).isShaded = true :=
    (Features.isShaded_normalize _).trans
      (isShaded_requestedFeatures geometry material lights clips modes scene (.inl hslots))
  have hmodel : (classify geometry material lights clips modes scene).model = material.model := rfl
  generalize classify geometry material lights clips modes scene = c at *
  obtain ⟨filter, vertex, fragment, hfilter, hstages, -, hfragment⟩ := drawStages_ok c hradius
  have hrecords : filteredFragmentRecords c o filter = surroundingRecords c o ++
      (lightsRecords c filter ++ (statement ["vec3 outgoingLight = (", lightAmbient,
        " * ambientAlbedo + " ++ "reflectedLight.diffuse) * occlusion + " ++
          "reflectedLight.specular + emissiveColor;"] :: (alphaRecords ++ outputRecords c))) := by
    simp [filteredFragmentRecords_eq, closingRecords, surroundingRecords, outgoingRecords, hshaded,
      onlyIf]
  obtain ⟨hlines, hdepth⟩ := bodyLines_lightsRecords hslots hfilter
  have hsum (rest : Line) (others : List Record) :
      bodyLines 1 (statement (.literal "vec3 outgoingLight = (" :: rest) :: others) =
        indent 1 ("vec3 outgoingLight = (" ++ Line.text rest) :: bodyLines 1 others :=
    congrArg (indent 1 · :: bodyLines 1 others) String.join_cons
  have hstatements := hfragment.statements
  rw [hrecords, bodyLines_append, bodyDepth_surroundingRecords, bodyLines_append, hdepth, hlines,
    hsum, hmodel, List.flatMap_def, ← List.append_assoc, ← List.append_assoc] at hstatements
  refine ⟨vertex, fragment, _, _, _, _, hstages, hstatements, ?_⟩
  rw [List.forall₂_map_right_iff, List.forall₂_same]
  exact fun slot _ ↦ lightBlock_lightRecords material.model slot 1

/-- Three kinds of lights, of which one casts a shadow, and an ambient light without a block. -/
theorem classify_lightBlocks_threeKinds :
    let c :=
      classify { (default : Geometry) with topology := .triangles, autoNormals := true } default
        [.point .zero .none, .ambient .one 1.0,
          { Light.directional .one .view with shadow := true },
          { Light.ofShape (.spot .zero .one .none 0.5) with space := .view }]
      [] .standard ⟨false, false, false, false⟩
    c.lightSlots ≠ [] ∧ ShaderOptions.standard.kernelRadius ≤ maxKernelRadius ∧
      c.lightSlots = [⟨0, .point, .world, false⟩, ⟨2, .directional, .view, true⟩,
        ⟨3, .spot, .view, false⟩] ∧
      ∃ vertex fragment blocks sum, ∃ before after : List String,
        drawStages c .standard = .ok (vertex, fragment) ∧
        fragment.statements =
          before ++ [indent 1 "IncidentLight light;", indent 1 "float lightDist;",
            indent 1 "vec3 lightVec;"] ++ blocks.flatten ++
            indent 1 ("vec3 outgoingLight = (" ++ sum) :: after ∧
        List.Forall₂ (LightBlock .lambert) c.lightSlots blocks :=
  ⟨by decide, by decide, by decide, classify_lightBlocks _ _ _ _ _ _ (by decide) (by decide)⟩

end SceneRenderer.Shader
