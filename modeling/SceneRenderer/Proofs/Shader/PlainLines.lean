import SceneRenderer.Proofs.Shader.DeclaredTypes

/-!
The lines of a program have no breaks in them, so a text that they are joined to is split where they
were joined. The text of a line is a fixed one but for the names in it, and names are identifiers.

The main statement is `splitLines_ofLines`.
-/

set_option autoImplicit false
set_option relaxedAutoImplicit false

namespace SceneRenderer.Shader

open Shader.Record Name

/-! ### Text without breaks -/

/-- A text without a break in it. -/
def Unbroken (text : String) : Prop := ∀ c ∈ text.toList, c ≠ '\n' ∧ c ≠ '\r'

theorem unbroken_ofList {chars : List Char}
    (h : (chars.all fun c ↦ c != '\n' && c != '\r') = true) : Unbroken (String.ofList chars) := by
  rw [Unbroken, String.toList_ofList]
  simpa using h

theorem Unbroken.append {front back : String} (hfront : Unbroken front) (hback : Unbroken back) :
    Unbroken (front ++ back) := by
  rw [Unbroken, String.toList_append]
  exact List.forall_mem_append.mpr ⟨hfront, hback⟩

theorem IsIdentifier.plain {text : String} (htext : IsIdentifier text.toList) : Plain text := by
  refine ⟨htext.1, fun c hc ↦ ?_⟩
  have hword := htext.2 c hc
  constructor <;> rintro rfl <;> exact absurd hword (by decide)

theorem plain_declaration (qualifier : Qualifier) (type : GlslType) (n : Name) :
    Plain (Declaration.line ⟨qualifier, type.text, n.text⟩) := by
  have hkeyword : Plain qualifier.keyword := by
    cases qualifier <;> exact plain_ofList rfl
  exact ((((hkeyword.append (plain_ofList rfl)).append type.isIdentifier_text.plain).append
    (plain_ofList rfl)).append n.isIdentifier_text.plain).append (plain_ofList rfl)

/-- Behind an indentation stands a line with some text. -/
theorem plain_indent {depth : Nat} (hdepth : 0 < depth) {text : String} (htext : Unbroken text) :
    Plain (indent depth text) := by
  refine ⟨fun hnone ↦ ?_, Unbroken.append ?_ htext⟩
  · have hhead := head_indent hdepth text
    rw [hnone] at hhead
    cases hhead
  · intro c hc
    rw [String.toList_join, List.mem_flatMap] at hc
    obtain ⟨blanks, hblanks, hc⟩ := hc
    rw [(List.mem_replicate.mp hblanks).2] at hc
    exact (unbroken_ofList rfl : Unbroken "    ") c hc

/-! ### Records -/

def Line.Unbroken (line : Line) : Prop := ∀ p ∈ line, Shader.Unbroken p.text

theorem Line.Unbroken.text {line : Line} (hline : line.Unbroken) : Shader.Unbroken line.text := by
  intro c hc
  rw [Line.text, String.toList_join, List.flatMap_map, List.mem_flatMap] at hc
  obtain ⟨p, hp, hc⟩ := hc
  exact hline p hp c hc

/-- What a record adds to a stage besides declarations and definitions has no breaks. -/
def Record.Unbroken : Record → Prop
  | directive line => Plain line
  | statement line => line.Unbroken
  | openBlock header => header.Unbroken
  | _ => True

/-- All records meet a condition. -/
def AllRecords (p : Record → Prop) (records : List Record) : Prop := ∀ r ∈ records, p r

section Rules

@[simp]
theorem Record.unbroken_directive (line : String) : (directive line).Unbroken ↔ Plain line :=
  Iff.rfl

@[simp]
theorem Record.unbroken_declare (qualifier : Qualifier) (type : GlslType) (n : Name) :
    (declare qualifier type n).Unbroken := trivial

@[simp]
theorem Record.unbroken_define (item : PreludeItem) : (define item).Unbroken := trivial

@[simp]
theorem Record.unbroken_statement (line : Line) : (statement line).Unbroken ↔ line.Unbroken :=
  Iff.rfl

@[simp]
theorem Record.unbroken_openBlock (header : Line) :
    (openBlock header).Unbroken ↔ header.Unbroken := Iff.rfl

@[simp]
theorem Record.unbroken_closeBlock : closeBlock.Unbroken := trivial

@[simp]
theorem unbroken_literal (text : String) : Unbroken (Piece.text (.literal text)) ↔ Unbroken text :=
  Iff.rfl

@[simp]
theorem unbroken_name (n : Name) : Unbroken (Piece.text (.name n)) :=
  n.isIdentifier_text.plain.2

@[simp]
theorem line_unbroken_nil : Line.Unbroken [] := List.forall_mem_nil _

@[simp]
theorem line_unbroken_cons (p : Piece) (rest : Line) :
    Line.Unbroken (p :: rest) ↔ Unbroken p.text ∧ Line.Unbroken rest := List.forall_mem_cons

@[simp]
theorem line_unbroken_append (front back : Line) :
    Line.Unbroken (front ++ back) ↔ front.Unbroken ∧ back.Unbroken := List.forall_mem_append

variable {p : Record → Prop}

@[simp]
theorem allRecords_nil : AllRecords p [] := List.forall_mem_nil _

@[simp]
theorem allRecords_cons (r : Record) (rest : List Record) :
    AllRecords p (r :: rest) ↔ p r ∧ AllRecords p rest := List.forall_mem_cons

@[simp]
theorem allRecords_append (front back : List Record) :
    AllRecords p (front ++ back) ↔ AllRecords p front ∧ AllRecords p back := List.forall_mem_append

@[simp]
theorem allRecords_onlyIf (enabled : Bool) (records : List Record) :
    AllRecords p (onlyIf enabled records) ↔ (enabled = true → AllRecords p records) := by
  cases enabled <;> simp [onlyIf]

@[simp]
theorem allRecords_ite (q : Prop) [Decidable q] (yes no : List Record) :
    AllRecords p (if q then yes else no) ↔ (q → AllRecords p yes) ∧ (¬q → AllRecords p no) := by
  split <;> simp [*]

@[simp]
theorem allRecords_flatMap {α : Type} (l : List α) (f : α → List Record) :
    AllRecords p (l.flatMap f) ↔ ∀ a ∈ l, AllRecords p (f a) := List.forall_mem_flatMap

end Rules

/-! ### The records of the stages -/

section Families

-- Going through the records leaves the fixed texts in them, each under the features that ask for
-- it.
attribute [local simp] gammaFactorRecord

theorem unbroken_precisionRecord (o : ShaderOptions) : (precisionRecord o).Unbroken := by
  unfold precisionRecord
  cases o.precision <;>
    exact ((plain_ofList rfl).append (plain_ofList rfl)).append (plain_ofList rfl)

theorem unbroken_positionRecords (quantized : Bool) (billboard : Billboard) (stationary : Bool) :
    AllRecords Record.Unbroken (positionRecords quantized billboard stationary) := by
  cases billboard
  all_goals simp [positionRecords, positionRecords.turned]
  all_goals repeat' with_reducible first | apply And.intro | intro _
  all_goals exact unbroken_ofList rfl

theorem unbroken_worldLightRecords (slot : LightSlot) :
    AllRecords Record.Unbroken (worldLightRecords slot) := by
  obtain ⟨i, type, space, castsShadow⟩ := slot
  cases type
  all_goals simp [worldLightRecords, worldLightRecords.reach]
  all_goals and_intros
  all_goals exact unbroken_ofList rfl

theorem unbroken_vertexRecords (c : Features) (o : ShaderOptions) :
    AllRecords Record.Unbroken (vertexRecords c o) := by
  simp [vertexRecords, normalRecords, uvRecords, shadowPositionRecords, pointSizeRecords,
    outputPositionRecord, unbroken_precisionRecord, unbroken_positionRecords,
    unbroken_worldLightRecords]
  repeat' with_reducible first | apply And.intro | intro _
  all_goals exact unbroken_ofList rfl

theorem unbroken_depthVertexRecords (d : DepthFeatures) (o : ShaderOptions) :
    AllRecords Record.Unbroken (depthVertexRecords d o) := by
  simp [depthVertexRecords, pointSizeRecords, outputPositionRecord, unbroken_precisionRecord,
    unbroken_positionRecords]
  repeat' with_reducible first | apply And.intro | intro _
  all_goals exact unbroken_ofList rfl

theorem unbroken_depthFragmentRecords (o : ShaderOptions) :
    AllRecords Record.Unbroken (depthFragmentRecords o) := by
  simp [depthFragmentRecords, unbroken_precisionRecord]
  exact unbroken_ofList rfl

theorem unbroken_clipRecords (c : Features) : AllRecords Record.Unbroken (clipRecords c) := by
  simp [clipRecords, clipPlaneRecords, discardIf]
  repeat' with_reducible first | apply And.intro | intro _
  all_goals exact unbroken_ofList rfl

theorem unbroken_materialRecords (c : Features) :
    AllRecords Record.Unbroken (materialRecords c) := by
  unfold materialRecords
  cases c.model
  all_goals simp
  all_goals repeat' with_reducible first | apply And.intro | intro _
  all_goals exact unbroken_ofList rfl

theorem unbroken_albedoLocal (model : ShadingModel) : Unbroken (albedoLocal model) := by
  cases model <;> exact unbroken_ofList rfl

theorem unbroken_specularLocal (model : ShadingModel) : Unbroken (specularLocal model) := by
  cases model <;> exact unbroken_ofList rfl

theorem unbroken_vertexColorRecords (c : Features) :
    AllRecords Record.Unbroken (vertexColorRecords c) := by
  simp [vertexColorRecords, unbroken_albedoLocal]
  repeat' with_reducible first | apply And.intro | intro _
  all_goals exact unbroken_ofList rfl

theorem unbroken_texelRecords (channel : TextureChannel) (encoding : TextureEncoding) :
    AllRecords Record.Unbroken (texelRecords channel encoding) := by
  cases encoding
  all_goals simp [texelRecords]
  all_goals and_intros
  all_goals exact unbroken_ofList rfl

theorem unbroken_texelEffectRecords (model : ShadingModel) (channel : TextureChannel) :
    AllRecords Record.Unbroken (texelEffectRecords model channel) := by
  cases channel
  all_goals simp [texelEffectRecords, unbroken_albedoLocal, unbroken_specularLocal]
  all_goals and_intros
  all_goals exact unbroken_ofList rfl

theorem unbroken_texturesRecords (c : Features) :
    AllRecords Record.Unbroken (texturesRecords c) := by
  simp [texturesRecords, textureRecords, unbroken_texelRecords, unbroken_texelEffectRecords]
  repeat' with_reducible first | apply And.intro | intro _
  all_goals exact unbroken_ofList rfl

theorem unbroken_fresnelRecords (c : Features) :
    AllRecords Record.Unbroken (fresnelRecords c) := by
  have hchannel (channel : FresnelChannel) :
      AllRecords Record.Unbroken (fresnelChannelRecords channel) := by
    cases channel
    all_goals simp [fresnelChannelRecords]
    all_goals and_intros
    all_goals exact unbroken_ofList rfl
  simp [fresnelRecords, hchannel]

theorem unbroken_surfaceRecords (model : ShadingModel) :
    AllRecords Record.Unbroken (surfaceRecords model) := by
  cases model
  all_goals simp [surfaceRecords]
  all_goals and_intros
  all_goals exact unbroken_ofList rfl

theorem unbroken_environmentRecords (c : Features) :
    AllRecords Record.Unbroken (environmentRecords c) := by
  unfold environmentRecords
  cases c.model
  all_goals simp
  all_goals repeat' with_reducible first | apply And.intro | intro _
  all_goals exact unbroken_ofList rfl

theorem unbroken_lightRecords (model : ShadingModel) (slot : LightSlot) :
    AllRecords Record.Unbroken (lightRecords model slot) := by
  have hfunction : Unbroken (lightingFunction model).name := by
    cases model <;> exact unbroken_ofList rfl
  simp [lightRecords, incidentLightRecords, lightDirectionRecords, spotRecords, hfunction]
  repeat' with_reducible first | apply And.intro | intro _
  all_goals exact unbroken_ofList rfl

variable {filter : List Record} (hfilter : AllRecords Record.Unbroken filter)

include hfilter

theorem unbroken_lightsRecords (c : Features) :
    AllRecords Record.Unbroken (lightsRecords c filter) := by
  have hitems : AllRecords Record.Unbroken ((lightingItems c.model).map define) :=
    List.forall_mem_map.mpr fun _ _ ↦ trivial
  simp [lightsRecords, unbroken_lightRecords, hitems, hfilter]
  repeat' with_reducible first | apply And.intro | intro _
  all_goals exact unbroken_ofList rfl

theorem unbroken_outgoingRecords (c : Features) :
    AllRecords Record.Unbroken (outgoingRecords c filter) := by
  unfold outgoingRecords
  split
  · simp [shadingSetupRecords, unbroken_environmentRecords, unbroken_lightsRecords hfilter]
    and_intros
    all_goals exact unbroken_ofList rfl
  · simp
    and_intros
    all_goals exact unbroken_ofList rfl

/-- The lines of a fragment stage have no breaks, if those of the filter over shadow maps have
none. -/
theorem unbroken_filteredFragmentRecords (c : Features) (o : ShaderOptions) :
    AllRecords Record.Unbroken (filteredFragmentRecords c o filter) := by
  simp [filteredFragmentRecords, mathDirectives, roundPointRecords, discardIf, viewRecords,
    alphaRecords, outputRecords, unbroken_precisionRecord, unbroken_clipRecords,
    unbroken_materialRecords, unbroken_vertexColorRecords, unbroken_texturesRecords,
    unbroken_fresnelRecords, unbroken_surfaceRecords, unbroken_outgoingRecords hfilter]
  repeat' with_reducible first | apply And.intro | intro _
  all_goals first | exact unbroken_ofList rfl | exact plain_ofList rfl

end Families

/-! ### Stages -/

section Stage

variable {q : Bool} {records : List Record} {s : Stage}

theorem plain_of_mem_statementLines {depth : Nat} (hdepth : 0 < depth)
    (hrecords : AllRecords Record.Unbroken records) {line : String}
    (hline : line ∈ statementLines depth (records.map Record.toCall)) : Plain line := by
  induction records generalizing depth with
  | nil => exact absurd hline List.not_mem_nil
  | cons r rest ih =>
    obtain ⟨hr, hrest⟩ := (allRecords_cons r rest).mp hrecords
    have hclose : 0 < max (depth - 1) 1 := by omega
    rcases List.mem_append.mp hline with hfirst | hlater
    · cases r with
      | statement text =>
        rw [List.mem_singleton.mp hfirst]
        exact plain_indent hdepth (Line.Unbroken.text hr)
      | openBlock header =>
        rw [List.mem_singleton.mp hfirst]
        exact plain_indent hdepth ((Line.Unbroken.text hr).append (unbroken_ofList rfl))
      | closeBlock =>
        rw [List.mem_singleton.mp hfirst]
        exact plain_indent hclose (unbroken_ofList rfl)
      | _ => exact absurd hfirst List.not_mem_nil
    · cases r with
      | openBlock header => exact ih (Nat.succ_pos depth) hrest hlater
      | closeBlock => exact ih hclose hrest hlater
      | _ => exact ih hdepth hrest hlater

theorem Stage.plain_lines (hrespects : records.all (Record.respects q) = true)
    (hrecords : AllRecords Record.Unbroken records) (hs : Stage.ofRecords records = .ok s) :
    ∀ line ∈ s.lines, Plain line := by
  have hbuilt := built_of_ofRecords hrespects hs
  intro line hline
  rw [Stage.lines_eq, Stage.tailLines] at hline
  simp only [List.mem_append, List.mem_cons, List.not_mem_nil, or_false] at hline
  rcases hline with hdirective | hown | (hdefinition | rfl | hstatement) | rfl
  · have hcall := ((hbuilt.gained.directives line).mp hdirective).resolve_left List.not_mem_nil
    obtain ⟨r, hr, hcall⟩ := List.mem_map.mp hcall
    cases r with
    | directive text =>
      rw [← Call.directive.inj hcall]
      exact hrecords _ hr
    | _ => simp [Record.toCall] at hcall
  · obtain ⟨d, hd, rfl⟩ := List.mem_map.mp hown
    obtain ⟨n, _, qualifier, type, _, rfl⟩ := (mem_declarations_iff hrespects hbuilt d).mp hd
    exact plain_declaration qualifier type n
  · obtain ⟨d, hd, hmem⟩ := List.mem_flatMap.mp hdefinition
    obtain ⟨i, _, rfl⟩ := hbuilt.gained.definition_mem hd
    rw [i.splitLines_source] at hmem
    exact i.plain_lines line hmem
  · exact plain_ofList rfl
  · rw [hbuilt.gained.statements] at hstatement
    exact plain_of_mem_statementLines Nat.one_pos hrecords hstatement
  · exact plain_ofList rfl

theorem Stage.lines_ne_nil (s : Stage) : s.lines ≠ [] := by
  simp [Stage.lines]

end Stage

/-- The lines of the stages of a program are plain. -/
theorem plain_lines_of_stages {o : ShaderOptions} {k : ProgramKey} {v f : Stage}
    (hstages : stages o k = .ok (v, f)) :
    (∀ line ∈ v.lines, Plain line) ∧ ∀ line ∈ f.lines, Plain line := by
  cases k with
  | draw c =>
    obtain ⟨filter, hfilter, hv, hf⟩ := drawStages_eq hstages
    have hunbroken : AllRecords Record.Unbroken filter := by
      obtain rfl | ⟨_, rfl⟩ := shadowFilterRecords_cases hfilter <;> simp
    exact ⟨Stage.plain_lines (respects_vertexRecords c o) (unbroken_vertexRecords c o) hv,
      Stage.plain_lines (respects_filteredFragmentRecords c.quantized c o filter
        (respects_shadowFilterRecords hfilter _))
        (unbroken_filteredFragmentRecords hunbroken c o) hf⟩
  | shadowDepth d =>
    obtain ⟨hv, hf⟩ := depthStages_eq hstages
    exact ⟨Stage.plain_lines (respects_depthVertexRecords d o) (unbroken_depthVertexRecords d o) hv,
      Stage.plain_lines (respects_depthFragmentRecords d.quantized o)
        (unbroken_depthFragmentRecords o) hf⟩

/-- The lines of a program are the same after they were joined to texts. -/
theorem splitLines_ofLines {o : ShaderOptions} {k : ProgramKey} {v f : Stage}
    (hstages : stages o k = .ok (v, f)) :
    splitLines ((ProgramSource.ofLines v.lines f.lines).stageText .vertex) = v.lines ∧
      splitLines ((ProgramSource.ofLines v.lines f.lines).stageText .fragment) = f.lines := by
  obtain ⟨hv, hf⟩ := plain_lines_of_stages hstages
  exact ⟨splitLines_intercalate v.lines_ne_nil hv, splitLines_intercalate f.lines_ne_nil hf⟩

end SceneRenderer.Shader
