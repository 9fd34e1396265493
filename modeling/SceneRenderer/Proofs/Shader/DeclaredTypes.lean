import SceneRenderer.Proofs.Shader.DeclaredUniforms
import SceneRenderer.Proofs.Shader.Definitions

/-!
The types of the uniforms that a program declares. A program reads no other uniforms: what linking
asks for is read back from the lines of the program, and only declarations stand there like
declarations. `Stage.declaredNames_lines` says that the names which are read back are those that
were declared, in their order.
-/

set_option autoImplicit false
set_option relaxedAutoImplicit false

namespace SceneRenderer.Shader

open Name

/-- A stage of a program declares a uniform with a type. -/
def DeclaresAs (o : ShaderOptions) (k : ProgramKey) (name : String) (type : GlslType) : Prop :=
  ∃ v f, stages o k = .ok (v, f) ∧
    (⟨.uniform, type.text, name⟩ ∈ v.declarations ∨ ⟨.uniform, type.text, name⟩ ∈ f.declarations)

/-- A line of a source declares a uniform with a type. -/
def ProgramSource.Declares (s : ProgramSource) (name : String) (type : GlslType) : Prop :=
  ∃ kind, (⟨.uniform, type.text, name⟩ : Declaration).line ∈ s.stage kind

/-- The names that a stage declares with a qualifier, in the order of their declarations. -/
def Stage.declared (s : Stage) (qualifier : Qualifier) : List String :=
  (s.declarations.filter (·.qualifier = qualifier)).map (·.name)

/-- What a stage declares is found by filling it. -/
theorem Stage.declared_of_run {records : List Record} {qualifier : Qualifier} {names : List String}
    (hrun : (Stage.ofRecords records).toOption.map (·.declared qualifier) = some names) {s : Stage}
    (hs : Stage.ofRecords records = .ok s) : s.declared qualifier = names := by
  rw [hs] at hrun
  exact Option.some.inj hrun

/-! ### Lines of declarations -/

theorem declaredName?_eq_none {q : Qualifier} {line : String}
    (hline : (q.keyword ++ " ").toList.isPrefixOf line.toList = false) :
    declaredName? q line = none := by
  unfold declaredName?
  simp only [hline, Bool.false_eq_true, if_false]

/-- A line that starts with no keyword is read as no declaration. -/
theorem declaredName?_of_isDeclarationLine {q : Qualifier} {line : String}
    (hline : isDeclarationLine line = false) : declaredName? q line = none := by
  rw [isDeclarationLine, List.any_eq_false] at hline
  exact declaredName?_eq_none (Bool.eq_false_iff.mpr (hline q (by cases q <;> simp)))

/-- A declaration of another kind is not read as one of this kind. -/
theorem declaredName?_line_of_ne {q : Qualifier} {d : Declaration} (hd : d.qualifier ≠ q) :
    declaredName? q d.line = none := by
  refine declaredName?_eq_none ?_
  rw [Bool.eq_false_iff, ne_eq, List.isPrefixOf_iff_prefix]
  intro hother
  have hown : (d.qualifier.keyword ++ " ").toList <+: d.line.toList :=
    ⟨(d.type ++ " " ++ d.name ++ ";").toList, by simp [Declaration.line]⟩
  have hfirst := List.prefix_or_prefix_of_prefix hother hown
  cases hq : d.qualifier <;> cases q
  case perVertex.perVertex | uniform.uniform | varying.varying => exact hd hq
  all_goals simp [hq, Qualifier.keyword] at hfirst

/-- Behind its first line a definition is indented, up to the brace that closes it. -/
theorem PreludeItem.mem_tail_lines (i : PreludeItem) {line : String} (hline : line ∈ i.lines.tail) :
    (∃ rest, line = "    " ++ rest) ∨ line = "\x7d" ∨ line = "\x7d;" := by
  have hblock (body : List String) (closing : String)
      (hclosing : closing = "\x7d" ∨ closing = "\x7d;")
      (hmem : line ∈ body.map ("    " ++ ·) ++ [closing]) : (∃ rest, line = "    " ++ rest) ∨
      line = "\x7d" ∨ line = "\x7d;" := by
    rcases List.mem_append.mp hmem with hbody | hlast
    · obtain ⟨rest, _, rfl⟩ := List.mem_map.mp hbody
      exact .inl ⟨rest, rfl⟩
    · rw [List.mem_singleton.mp hlast]
      exact .inr hclosing
  cases i with
  | texUnitConverter => exact absurd hline List.not_mem_nil
  | materialStruct | incidentLightStruct | reflectedLightStruct | geometryStruct =>
    exact hblock _ _ (.inr rfl) hline
  | _ => exact hblock _ _ (.inl rfl) hline

theorem PreludeItem.isDeclarationLine_lines (i : PreludeItem) :
    ∀ line ∈ i.lines, isDeclarationLine line = false := by
  intro line hline
  obtain ⟨first, rest, hlines⟩ : ∃ first rest, i.lines = first :: rest := by
    cases i <;> exact ⟨_, _, rfl⟩
  rw [hlines] at hline
  rcases List.mem_cons.mp hline with rfl | hrest
  · refine isDeclarationLine_of_isPrefix (isPrefix_head_splitLines ?_) i.isDeclarationLine_source
    rw [i.splitLines_source, hlines]
    rfl
  · rcases i.mem_tail_lines (by rwa [hlines]) with ⟨text, rfl⟩ | rfl | rfl
    · exact isDeclarationLine_ofList_append [' ', ' ', ' ', ' '] text (by decide)
    · exact isDeclarationLine_ofList (by decide)
    · exact isDeclarationLine_ofList (by decide)

/-! ### The uniforms of a program -/

section Stage

variable {q : Bool} {records : List Record} {s : Stage} {name : String}

/-- Behind its declarations nothing stands in a stage like a declaration. -/
theorem Stage.isDeclarationLine_tailLines (hrespects : records.all (Record.respects q) = true)
    (hs : Stage.ofRecords records = .ok s) {line : String} (hline : line ∈ s.tailLines) :
    isDeclarationLine line = false := by
  have hgained := (built_of_ofRecords hrespects hs).gained
  rw [Stage.tailLines] at hline
  simp only [List.mem_append, List.mem_cons, List.not_mem_nil, or_false] at hline
  rcases hline with (hdefinition | rfl | hstatement) | rfl
  · obtain ⟨d, hd, hmem⟩ := List.mem_flatMap.mp hdefinition
    obtain ⟨i, _, rfl⟩ := hgained.definition_mem hd
    rw [i.splitLines_source] at hmem
    exact i.isDeclarationLine_lines line hmem
  · exact isDeclarationLine_ofList (by decide)
  · have hblank := (hgained.separable hrespects).statements line hstatement
    rw [isDeclarationLine, List.any_eq_false]
    intro q _ hkeyword
    obtain ⟨rest, hrest⟩ := List.isPrefixOf_iff_prefix.mp hkeyword
    rw [← hrest] at hblank
    cases q <;> simp [Qualifier.keyword] at hblank
  · exact isDeclarationLine_ofList (by decide)

/-- Only declarations stand in a stage like declarations. -/
theorem Stage.exists_declaration_of_line (hrespects : records.all (Record.respects q) = true)
    (hs : Stage.ofRecords records = .ok s) {line : String} (hline : line ∈ s.lines)
    (hdeclaration : isDeclarationLine line = true) : ∃ d ∈ s.declarations, d.line = line := by
  have hseparable := (built_of_ofRecords hrespects hs).gained.separable hrespects
  have hother (h : isDeclarationLine line = false) : ∃ d ∈ s.declarations, d.line = line :=
    absurd (h.symm.trans hdeclaration) Bool.false_ne_true
  rw [Stage.lines_eq, List.mem_append, List.mem_append] at hline
  rcases hline with hdirective | hown | htail
  · exact hother (hseparable.directives line hdirective)
  · exact List.mem_map.mp hown
  · exact hother (Stage.isDeclarationLine_tailLines hrespects hs htail)

/-- The names that are read back are those that were declared. -/
theorem Stage.declaredNames_lines (hrespects : records.all (Record.respects q) = true)
    (hs : Stage.ofRecords records = .ok s) (qualifier : Qualifier) :
    declaredNames qualifier s.lines = s.declared qualifier := by
  have hbuilt := built_of_ofRecords hrespects hs
  have hfront : s.directives.filterMap (declaredName? qualifier) = [] :=
    List.filterMap_eq_nil_iff.mpr fun line hline ↦
      declaredName?_of_isDeclarationLine (hbuilt.separable.directives line hline)
  have hback : s.tailLines.filterMap (declaredName? qualifier) = [] :=
    List.filterMap_eq_nil_iff.mpr fun line hline ↦
      declaredName?_of_isDeclarationLine (Stage.isDeclarationLine_tailLines hrespects hs hline)
  rw [declaredNames, Stage.lines_eq, List.filterMap_append, List.filterMap_append, hfront, hback,
    List.nil_append, List.append_nil, List.filterMap_map, Stage.declared, ← List.filterMap_eq_map,
    List.filterMap_filter]
  refine List.filterMap_congr fun d hd ↦ ?_
  obtain ⟨n, _, own, type, _, rfl⟩ := (mem_declarations_iff hrespects hbuilt d).mp hd
  by_cases hsame : own = qualifier
  · subst hsame
    simp [declaredName?_line]
  · rw [Function.comp_apply, declaredName?_line_of_ne hsame]
    simp [hsame]

/-- The uniforms that are read back from a stage are those that it declares. -/
theorem Stage.declaresUniform_of_mem (hrespects : records.all (Record.respects q) = true)
    (hs : Stage.ofRecords records = .ok s) (hname : name ∈ declaredNames .uniform s.lines) :
    s.DeclaresUniform name := by
  rw [Stage.declaredNames_lines hrespects hs] at hname
  obtain ⟨d, hd, hname⟩ := List.mem_map.mp hname
  obtain ⟨hd, huniform⟩ := List.mem_filter.mp hd
  exact ⟨d, hd, of_decide_eq_true huniform, hname⟩

/-- What stands in a stage like the declaration of a uniform declares it. -/
theorem Stage.mem_declarations_of_line (hrespects : records.all (Record.respects q) = true)
    (hs : Stage.ofRecords records = .ok s) {type : GlslType}
    (hline : (⟨.uniform, type.text, name⟩ : Declaration).line ∈ s.lines) :
    ⟨.uniform, type.text, name⟩ ∈ s.declarations := by
  obtain ⟨d, hd, hsame⟩ := Stage.exists_declaration_of_line hrespects hs hline
    (isDeclarationLine_line _)
  have hseparable := (built_of_ofRecords hrespects hs).gained.separable hrespects
  rwa [Declaration.line_inj (hseparable.types d hd) type.blank_notMem_text hsame] at hd

theorem Stage.DeclaresUniform.exists_type (hrespects : records.all (Record.respects q) = true)
    (hs : Stage.ofRecords records = .ok s) (hname : s.DeclaresUniform name) :
    ∃ type : GlslType, ⟨.uniform, type.text, name⟩ ∈ s.declarations := by
  obtain ⟨n, _, type, _, rfl, hd⟩ := hname.exists_global hrespects hs
  exact ⟨type, hd⟩

/-- A stage declares a global with the type of its name. -/
theorem Stage.signature_of_declares (hrespects : records.all (Record.respects q) = true)
    (hs : Stage.ofRecords records = .ok s) {n : Name} {type : GlslType}
    (hd : ⟨.uniform, type.text, n.text⟩ ∈ s.declarations) :
    n.signature q = some (.uniform, type) := by
  obtain ⟨m, _, qualifier, type', hsignature, heq⟩ :=
    (mem_declarations_iff hrespects (built_of_ofRecords hrespects hs) _).mp hd
  obtain ⟨rfl, htype, hname⟩ := Declaration.mk.inj heq
  rw [Name.text_injective hname, GlslType.text_injective htype]
  exact hsignature

end Stage

/-- The records behind the stages of a program. -/
theorem exists_records_of_stages {o : ShaderOptions} {k : ProgramKey} {v f : Stage}
    (hstages : stages o k = .ok (v, f)) :
    ∃ (q : Bool) (vertex fragment : List Record),
      vertex.all (Record.respects q) = true ∧ fragment.all (Record.respects q) = true ∧
        Stage.ofRecords vertex = .ok v ∧ Stage.ofRecords fragment = .ok f := by
  cases k with
  | draw c =>
    obtain ⟨filter, hfilter, hv, hf⟩ := drawStages_eq hstages
    exact ⟨c.quantized, _, _, respects_vertexRecords c o,
      respects_filteredFragmentRecords c.quantized c o filter
        (respects_shadowFilterRecords hfilter _), hv, hf⟩
  | shadowDepth d =>
    obtain ⟨hv, hf⟩ := depthStages_eq hstages
    exact ⟨d.quantized, _, _, respects_depthVertexRecords d o,
      respects_depthFragmentRecords d.quantized o, hv, hf⟩

/-- The names that are read from the lines of a program are those that its stages declare. -/
theorem declaredNames_of_stages {o : ShaderOptions} {k : ProgramKey} {v f : Stage}
    (hstages : stages o k = .ok (v, f)) (qualifier : Qualifier) :
    declaredNames qualifier v.lines = v.declared qualifier ∧
      declaredNames qualifier f.lines = f.declared qualifier := by
  obtain ⟨q, vertex, fragment, hvertex, hfragment, hv, hf⟩ := exists_records_of_stages hstages
  exact ⟨Stage.declaredNames_lines hvertex hv qualifier,
    Stage.declaredNames_lines hfragment hf qualifier⟩

section Program

variable {o : ShaderOptions} {k : ProgramKey}

theorem DeclaresAs.declaresUniform {name : String} {type : GlslType}
    (hdeclares : DeclaresAs o k name type) : DeclaresUniform o k name := by
  obtain ⟨v, f, hstages, hd⟩ := hdeclares
  exact ⟨v, f, hstages, hd.imp (fun hd ↦ ⟨_, hd, rfl, rfl⟩) fun hd ↦ ⟨_, hd, rfl, rfl⟩⟩

/-- A uniform has the same type in every program. -/
theorem DeclaresAs.signature {n : Name} {type : GlslType} (hdeclares : DeclaresAs o k n.text type) :
    n.signature false = some (.uniform, type) := by
  obtain ⟨v, f, hstages, hd⟩ := hdeclares
  obtain ⟨q, vertex, fragment, hvertex, hfragment, hv, hf⟩ := exists_records_of_stages hstages
  have hsignature : n.signature q = some (.uniform, type) :=
    hd.elim (Stage.signature_of_declares hvertex hv) (Stage.signature_of_declares hfragment hf)
  cases n with
  | vertexInput a => cases a <;> simp at hsignature
  | _ => exact hsignature

/-- What stands in a source like the declaration of a uniform declares it. -/
theorem declaresAs_of_declares {source : ProgramSource} (hsource : synthesize o k = .ok source)
    {name : String} {type : GlslType} (hname : source.Declares name type) :
    DeclaresAs o k name type := by
  obtain ⟨v, f, hstages, rfl⟩ := exists_stages_of_synthesize hsource
  obtain ⟨q, vertex, fragment, hvertex, hfragment, hv, hf⟩ := exists_records_of_stages hstages
  obtain ⟨kind, hline⟩ := hname
  refine ⟨v, f, hstages, ?_⟩
  cases kind with
  | vertex => exact .inl (Stage.mem_declarations_of_line hvertex hv hline)
  | fragment => exact .inr (Stage.mem_declarations_of_line hfragment hf hline)

/-- Linking asks for no uniform but those that the source declares. -/
theorem exists_declares_of_mem_uniforms {source : ProgramSource}
    (hsource : synthesize o k = .ok source) {name : String} (hname : name ∈ source.uniforms) :
    ∃ type, source.Declares name type := by
  obtain ⟨v, f, hstages, rfl⟩ := exists_stages_of_synthesize hsource
  obtain ⟨q, vertex, fragment, hvertex, hfragment, hv, hf⟩ := exists_records_of_stages hstages
  have hlines {s : Stage} {d : Declaration} (hd : d ∈ s.declarations) : d.line ∈ s.lines := by
    rw [Stage.lines]
    simp only [List.append_assoc, List.mem_append, List.mem_map]
    exact .inr (.inl ⟨d, hd, rfl⟩)
  rcases List.mem_append.mp hname with hname | hname
  · obtain ⟨type, hd⟩ := (Stage.declaresUniform_of_mem hvertex hv hname).exists_type hvertex hv
    exact ⟨type, .vertex, hlines hd⟩
  · obtain ⟨type, hd⟩ := (Stage.declaresUniform_of_mem hfragment hf hname).exists_type hfragment hf
    exact ⟨type, .fragment, hlines hd⟩

/-- What linking asks for are the uniforms that the stages declare. -/
theorem uniforms_ofLines {v f : Stage} (hstages : stages o k = .ok (v, f)) :
    (ProgramSource.ofLines v.lines f.lines).uniforms = v.declared .uniform ++
    f.declared .uniform := by
  obtain ⟨hv, hf⟩ := declaredNames_of_stages hstages .uniform
  rw [ProgramSource.uniforms, ← hv, ← hf]
  rfl

end Program

end SceneRenderer.Shader
