import SceneRenderer.Proofs.Shader.ForeignWords
import SceneRenderer.Proofs.Shader.Interface
import SceneRenderer.Shader.Source

/-!
The uniforms that a program declares. They are globals of its records, and each of them is read back
from the text of the program, so that linking the program asks for its place.
-/

set_option autoImplicit false
set_option relaxedAutoImplicit false

namespace SceneRenderer.Shader

open Name

/-! ### Declarations as words -/

theorem breakBlanks_eq_splitOnP (text : List Char) :
    Text.breakBlanks text = text.splitOnP Text.isBlank := by
  induction text with
  | nil => rfl
  | cons c rest ih =>
    obtain ⟨first, others, hrest⟩ :=
      List.exists_cons_of_ne_nil (List.splitOnP_ne_nil Text.isBlank rest)
    rw [Text.breakBlanks, ih, List.splitOnP_cons_eq_if_modifyHead, hrest]
    rfl

/-- A word is what stands before a blank. -/
theorem words_append_cons {word : List Char} (hsome : word ≠ [])
    (hword : ∀ c ∈ word, Text.isBlank c = false) {c : Char} (hc : Text.isBlank c = true)
    (rest : List Char) : Text.words (word ++ c :: rest) = word :: Text.words rest := by
  unfold Text.words
  rw [breakBlanks_eq_splitOnP, breakBlanks_eq_splitOnP, List.splitOnP_append_cons _ _ hc,
    List.splitOnP_eq_singleton hword]
  simp [hsome]

theorem words_of_forall {word : List Char} (hsome : word ≠ [])
    (hword : ∀ c ∈ word, Text.isBlank c = false) : Text.words word = [word] := by
  unfold Text.words
  rw [breakBlanks_eq_splitOnP, List.splitOnP_eq_singleton hword]
  simp [hsome]

theorem isBlank_of_isIdentifierChar {c : Char} (hc : isIdentifierChar c = true) :
    Text.isBlank c = false := by
  have hascii : ∀ n < 128, isIdentifierChar (Char.ofNat n) = true →
      Text.isBlank (Char.ofNat n) = false := by decide +kernel
  have hsmall : c.toNat < 128 := by
    unfold isIdentifierChar Char.isAlphanum Char.isAlpha Char.isUpper Char.isLower
      Char.isDigit at hc
    simp only [Bool.or_eq_true, Bool.and_eq_true, decide_eq_true_eq, beq_iff_eq] at hc
    rcases hc with ((⟨_, h⟩ | ⟨_, h⟩) | ⟨_, h⟩) | rfl
    · exact lt_of_le_of_lt (UInt32.le_iff_toNat_le.mp h) (by decide)
    · exact lt_of_le_of_lt (UInt32.le_iff_toNat_le.mp h) (by decide)
    · exact lt_of_le_of_lt (UInt32.le_iff_toNat_le.mp h) (by decide)
    · decide
  have hcase := hascii c.toNat hsmall
  rw [Char.ofNat_toNat] at hcase
  exact hcase hc

theorem dropSemicolons_append {word : List Char} (hword : IsIdentifier word) :
    dropSemicolons (word ++ [';']) = word := by
  have hstop : (word.reverse).dropWhile (· == ';') = word.reverse := by
    obtain ⟨front, last, rfl⟩ := (List.eq_nil_or_concat word).resolve_left hword.1
    have hlast : isIdentifierChar last = true := hword.2 last (by simp)
    have hne : last ≠ ';' := by
      rintro rfl
      exact absurd hlast (by decide)
    simp [hne]
  simp [dropSemicolons, hstop]

theorem GlslType.isIdentifier_text (t : GlslType) : IsIdentifier t.text.toList := by
  cases t <;> exact isIdentifier_ofList (by decide)

/-- The name of a declaration is the second word after its qualifier. -/
theorem declaredName?_line (qualifier : Qualifier) (type : GlslType) (n : Name) :
    declaredName? qualifier (Declaration.line ⟨qualifier, type.text, n.text⟩) = some n.text := by
  have hname := n.isIdentifier_text
  have htype := type.isIdentifier_text
  have hline : (Declaration.line ⟨qualifier, type.text, n.text⟩).toList =
      (qualifier.keyword ++ " ").toList ++
      (type.text.toList ++ ' ' :: (n.text.toList ++ [';'])) := by
    simp [Declaration.line]
  have hsemicolon : ∀ c ∈ n.text.toList ++ [';'], Text.isBlank c = false := by
    intro c hc
    rcases List.mem_append.mp hc with hc | hc
    · exact isBlank_of_isIdentifierChar (hname.2 c hc)
    · rw [List.mem_singleton.mp hc]
      decide
  have hwords : Text.words (type.text.toList ++ ' ' :: (n.text.toList ++ [';'])) =
      [type.text.toList, n.text.toList ++ [';']] := by
    rw [words_append_cons htype.1 (fun c hc ↦ isBlank_of_isIdentifierChar (htype.2 c hc))
      (by decide), words_of_forall (by simp) hsemicolon]
  unfold declaredName?
  simp only [hline, List.drop_left, hwords,
    List.isPrefixOf_iff_prefix.mpr (List.prefix_append _ _), if_true]
  simp [dropSemicolons_append hname]

/-! ### Uniforms of stages -/

/-- A stage declares a uniform. -/
def Stage.DeclaresUniform (s : Stage) (name : String) : Prop :=
  ∃ d ∈ s.declarations, d.qualifier = .uniform ∧ d.name = name

/-- One of the stages of a program declares a uniform. -/
def DeclaresUniform (o : ShaderOptions) (k : ProgramKey) (name : String) : Prop :=
  ∃ v f, stages o k = .ok (v, f) ∧ (v.DeclaresUniform name ∨ f.DeclaresUniform name)

section Stage

variable {q : Bool} {records : List Record} {s : Stage} {name : String}

/-- The uniforms of a stage are globals of its records. -/
theorem Stage.DeclaresUniform.exists_global (hrespects : records.all (Record.respects q) = true)
    (hs : Stage.ofRecords records = .ok s) (hname : s.DeclaresUniform name) :
    ∃ n ∈ globals records, ∃ type, n.signature q = some (.uniform, type) ∧ n.text = name ∧
      ⟨.uniform, type.text, n.text⟩ ∈ s.declarations := by
  obtain ⟨d, hd, hqualifier, rfl⟩ := hname
  obtain ⟨n, hn, qualifier, type, hsignature, rfl⟩ :=
    (mem_declarations_iff hrespects (built_of_ofRecords hrespects hs) d).mp hd
  obtain rfl : qualifier = .uniform := hqualifier
  exact ⟨n, hn, type, hsignature, rfl, hd⟩

/-- The uniforms of a stage are read back from its lines. -/
theorem Stage.DeclaresUniform.mem_declaredNames
    (hrespects : records.all (Record.respects q) = true) (hs : Stage.ofRecords records = .ok s)
    (hname : s.DeclaresUniform name) : name ∈ declaredNames .uniform s.lines := by
  obtain ⟨n, _, type, _, rfl, hd⟩ := hname.exists_global hrespects hs
  refine List.mem_filterMap.mpr ⟨_, ?_, declaredName?_line .uniform type n⟩
  rw [Stage.lines_eq]
  exact List.mem_append_right _ (List.mem_append_left _ (List.mem_map_of_mem hd))

end Stage

/-! ### Uniforms of programs -/

section Program

variable {o : ShaderOptions} {k : ProgramKey} {name : String}

/-- The uniforms of a draw program are globals of one of its stages. -/
theorem DeclaresUniform.draw {c : Features} (hname : DeclaresUniform o (.draw c) name) :
    ∃ filter n type, globals filter = [] ∧ n.text = name ∧
      n.signature c.quantized = some (.uniform, type) ∧
      (n ∈ globals (vertexRecords c o) ∨ n ∈ globals (filteredFragmentRecords c o filter)) := by
  obtain ⟨v, f, hstages, hdeclares⟩ := hname
  obtain ⟨filter, hfilter, hv, hf⟩ := drawStages_eq hstages
  have hglobals := globals_shadowFilterRecords hfilter
  rcases hdeclares with hvertex | hfragment
  · obtain ⟨n, hn, type, hsignature, rfl, _⟩ :=
      hvertex.exists_global (respects_vertexRecords c o) hv
    exact ⟨filter, n, type, hglobals, rfl, hsignature, .inl hn⟩
  · obtain ⟨n, hn, type, hsignature, rfl, _⟩ :=
      hfragment.exists_global (respects_filteredFragmentRecords c.quantized c o filter
        (respects_shadowFilterRecords hfilter _)) hf
    exact ⟨filter, n, type, hglobals, rfl, hsignature, .inr hn⟩

/-- A draw program declares the uniforms of its vertex stage. -/
theorem declaresUniform_of_mem_vertexRecords {c : Features} {v f : Stage}
    (hstages : stages o (.draw c) = .ok (v, f)) {n : Name} (hn : n ∈ globals (vertexRecords c o))
    {type : GlslType} (huniform : n.signature c.quantized = some (.uniform, type)) :
    DeclaresUniform o (.draw c) n.text := by
  obtain ⟨_, _, hv, _⟩ := drawStages_eq hstages
  have hd := (mem_declarations_iff (respects_vertexRecords c o)
    (built_of_ofRecords (respects_vertexRecords c o) hv) _).mpr ⟨n, hn, _, type, huniform, rfl⟩
  exact ⟨v, f, hstages, .inl ⟨_, hd, rfl, rfl⟩⟩

/-- A depth program declares the uniforms of its vertex stage. -/
theorem declaresUniform_of_mem_depthVertexRecords {d : DepthFeatures} {v f : Stage}
    (hstages : stages o (.shadowDepth d) = .ok (v, f)) {n : Name}
    (hn : n ∈ globals (depthVertexRecords d o)) {type : GlslType}
    (huniform : n.signature d.quantized = some (.uniform, type)) :
    DeclaresUniform o (.shadowDepth d) n.text := by
  obtain ⟨hv, _⟩ := depthStages_eq hstages
  have hd := (mem_declarations_iff (respects_depthVertexRecords d o)
    (built_of_ofRecords (respects_depthVertexRecords d o) hv) _).mpr ⟨n, hn, _, type, huniform, rfl⟩
  exact ⟨v, f, hstages, .inl ⟨_, hd, rfl, rfl⟩⟩

/-- The uniforms of a depth program are globals of its vertex stage. -/
theorem DeclaresUniform.depth {d : DepthFeatures}
    (hname : DeclaresUniform o (.shadowDepth d) name) :
    ∃ n type, n.text = name ∧ n.signature d.quantized = some (.uniform, type) ∧
      n ∈ globals (depthVertexRecords d o) := by
  obtain ⟨v, f, hstages, hdeclares⟩ := hname
  obtain ⟨hv, hf⟩ := depthStages_eq hstages
  rcases hdeclares with hvertex | hfragment
  · obtain ⟨n, hn, type, hsignature, rfl, _⟩ :=
      hvertex.exists_global (respects_depthVertexRecords d o) hv
    exact ⟨n, type, rfl, hsignature, hn⟩
  · obtain ⟨n, hn, _⟩ :=
      hfragment.exists_global (respects_depthFragmentRecords d.quantized o) hf
    exact absurd hn (by simp [depthFragmentRecords, precisionRecord])

/-- A source has the lines of its stages. -/
theorem exists_stages_of_synthesize {source : ProgramSource}
    (hsource : synthesize o k = .ok source) :
    ∃ v f, stages o k = .ok (v, f) ∧ source = .ofLines v.lines f.lines := by
  rcases hstages : stages o k with fault | ⟨v, f⟩
  · rw [synthesize, hstages] at hsource
    cases hsource
  · rw [synthesize, hstages] at hsource
    exact ⟨v, f, rfl, (Except.ok.inj hsource).symm⟩

/-- Linking a program asks for the place of every uniform that it declares. -/
theorem DeclaresUniform.mem_uniforms {source : ProgramSource} (hname : DeclaresUniform o k name)
    (hsource : synthesize o k = .ok source) : name ∈ source.uniforms := by
  obtain ⟨v, f, hstages, rfl⟩ := exists_stages_of_synthesize hsource
  obtain ⟨v', f', hstages', hdeclares⟩ := hname
  obtain ⟨rfl, rfl⟩ := Prod.mk.inj (Except.ok.inj (hstages.symm.trans hstages'))
  suffices hlines : name ∈ declaredNames .uniform v.lines ∨ name ∈ declaredNames .uniform f.lines
    from List.mem_append.mpr hlines
  cases k with
  | draw c =>
    obtain ⟨filter, hfilter, hv, hf⟩ := drawStages_eq hstages
    exact hdeclares.imp (·.mem_declaredNames (respects_vertexRecords c o) hv)
      (·.mem_declaredNames (respects_filteredFragmentRecords c.quantized c o filter
        (respects_shadowFilterRecords hfilter _)) hf)
  | shadowDepth d =>
    obtain ⟨hv, hf⟩ := depthStages_eq hstages
    exact hdeclares.imp (·.mem_declaredNames (respects_depthVertexRecords d o) hv)
      (·.mem_declaredNames (respects_depthFragmentRecords d.quantized o) hf)

end Program

end SceneRenderer.Shader
