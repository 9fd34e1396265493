import SceneRenderer.Proofs.Shader.SectionScope

/-!
The main function of a stage under the check of scopes. Its block holds the locals that the records
have declared so far, and the blocks inside it hold nothing (`InMain`). The main statement is
`wellScoped_of_run`: a stage is well scoped if a run of its records finds what they use.
-/

set_option autoImplicit false
set_option relaxedAutoImplicit false

namespace SceneRenderer.Shader

/-! ### Lines that end with a mark -/

theorem runLine_mark {line line' : String} {m : Char} (hcode : directive? line.toList = none)
    (hcode' : directive? line'.toList = none)
    (htokens : tokens line'.toList = tokens line.toList ++ [.mark m]) (r : Reader (List Char)) :
    r.runLine line' =
      ((r.runLine line).1 ++ ((r.runLine line).2.step glslLexicon (.mark m)).1.toList,
        ((r.runLine line).2.step glslLexicon (.mark m)).2) := by
  rw [Reader.runLine, Reader.runLine, hcode, hcode']
  simp only [htokens, Reader.run_append]
  simp only [Reader.run, List.append_nil]

/-- A line ends with a brace behind another line. -/
theorem Passes.mark {c c' : Checker} {line line' : String} (h : Passes c [line] c') {m : Char}
    {e : Event (List Char)} {r : Reader (List Char)}
    (hstep : c'.reader.step glslLexicon (.mark m) = (some e, r)) (he : c'.scopes.Allows e)
    (hcode : directive? line.toList = none) (hcode' : directive? line'.toList = none)
    (htokens : tokens line'.toList = tokens line.toList ++ [.mark m]) :
    Passes c [line'] ⟨r, c'.scopes.after e⟩ := by
  obtain ⟨hallows, hreader, hscopes⟩ := h
  simp only [Reader.runLines, List.append_nil] at hallows hreader hscopes
  have hrun : c.reader.runLines [line'] = ((c.reader.runLine line).1 ++ [e], r) := by
    rw [Reader.runLines, runLine_mark hcode hcode' htokens, hreader, hstep]
    simp [Reader.runLines]
  refine ⟨?_, ?_, ?_⟩
  · rw [hrun, Scopes.allowsAll_append, hscopes]
    exact ⟨hallows, he, trivial⟩
  · rw [hrun]
  · rw [hrun, Scopes.afterAll_append, hscopes]
    rfl

/-! ### Inside the main function -/

/-- The check stands between two lines of the main function, where the records so far have made some
symbols visible; all records make `K` visible. -/
structure InMain (c : Checker) (k K : Known) : Prop where
  ready : Ready c.reader
  known : K.structs ⊆ c.reader.structs
  file : ∀ w ∈ K.file, w.text ∈ c.scopes.file
  blocks : c.scopes.blocks = List.replicate k.depth [] ++ [(k.main.map Symbol.text).reverse]
  pending : c.scopes.pending = []

namespace InMain

variable {c : Checker} {k k' K : Known}

theorem congr (h : InMain c k K) (hmain : k'.main = k.main) (hdepth : k'.depth = k.depth) :
    InMain c k' K :=
  ⟨h.ready, h.known, h.file, by rw [hmain, hdepth, h.blocks], h.pending⟩

theorem sees (h : InMain c k K) (hle : k.Le K) {w : Symbol} (hw : w ∈ k.main ∨ w ∈ k.file) :
    c.scopes.Sees w.text := by
  rcases hw with hmain | hfile
  · refine .inr (.inr ⟨(k.main.map Symbol.text).reverse, ?_, ?_⟩)
    · rw [h.blocks]
      exact List.mem_append_right _ List.mem_cons_self
    · exact List.mem_reverse.mpr (List.mem_map_of_mem hmain)
  · exact .inr (.inl (h.file w (hle.file hfile)))

/-- A line of code, whatever its indentation. -/
theorem line (h : InMain c k K) {line : List Chunk} {v : Survey} (hv : surveyLine? line = some v)
    (hle : k.Le K) (hstructs : v.structs ⊆ k.structs)
    (hreads : ∀ w ∈ v.reads, w ∈ k.main ∨ w ∈ k.file) (hflat : k.depth = 0 ∨ v.declares = [])
    (hnodup : ((k.main ++ v.declares).map Symbol.text).Nodup) {text : String}
    (htext : ∃ spaces : List Char, (∀ c ∈ spaces, c = ' ') ∧
      text.toList = spaces ++ lineChars line) :
    ∃ c', Passes c [text] c' ∧ InMain c' { k with main := k.main ++ v.declares } K := by
  obtain ⟨ts, hts, hsurvey, hstarts⟩ := surveyLine?_eq hv
  obtain ⟨spaces, hspaces, htext⟩ := htext
  have hcode : directive? text.toList = none := by
    simpa [htext] using directive?_of_startsCode hstarts hspaces []
  have htokens : ([text].flatMap fun line ↦ tokens line.toList) =
      ts.map (Token.map Symbol.text) := by
    rw [List.flatMap_singleton, htext, tokens_spaces hspaces, hts]
  -- Only the block of the main function takes declarations.
  have hdeclares : c.scopes.AllowsAll ((v.declares.map Symbol.text).map .declares) ∧
      c.scopes.afterAll ((v.declares.map Symbol.text).map .declares) =
        ⟨c.scopes.file,
          List.replicate k.depth [] ++ [((k.main ++ v.declares).map Symbol.text).reverse], []⟩ := by
    have hscopes : c.scopes = ⟨c.scopes.file, c.scopes.blocks, c.scopes.pending⟩ := rfl
    rw [h.blocks, h.pending] at hscopes
    rcases hflat with hdepth | hnone
    · have hblock : ((v.declares.map Symbol.text).reverse ++
          (k.main.map Symbol.text).reverse).Nodup := by
        rw [← List.reverse_append, ← List.map_append]
        exact List.nodup_reverse.mpr hnodup
      obtain ⟨hallows, hafter⟩ := Scopes.allowsAll_declares_block c.scopes.file [] [] hblock
      rw [hdepth, List.replicate_zero, List.nil_append] at hscopes ⊢
      rw [hscopes]
      refine ⟨hallows, hafter.trans ?_⟩
      rw [List.map_append, List.reverse_append]
    · rw [hnone, List.append_nil]
      exact ⟨trivial, hscopes⟩
  obtain ⟨r, hr, hkept, hpasses⟩ := passes_of_survey h.ready
    (by rwa [List.forall_mem_singleton]) htokens hsurvey
    (List.Subset.trans hstructs (List.Subset.trans hle.structs h.known)) h.pending
    (fun w hw ↦ h.sees hle (hreads w hw)) hdeclares.1
  rw [hdeclares.2] at hpasses
  exact ⟨_, hpasses, hr, hkept ▸ h.known, h.file, rfl, rfl⟩

theorem quiet_mark {r : Reader (List Char)} (hr : Ready r) {m : Char}
    (hm : m = '\x7b' ∨ m = '\x7d') :
    ∃ r', r.step glslLexicon (.mark m) = (some (if m = '\x7b' then .opens else .closes), r') ∧
      Ready r' ∧ r'.structs = r.structs := by
  obtain ⟨structs, parens, list, previous⟩ := r
  obtain ⟨⟨hparens, hlist, -⟩, hstructs⟩ := hr
  dsimp only at hparens hlist hstructs
  subst hparens hlist
  rcases hm with rfl | rfl
  · exact ⟨_, rfl, ⟨⟨rfl, rfl, rfl⟩, hstructs⟩, rfl⟩
  · exact ⟨_, rfl, ⟨⟨rfl, rfl, rfl⟩, hstructs⟩, rfl⟩

/-- The header of a block, which declares nothing. -/
theorem openBlock (h : InMain c k K) {header : Line} {v : Survey}
    (hv : surveyLine? (header.map Piece.chunk) = some v) (hle : k.Le K)
    (hstructs : v.structs ⊆ k.structs) (hreads : ∀ w ∈ v.reads, w ∈ k.main ∨ w ∈ k.file)
    (hnone : v.declares = []) (hnodup : (k.main.map Symbol.text).Nodup) (depth : Nat) :
    ∃ c', Passes c [indent depth (header.text ++ " \x7b")] c' ∧
      InMain c' { k with depth := k.depth + 1 } K := by
  have hsame : k.main ++ v.declares = k.main := by rw [hnone, List.append_nil]
  have htext : ∃ spaces : List Char, (∀ c ∈ spaces, c = ' ') ∧
      header.text.toList = spaces ++ lineChars (header.map Piece.chunk) :=
    ⟨[], List.forall_mem_nil _, (lineChars_chunk header).symm⟩
  obtain ⟨c', hpasses, hc'⟩ := h.line hv hle hstructs hreads (.inr hnone) (by rwa [hsame]) htext
  obtain ⟨_, hts, _, hstarts⟩ := surveyLine?_eq hv
  obtain ⟨r, hr, hready, hkept⟩ := quiet_mark hc'.ready (.inl rfl)
  rw [hsame] at hc'
  refine ⟨_, hpasses.mark hr trivial ?_ ?_ ?_, hready, hkept ▸ hc'.known, hc'.file, ?_, rfl⟩
  · simpa [lineChars_chunk] using directive?_of_startsCode hstarts (List.forall_mem_nil _) []
  · have := directive?_of_startsCode hstarts (spaces_indent depth) " \x7b".toList
    simpa [indent, lineChars_chunk] using this
  · rw [tokens_indent, tokens_append_brace]
  · change c'.scopes.pending :: c'.scopes.blocks = _
    rw [hc'.pending, hc'.blocks]
    rfl

/-- The end of a block. -/
theorem closeBlock (h : InMain c k K) {d : Nat} (hd : k.depth = d + 1) (depth : Nat) :
    ∃ c', Passes c [indent (max (depth - 1) 1) "\x7d"] c' ∧ InMain c' { k with depth := d } K := by
  have hempty : Passes c [""] c := ⟨trivial, rfl, rfl⟩
  obtain ⟨r, hr, hready, hkept⟩ := quiet_mark h.ready (.inr rfl)
  refine ⟨_, hempty.mark hr trivial rfl ?_ ?_, hready, hkept ▸ h.known, h.file, ?_, h.pending⟩
  · have hstarts : startsCode [.text ['\x7d']] = true := rfl
    simpa [indent, lineChars, Chunk.chars] using
      directive?_of_startsCode hstarts (spaces_indent (max (depth - 1) 1)) []
  · rw [tokens_indent]
    rfl
  · change c.scopes.blocks.tail = _
    rw [h.blocks, hd]
    rfl

/-- A record of the main function that finds what it uses. -/
theorem step (h : InMain c k K) {r : Record} (hstep : k.step r.request = some k') (hle : k'.Le K)
    (hnodup : (k'.main.map Symbol.text).Nodup) (depth : Nat) :
    ∃ c', Passes c (r.toCall.statementLines depth) c' ∧ InMain c' k' K := by
  obtain ⟨e, he, hallows, rfl⟩ := Known.step_eq.mp hstep
  have hle' : k.Le K := (Known.le_after k e).trans hle
  cases r with
  | statement line =>
    obtain ⟨v, hv, rfl⟩ := Option.map_eq_some_iff.mp he
    have htext : (indent depth line.text).toList =
        (String.join (List.replicate depth "    ")).toList ++ lineChars (line.map Piece.chunk) := by
      rw [indent, String.toList_append, lineChars_chunk]
    obtain ⟨c', hpasses, hc'⟩ := h.line hv hle' hallows.structs hallows.reads hallows.flat hnodup
      ⟨_, spaces_indent depth, htext⟩
    exact ⟨c', hpasses, hc'.congr rfl rfl⟩
  | openBlock header =>
    obtain ⟨v, hv, he⟩ := Option.bind_eq_some_iff.mp he
    obtain ⟨hnone, he⟩ := Option.ite_none_right_eq_some.mp he
    obtain rfl := Option.some.inj he
    have hmain : (k.after { structs := v.structs, reads := v.reads, opens := 1 }).main = k.main :=
      List.append_nil _
    obtain ⟨c', hpasses, hc'⟩ := h.openBlock hv hle' hallows.structs hallows.reads hnone
      (by rwa [← hmain]) depth
    exact ⟨c', hpasses, hc'.congr hmain rfl⟩
  | closeBlock =>
    obtain rfl := Option.some.inj he
    obtain ⟨d, hd⟩ : ∃ d, k.depth = d + 1 :=
      Nat.exists_eq_succ_of_ne_zero (Nat.ne_zero_of_lt hallows.closes)
    have hdepth : (k.after { closes := 1 }).depth = d := by rw [Known.after, hd]; rfl
    obtain ⟨c', hpasses, hc'⟩ := h.closeBlock hd depth
    exact ⟨c', hpasses, hc'.congr (List.append_nil _) hdepth⟩
  | directive line =>
    obtain ⟨_, _, rfl⟩ := Option.map_eq_some_iff.mp he
    exact ⟨c, .nil c, h.congr (List.append_nil _) rfl⟩
  | declare q type n =>
    obtain rfl := Option.some.inj he
    exact ⟨c, .nil c, h.congr (List.append_nil _) rfl⟩
  | define item =>
    obtain rfl := Option.some.inj he
    exact ⟨c, .nil c, h.congr (List.append_nil _) rfl⟩

/-- The main function finds what it uses. -/
theorem run (h : InMain c k K) {records : List Record}
    (hrun : k.run (records.map Record.request) = some k') (hle : k'.Le K)
    (hnodup : (k'.main.map Symbol.text).Nodup) (depth : Nat) :
    ∃ c', Passes c (statementLines depth (records.map Record.toCall)) c' ∧ InMain c' k' K := by
  induction records generalizing c k depth with
  | nil =>
    obtain rfl := Option.some.inj hrun
    exact ⟨c, .nil c, h⟩
  | cons r rest ih =>
    obtain ⟨next, hnext, hrest⟩ := Known.run_cons.mp hrun
    have hmore : next.Le k' := Known.run_le hrest
    have hkept : (next.main.map Symbol.text).Nodup := by
      obtain ⟨_, hK, hahead⟩ := Known.run_mono (Known.Le.refl next) rfl hrest
      obtain ⟨words, hwords, _⟩ := hahead.locals
      rw [hwords, List.map_append] at hnodup
      exact (List.nodup_append.mp hnodup).1
    obtain ⟨c₁, hfirst, h₁⟩ := h.step hnext (hmore.trans hle) hkept depth
    obtain ⟨c₂, hothers, h₂⟩ := ih h₁ hrest (r.toCall.depthAfter depth)
    exact ⟨c₂, hfirst.append hothers, h₂⟩

end InMain

/-! ### A stage -/

theorem leads_mainHeader :
    leads [] (["void main(void) \x7b"].map String.toList) ⟨[], [], []⟩
      ⟨["main".toList], [[]], []⟩ = true := by
  simp only [List.map_cons, List.map_nil]
  repeat rw [String.toList_ofList]
  decide

section Stage

variable {c : Checker} {seen K : Known} {records : List Record} {s : Stage}

/-- The directives of a stage are read for their macros. -/
theorem Built.isSome_directiveMacros (hbuilt : Built records s)
    (hrun : Known.run {} (records.map Record.request) = some K) :
    ∀ line ∈ s.directives, (directiveMacros? line.toList).isSome = true := by
  intro line hline
  obtain ⟨r, hr, hcall⟩ := List.mem_map.mp
    (((hbuilt.gained.directives line).mp hline).resolve_left List.not_mem_nil)
  cases r with
  | directive text =>
    obtain rfl := Call.directive.inj hcall
    obtain ⟨e, he, _⟩ := Known.newFile_subset hrun (List.mem_map_of_mem hr)
    exact Option.isSome_iff_exists.mpr ⟨_, (Option.map_eq_some_iff.mp he).choose_spec.1⟩
  | _ => exact Call.noConfusion hcall

/-- Directives and declarations come first, and let the check see all that the records make visible
outside of the main function, but for the definitions. -/
theorem Built.exists_globals (hbuilt : Built records s)
    (hrun : Known.run {} (records.map Record.request) = some K) :
    ∃ c globals,
      Passes ⟨.start, .empty⟩ (s.directives ++ s.declarations.map Declaration.line) c ∧
      AtFile c { file := globals } ∧
      ∀ r ∈ records, (∀ i, r ≠ .define i) →
        ∀ e, r.request.effect? = some e → e.newFile ⊆ globals := by
  have hnamed : ∀ d ∈ s.declarations,
      ∃ (q : Qualifier) (type : GlslType) (n : Name), d = ⟨q, type.text, n.text⟩ := by
    intro d hd
    obtain ⟨q, type, n, _, hn⟩ := declare_mem_toCall
      (((hbuilt.gained.declarations d).mp hd).resolve_left List.not_mem_nil)
    exact ⟨q, type, n, hn⟩
  obtain ⟨c₁, macros, hdirectives, h₁, -, hmacros⟩ :=
    AtFile.start.directives (hbuilt.isSome_directiveMacros hrun)
  obtain ⟨c₂, globals, hdeclarations, h₂, hkept, hglobals⟩ := h₁.declarations hnamed
  refine ⟨c₂, globals, hdirectives.append hdeclarations, h₂, fun r hr hother e he ↦ ?_⟩
  have hcall : r.toCall ∈ records.map Record.toCall := List.mem_map_of_mem hr
  cases r with
  | directive line =>
    obtain ⟨words, hwords, rfl⟩ := Option.map_eq_some_iff.mp he
    have hline := (hbuilt.gained.directives line).mpr (.inr hcall)
    exact List.Subset.trans (hmacros line hline words hwords) hkept
  | declare q type n =>
    obtain rfl := Option.some.inj he
    have hd := (hbuilt.gained.declarations _).mpr (.inr hcall)
    exact List.cons_subset.mpr ⟨hglobals _ hd n rfl, List.nil_subset _⟩
  | define i => exact absurd rfl (hother i)
  | statement _ | openBlock _ | closeBlock =>
    rw [(Request.closed_of_isCode rfl he).2]
    exact List.nil_subset _

/-- The main function comes last. Its header opens the one block that takes declarations. -/
theorem AtFile.mainFunction (hc : AtFile c seen) (hstructs : K.structs ⊆ seen.structs)
    (hfile : K.file ⊆ seen.file) (hrun : Known.run {} (records.map Record.request) = some K)
    (hnodup : (K.main.map Symbol.text).Nodup) :
    ∃ c', Passes c ("void main(void) \x7b" :: statementLines 1 (records.map Record.toCall) ++
      ["\x7d"]) c' := by
  have hheaderCode : ∀ line ∈ ["void main(void) \x7b"], directive? line.toList = none := by
    rw [List.forall_mem_singleton, String.toList_ofList]
    rfl
  have hleads : leads [] (["void main(void) \x7b"].map String.toList) { c.scopes with file := [] }
      ⟨["main".toList], [[]], []⟩ = true := by
    rw [hc.scopes_eq]
    exact leads_mainHeader
  obtain ⟨r, file, hr, hsame, hmore, -, hheader⟩ :=
    passes_of_leads hc.ready hheaderCode (List.nil_subset _) (List.nil_subset _) hleads
  have hstart : InMain ⟨r, ⟨file, [[]], []⟩⟩ {} K :=
    ⟨hr, List.Subset.trans hstructs (hsame ▸ hc.known), fun w hw ↦ hmore (hc.file w (hfile hw)),
      rfl, rfl⟩
  obtain ⟨c', hstatements, hend⟩ := hstart.run hrun (Known.Le.refl K) hnodup 1
  have hbrace : Passes c' [""] c' := ⟨trivial, rfl, rfl⟩
  obtain ⟨r', hr', -, -⟩ := InMain.quiet_mark hend.ready (.inr rfl)
  have hbraceCode : directive? "\x7d".toList = none := by
    rw [String.toList_ofList]
    rfl
  have hbraceTokens : tokens "\x7d".toList = tokens "".toList ++ [.mark '\x7d'] := by
    rw [String.toList_ofList]
    rfl
  exact ⟨_, (hheader.append hstatements).append
    (hbrace.mark hr' trivial rfl hbraceCode hbraceTokens)⟩

/-- A stage is well scoped if its records find what they use, and declare no local twice. -/
theorem wellScoped_of_run (hbuilt : Built records s) (hs : Stage.ofRecords records = .ok s)
    (hfinite : ∀ i, .define i ∈ records → i.IsFinite)
    (hrun : Known.run {} (records.map Record.request) = some K)
    (hnodup : (K.main.map Symbol.text).Nodup) : WellScoped s.lines := by
  obtain ⟨c₁, globals, hfirst, h₁, hvisible⟩ := hbuilt.exists_globals hrun
  have hempty : Stage.Defined .empty {} c₁ { file := globals } :=
    ⟨h₁, List.nil_subset _, List.nil_subset _, fun _ hd ↦ absurd hd List.not_mem_nil⟩
  obtain ⟨c₂, seen, lines, h₂, hdefinitions, hlines⟩ := hempty.run hs hrun hfinite hvisible
  obtain ⟨c₃, hmain⟩ := h₂.atFile.mainFunction h₂.structs h₂.file hrun hnodup
  have hsections : s.lines = s.directives ++ s.declarations.map Declaration.line ++ lines ++
      ("void main(void) \x7b" :: statementLines 1 (records.map Record.toCall) ++ ["\x7d"]) := by
    have hstatements : s.statements = statementLines 1 (records.map Record.toCall) :=
      hbuilt.gained.statements
    have hlines : s.definitionLines = lines := hlines
    rw [← hstatements, ← hlines]
    simp [Stage.lines, Stage.definitionLines]
  rw [hsections]
  exact ((hfirst.append hdefinitions).append hmain).wellScoped

end Stage

end SceneRenderer.Shader
