import SceneRenderer.Proofs.Shader.DefinitionLines
import SceneRenderer.Proofs.Shader.Passages

/-!
The lines of a stage outside of its main function, under the check of scopes. A directive leaves its
macros, a declaration its global, and a definition its function or struct. An outline fits the lines
of a definition if they find what it lists, and leave what it names (`AtFile.define`).
-/

set_option autoImplicit false
set_option relaxedAutoImplicit false

namespace SceneRenderer.Shader

/-! ### Lines outside of all blocks -/

/-- The check stands between two lines outside of all blocks, where some symbols are visible. -/
structure AtFile (c : Checker) (k : Known) : Prop where
  ready : Ready c.reader
  known : k.structs ⊆ c.reader.structs
  file : ∀ w ∈ k.file, w.text ∈ c.scopes.file
  blocks : c.scopes.blocks = []
  pending : c.scopes.pending = []

namespace AtFile

variable {c : Checker} {k : Known}

theorem start : AtFile ⟨.start, .empty⟩ {} where
  ready := ⟨⟨rfl, rfl, rfl⟩, List.forall_mem_nil _⟩
  known := List.Subset.refl _
  file := List.forall_mem_nil _
  blocks := rfl
  pending := rfl

/-- Symbols that the scopes have taken are visible. -/
theorem extend (hc : AtFile c k) {r : Reader (List Char)} (hr : Ready r)
    (hstructs : r.structs = c.reader.structs) {words : List (List Char)} {file : List Symbol}
    (hfile : ∀ w ∈ file, w.text ∈ words) :
    AtFile ⟨r, ⟨words ++ c.scopes.file, [], []⟩⟩ { k with file := k.file ++ file } where
  ready := hr
  known := hstructs ▸ hc.known
  file := by
    refine List.forall_mem_append.mpr ⟨fun w hw ↦ ?_, fun w hw ↦ ?_⟩
    · exact List.mem_append_right _ (hc.file w hw)
    · exact List.mem_append_left _ (hfile w hw)
  blocks := rfl
  pending := rfl

theorem scopes_eq (hc : AtFile c k) : c.scopes = ⟨c.scopes.file, [], []⟩ := by
  rw [← hc.blocks, ← hc.pending]

/-- A passage that reads what is visible, outside of all blocks. -/
theorem survey (hc : AtFile c k) {lines : List String}
    (hlines : ∀ line ∈ lines, directive? line.toList = none) {ts : List (Token Symbol)}
    (htokens : (lines.flatMap fun line ↦ tokens line.toList) = ts.map (Token.map Symbol.text))
    {v : Survey} (hv : survey? ts = some v) (hstructs : v.structs ⊆ k.structs)
    (hreads : v.reads ⊆ k.file) :
    ∃ c', Passes c lines c' ∧ AtFile c' { k with file := k.file ++ v.declares } := by
  have hscopes := hc.scopes_eq
  obtain ⟨hallows, hafter⟩ :=
    Scopes.allowsAll_declares_file c.scopes.file [] (v.declares.map Symbol.text)
  rw [← hscopes] at hallows hafter
  obtain ⟨r, hr, hkept, hpasses⟩ := passes_of_survey hc.ready hlines htokens hv
    (List.Subset.trans hstructs hc.known) hc.pending
    (fun w hw ↦ .inr (.inl (hc.file w (hreads hw)))) hallows
  rw [hafter] at hpasses
  exact ⟨_, hpasses, hc.extend hr hkept fun w hw ↦
    List.mem_reverse.mpr (List.mem_map_of_mem hw)⟩

theorem directive (hc : AtFile c k) {line : String} {words : List Symbol}
    (hline : directiveMacros? line.toList = some words) :
    ∃ c', Passes c [line] c' ∧ AtFile c' { k with file := k.file ++ words } := by
  rw [directiveMacros?] at hline
  split at hline
  · rename_i tokens hdirective
    obtain rfl := Option.some.inj hline
    have hrun : c.reader.runLines [line] =
        ((macros tokens).map .defines, { c.reader with previous := none }) := by
      rw [Reader.runLines, Reader.runLine, hdirective]
      exact congrArg₂ Prod.mk (List.append_nil _) rfl
    have hdefines (s : Scopes (List Char)) (names : List (List Char)) :
        s.AllowsAll (names.map .defines) ∧
          s.afterAll (names.map .defines) = { s with file := names.reverse ++ s.file } := by
      induction names generalizing s with
      | nil => exact ⟨trivial, rfl⟩
      | cons name rest ih =>
        obtain ⟨hallows, hafter⟩ := ih { s with file := name :: s.file }
        refine ⟨⟨trivial, hallows⟩, ?_⟩
        rw [List.reverse_cons, List.append_assoc]
        exact hafter
    obtain ⟨hallows, hafter⟩ := hdefines c.scopes (macros tokens)
    have hready : Ready { c.reader with previous := none } :=
      ⟨⟨hc.ready.quiet.parens, hc.ready.quiet.list, rfl⟩, hc.ready.structs⟩
    refine ⟨⟨_, ⟨(macros tokens).reverse ++ c.scopes.file, [], []⟩⟩, ⟨?_, ?_, ?_⟩,
      hc.extend hready rfl ?_⟩
    · rw [hrun]
      exact hallows
    · rw [hrun]
    · rw [hrun, hafter, hc.blocks, hc.pending]
    · exact List.forall_mem_map.mpr fun t ht ↦ List.mem_reverse.mpr ht
  · rename_i hcode
    split at hline
    · rename_i hv
      obtain rfl := Option.some.inj hline
      have hlines : ∀ other ∈ [line], directive? other.toList = none := by
        rwa [List.forall_mem_singleton]
      refine hc.survey hlines ?_ hv (List.nil_subset _) (List.nil_subset _)
      rw [map_text_map_word]
      exact List.append_nil _
    · exact absurd hline (Option.some_ne_none _).symm

/-- A declaration names a global behind its type. -/
theorem surveyLine?_declaration (q : Qualifier) (type : GlslType) (n : Name) :
    surveyLine? [.text (q.keyword ++ " " ++ type.text ++ " ").toList, .name n, .text [';']] =
      some ⟨[], [], [.name n]⟩ := by
  have hname : surveyLine?
      [.text (q.keyword ++ " " ++ type.text ++ " ").toList, .name .modelMatrix, .text [';']] =
        some ⟨[], [], [.name .modelMatrix]⟩ := by
    cases q <;> cases type
    all_goals simp only [Qualifier.keyword, GlslType.text, String.toList_append]
    all_goals repeat rw [String.toList_ofList]
    all_goals decide
  exact surveyLine?_rename (fun _ ↦ n) hname

theorem declaration (hc : AtFile c k) (q : Qualifier) (type : GlslType) (n : Name) :
    ∃ c', Passes c [Declaration.line ⟨q, type.text, n.text⟩] c' ∧
      AtFile c' { k with file := k.file ++ [.name n] } := by
  obtain ⟨ts, hts, hv, hstarts⟩ := surveyLine?_eq (surveyLine?_declaration q type n)
  have hchars : (Declaration.line ⟨q, type.text, n.text⟩).toList =
      lineChars [.text (q.keyword ++ " " ++ type.text ++ " ").toList, .name n, .text [';']] := by
    simp [Declaration.line, lineChars, Chunk.chars]
  refine hc.survey ?_ ?_ hv (List.nil_subset _) (List.nil_subset _)
  · rw [List.forall_mem_singleton, hchars]
    simpa using directive?_of_startsCode hstarts (List.forall_mem_nil (· = ' ')) []
  · rw [List.flatMap_cons, List.flatMap_nil, List.append_nil, hchars, hts]

end AtFile

/-! ### Passages with blocks -/

namespace Scopes

variable {ι : Type}

instance decidableAllows [DecidableEq ι] (s : Scopes ι) : (e : Event ι) → Decidable (s.Allows e)
  | .reads word => inferInstanceAs (Decidable (s.Sees word))
  | .declares word => inferInstanceAs (Decidable (∀ block ∈ s.blocks.head?, word ∉ block))
  | .takes _ | .opens | .closes | .ends | .defines _ => isTrue trivial

instance decidableAllowsAll [DecidableEq ι] (s : Scopes ι) :
    (events : List (Event ι)) → Decidable (s.AllowsAll events)
  | [] => isTrue trivial
  | e :: rest => @instDecidableAnd _ _ _ (decidableAllowsAll (s.after e) rest)

/-- More may be visible in the file. -/
theorem AllowsAll.mono {file file' : List ι} (hfile : file ⊆ file') {blocks : List (List ι)}
    {pending : List ι} {events : List (Event ι)}
    (hallows : (⟨file, blocks, pending⟩ : Scopes ι).AllowsAll events) :
    (⟨file', blocks, pending⟩ : Scopes ι).AllowsAll events ∧
      ∃ file'', (⟨file', blocks, pending⟩ : Scopes ι).afterAll events =
          { (⟨file, blocks, pending⟩ : Scopes ι).afterAll events with file := file'' } ∧
        ((⟨file, blocks, pending⟩ : Scopes ι).afterAll events).file ⊆ file'' ∧ file' ⊆ file'' := by
  induction events generalizing file file' blocks pending with
  | nil => exact ⟨trivial, file', rfl, hfile, List.Subset.refl _⟩
  | cons e rest ih =>
    obtain ⟨he, hrest⟩ := hallows
    have hcons (word : ι) : word :: file ⊆ word :: file' := List.cons_subset_cons word hfile
    have hgrows {file'' : List ι} {word : ι} (h : word :: file' ⊆ file'') : file' ⊆ file'' :=
      List.Subset.trans (List.subset_cons_self word file') h
    cases e with
    | reads word =>
      obtain ⟨hallows, hafter⟩ := ih hfile hrest
      exact ⟨⟨he.imp_right (Or.imp_left fun h ↦ hfile h), hallows⟩, hafter⟩
    | declares word =>
      cases blocks with
      | nil =>
        obtain ⟨hallows, file'', hafter, hsub, hmore⟩ := ih (hcons word) hrest
        exact ⟨⟨he, hallows⟩, file'', hafter, hsub, hgrows hmore⟩
      | cons block outer =>
        obtain ⟨hallows, hafter⟩ := ih hfile hrest
        exact ⟨⟨he, hallows⟩, hafter⟩
    | defines word =>
      obtain ⟨hallows, file'', hafter, hsub, hmore⟩ := ih (hcons word) hrest
      exact ⟨⟨trivial, hallows⟩, file'', hafter, hsub, hgrows hmore⟩
    | takes word | opens | closes | ends =>
      obtain ⟨hallows, hafter⟩ := ih hfile hrest
      exact ⟨⟨trivial, hallows⟩, hafter⟩

end Scopes

/-- The symbols of lines of literal text. -/
def literalSymbols (lines : List (List Char)) : List (Token Symbol) :=
  (lines.flatMap tokens).map (Token.map .word)

/-- Literal lines lead from one state of the scopes to another, if some structs are known. -/
def leads (structs : List (List Char)) (lines : List (List Char)) (s s' : Scopes (List Char)) :
    Bool :=
  match Reader.statement.run symbolLexicon (literalSymbols lines) with
  | (events, last) =>
    decide (last.Quiet symbolLexicon) &&
      decide (symbolLexicon.structWord ∉ identifierTokens (literalSymbols lines)) &&
      decide (usedStructs (literalSymbols lines) ⊆ structs) &&
      decide (s.AllowsAll (events.map (Event.map Symbol.text))) &&
      decide (s.afterAll (events.map (Event.map Symbol.text)) = s')

theorem passes_of_leads {c : Checker} (hready : Ready c.reader) {lines : List String}
    (hlines : ∀ line ∈ lines, directive? line.toList = none) {structs : List (List Char)}
    (hstructs : structs ⊆ c.reader.structs) {words : List (List Char)}
    (hwords : words ⊆ c.scopes.file) {s' : Scopes (List Char)}
    (hleads : leads structs (lines.map String.toList) { c.scopes with file := words } s' = true) :
    ∃ r file, Ready r ∧ r.structs = c.reader.structs ∧ c.scopes.file ⊆ file ∧ s'.file ⊆ file ∧
      Passes c lines ⟨r, { s' with file }⟩ := by
  simp only [leads, Bool.and_eq_true, decide_eq_true_eq] at hleads
  obtain ⟨⟨⟨⟨hquiet, hplain⟩, hused⟩, hallows⟩, hafter⟩ := hleads
  obtain ⟨hallows', file, hafter', hsub, hmore⟩ := hallows.mono hwords
  have htokens : (lines.flatMap fun line ↦ tokens line.toList) =
      (literalSymbols (lines.map String.toList)).map (Token.map Symbol.text) := by
    rw [literalSymbols, map_text_map_word, List.flatMap_map]
  obtain ⟨r, hr, hkept, hpasses⟩ := passes_of_symbols hready hlines htokens hplain
    (List.Subset.trans hused hstructs) hquiet hallows'
  rw [hafter] at hafter' hsub
  rw [show c.scopes.afterAll _ = _ from hafter'] at hpasses
  exact ⟨r, file, hr, hkept, hmore, hsub, hpasses⟩

/-! ### Definitions -/

/-- The header of a struct. -/
def structHeader (name : List Char) : List Char :=
  ['s', 't', 'r', 'u', 'c', 't', ' '] ++ (name ++ [' ', '\x7b'])

/-- The lines of a definition use what the outline lists, and leave what it names. -/
def Outline.fits (o : Outline) (lines : List (List Char)) : Bool :=
  lines.all (fun line ↦ (directive? line).isNone) &&
    if o.isType then
      match lines with
      | header :: fields =>
        isStruct o.name && decide (header = structHeader o.name) &&
          leads [] fields ⟨[], [[]], []⟩ ⟨[], [], []⟩
      | [] => false
    else leads o.structs lines ⟨o.words, [], []⟩ ⟨o.name :: o.words, [], []⟩

theorem isWord_of_isStruct {name : List Char} (hname : isStruct name = true) : IsWord name := by
  have hwords : (spelledStructs.val.all fun word ↦
      !word.isEmpty && word.all isIdentifierChar && word.head?.all Char.isAlpha) = true := by
    decide
  have hword := List.all_eq_true.mp hwords name (isStruct_iff.mp hname)
  simp only [Bool.and_eq_true, Bool.not_eq_true', List.isEmpty_eq_false_iff, List.all_eq_true,
    Option.all_eq_true] at hword
  exact ⟨hword.1, hword.2⟩

theorem tokens_structHeader {name : List Char} (hname : IsWord name) :
    tokens (structHeader name) =
      [.identifier ['s', 't', 'r', 'u', 'c', 't'], .identifier name, .mark '\x7b'] := by
  have hblank : scanEnd ['s', 't', 'r', 'u', 'c', 't', ' '] = .blank := rfl
  have hword : CutBetween name [' ', '\x7b'] := fun c hc ↦ by
    rw [← Option.some.inj hc]
    exact cuts_space
  rw [structHeader, tokens_append fun c _ ↦ by rw [hblank]; rfl, tokens_append hword,
    hname.tokens_eq]
  rfl

/-- A struct starts with its name and a block. -/
theorem passes_structHeader {c : Checker} (hready : Ready c.reader) {name : List Char}
    (hname : isStruct name = true) {line : String} (hline : line.toList = structHeader name)
    (hcode : directive? line.toList = none) :
    ∃ r, Ready r ∧ r.structs = name :: c.reader.structs ∧
      Passes c [line] ⟨r, c.scopes.after .opens⟩ := by
  obtain ⟨⟨structs, parens, list, previous⟩, scopes⟩ := c
  obtain ⟨⟨hparens, hlist, hlead⟩, hstructs⟩ := hready
  dsimp only at hparens hlist hstructs
  subst hparens hlist
  have hword : glslLexicon.structWord = ['s', 't', 'r', 'u', 'c', 't'] := String.toList_ofList
  have hreserved : glslLexicon.isReserved ['s', 't', 'r', 'u', 'c', 't'] = true := by
    rw [isReserved_glslLexicon, ← spelledReserved.property]
    decide
  have hskipped : (⟨structs, 0, none, previous⟩ : Reader (List Char)).role glslLexicon
      ['s', 't', 'r', 'u', 'c', 't'] = .skipped := by
    rw [Reader.role, hlead, hreserved, Bool.or_true]
    rfl
  have hnamed : (⟨structs, 0, none, some (.identifier ['s', 't', 'r', 'u', 'c', 't'])⟩ :
      Reader (List Char)).role glslLexicon name = .structName := by
    rw [Reader.role, Reader.lead]
    simp only [hword, if_true]
  have hrun : (⟨structs, 0, none, previous⟩ : Reader (List Char)).runLines [line] =
      ([.opens], ⟨name :: structs, 0, none, some (.mark '\x7b')⟩) := by
    rw [Reader.runLines, Reader.runLine, hcode]
    simp only [hline, tokens_structHeader (isWord_of_isStruct hname), Reader.run, Reader.step,
      hskipped, hnamed, Reader.runLines]
    rfl
  refine ⟨⟨name :: structs, 0, none, some (.mark '\x7b')⟩, ⟨⟨rfl, rfl, rfl⟩, ?_⟩, rfl, ?_, ?_, ?_⟩
  · exact List.forall_mem_cons.mpr ⟨hname, hstructs⟩
  · rw [hrun]
    exact ⟨trivial, trivial⟩
  · rw [hrun]
  · rw [hrun]
    rfl

namespace AtFile

variable {c : Checker} {k : Known}

/-- A definition that finds what it uses. -/
theorem define (hc : AtFile c k) {o : Outline} {lines : List String}
    (hfits : o.fits (lines.map String.toList) = true) (hallows : k.Allows o.effect) :
    ∃ c', Passes c lines c' ∧ AtFile c' (k.after o.effect) := by
  obtain ⟨hcode, hfits⟩ := Bool.and_eq_true_iff.mp hfits
  have hlines : ∀ line ∈ lines, directive? line.toList = none := by
    intro line hline
    have h := List.all_eq_true.mp hcode _ (List.mem_map_of_mem hline)
    exact Option.isNone_iff_eq_none.mp h
  split at hfits
  · rename_i htype
    cases lines with
    | nil => exact absurd hfits Bool.false_ne_true
    | cons header fields =>
      simp only [List.map_cons, Bool.and_eq_true, decide_eq_true_eq] at hfits
      obtain ⟨⟨hname, hheader⟩, hleads⟩ := hfits
      obtain ⟨r, hr, hstructs, hfirst⟩ := passes_structHeader hc.ready hname hheader
        (hlines header List.mem_cons_self)
      have hopened : c.scopes.after .opens = ⟨c.scopes.file, [[]], []⟩ := by
        rw [hc.scopes_eq]
        rfl
      rw [hopened] at hfirst
      obtain ⟨r', file, hr', hkept, hmore, -, hrest⟩ := passes_of_leads (c := ⟨r, ⟨_, _, _⟩⟩) hr
        (fun line hline ↦ hlines line (List.mem_cons_of_mem _ hline)) (List.nil_subset _)
        (List.nil_subset _) hleads
      refine ⟨_, hfirst.append hrest, hr', ?_, ?_, rfl, rfl⟩
      · have hafter : (k.after o.effect).structs = k.structs ++ [o.name] := by
          simp [Known.after, Outline.effect, htype]
        rw [hafter, hkept, hstructs]
        exact List.append_subset.mpr ⟨List.subset_cons_of_subset _ hc.known,
          List.cons_subset.mpr ⟨List.mem_cons_self, List.nil_subset _⟩⟩
      · have hafter : (k.after o.effect).file = k.file := by
          simp [Known.after, Outline.effect, htype]
        rw [hafter]
        exact fun w hw ↦ hmore (hc.file w hw)
  · rename_i htype
    have hwords : o.words ⊆ c.scopes.file := fun w hw ↦
      hc.file _ (hallows.words (List.mem_map_of_mem hw))
    rw [hc.scopes_eq] at hwords
    have hstart : ({ c.scopes with file := o.words } : Scopes (List Char)) = ⟨o.words, [], []⟩ := by
      rw [hc.scopes_eq]
    obtain ⟨r, file, hr, hkept, hmore, hnew, hpasses⟩ := passes_of_leads hc.ready hlines
      (List.Subset.trans hallows.structs hc.known) hwords (hstart ▸ hfits)
    refine ⟨_, hpasses, hr, ?_, ?_, rfl, rfl⟩
    · have hafter : (k.after o.effect).structs = k.structs := by
        simp [Known.after, Outline.effect, htype]
      rw [hafter, hkept]
      exact hc.known
    · have hafter : (k.after o.effect).file = k.file ++ [.word o.name] := by
        simp [Known.after, Outline.effect, htype]
      rw [hafter]
      refine List.forall_mem_append.mpr ⟨fun w hw ↦ hmore (hc.file w hw), ?_⟩
      rw [List.forall_mem_singleton]
      exact hnew List.mem_cons_self

end AtFile

end SceneRenderer.Shader
