import SceneRenderer.Proofs.Shader.DeclaredUniforms
import SceneRenderer.Proofs.Shader.Visibility

/-!
Lines of code under the check of scopes. A passage that starts and ends between two statements is
checked by its symbols (`passes_of_symbols`): what its survey says it reads has to be visible, and
what it declares is visible behind it.
-/

set_option autoImplicit false
set_option relaxedAutoImplicit false

namespace SceneRenderer.Shader

/-! ### Lines of code -/

theorem Reader.run_append {ι : Type} [DecidableEq ι] (lexicon : Lexicon ι) (r : Reader ι)
    (front back : List (Token ι)) :
    r.run lexicon (front ++ back) =
      ((r.run lexicon front).1 ++ ((r.run lexicon front).2.run lexicon back).1,
        ((r.run lexicon front).2.run lexicon back).2) := by
  induction front generalizing r with
  | nil => rfl
  | cons t rest ih =>
    rw [List.cons_append, run, run]
    simp only [ih, List.append_assoc]

/-- Lines without directives are read as one text. -/
theorem Reader.runLines_of_code {lines : List String}
    (hlines : ∀ line ∈ lines, directive? line.toList = none) (r : Reader (List Char)) :
    r.runLines lines = r.run glslLexicon (lines.flatMap fun line ↦ tokens line.toList) := by
  induction lines generalizing r with
  | nil => rfl
  | cons line rest ih =>
    have hline : r.runLine line = r.run glslLexicon (tokens line.toList) := by
      rw [runLine, hlines line List.mem_cons_self]
    rw [List.flatMap_cons, run_append, runLines, hline]
    simp only [ih fun other hother ↦ hlines other (List.mem_cons_of_mem _ hother)]

/-- The structs that a reader knows are structs of the stages. -/
structure Ready (r : Reader (List Char)) : Prop where
  quiet : r.Quiet glslLexicon
  structs : ∀ t ∈ r.structs, isStruct t = true

theorem passes_of_symbols {c : Checker} (hready : Ready c.reader) {lines : List String}
    (hlines : ∀ line ∈ lines, directive? line.toList = none) {ts : List (Token Symbol)}
    (htokens : (lines.flatMap fun line ↦ tokens line.toList) = ts.map (Token.map Symbol.text))
    (hplain : symbolLexicon.structWord ∉ identifierTokens ts)
    (hknown : usedStructs ts ⊆ c.reader.structs)
    (hend : (Reader.statement.run symbolLexicon ts).2.Quiet symbolLexicon)
    (hallows : c.scopes.AllowsAll
      ((Reader.statement.run symbolLexicon ts).1.map (Event.map Symbol.text))) :
    ∃ r, Ready r ∧ r.structs = c.reader.structs ∧
      Passes c lines
        ⟨r, c.scopes.afterAll
          ((Reader.statement.run symbolLexicon ts).1.map (Event.map Symbol.text))⟩ := by
  have hused (t : List Char) (ht : .word t ∈ identifierTokens ts) (hstruct : isStruct t = true) :
      t ∈ c.reader.structs :=
    hknown (List.mem_filterMap.mpr ⟨.word t, ht, if_pos hstruct⟩)
  obtain ⟨hevents, hquiet, hkept⟩ := run_symbols hready.quiet hready.structs hplain hused hend
  have hrun := c.reader.runLines_of_code hlines
  rw [htokens] at hrun
  refine ⟨_, ⟨hquiet, ?_⟩, hkept, ?_, ?_, ?_⟩
  · rw [hkept]
    exact hready.structs
  · rw [hrun, hevents]
    exact hallows
  · rw [hrun]
  · rw [hrun, hevents]

/-! ### Statements -/

namespace Scopes

variable {ι : Type} {s : Scopes ι}

theorem Sees.after_declares {w : ι} (hw : s.Sees w) (word : ι) :
    (s.after (.declares word)).Sees w := by
  obtain ⟨file, blocks, pending⟩ := s
  cases blocks with
  | nil => exact hw.imp_right (Or.imp_left (List.mem_cons_of_mem _))
  | cons block outer =>
    refine hw.imp_right (Or.imp_right ?_)
    rintro ⟨b, hb, hmem⟩
    rcases List.mem_cons.mp hb with rfl | hb
    · exact ⟨word :: b, List.mem_cons_self, List.mem_cons_of_mem _ hmem⟩
    · exact ⟨b, List.mem_cons_of_mem _ hb, hmem⟩

theorem pending_after_declares (s : Scopes ι) (word : ι) :
    (s.after (.declares word)).pending = s.pending := by
  obtain ⟨file, blocks, pending⟩ := s
  cases blocks <;> rfl

/-- A statement reads what is visible before it, and leaves what it declares. -/
theorem allowsAll_of_simple {events : List (Event ι)} (hsimple : events.all Event.isSimple = true)
    (hpending : s.pending = []) (hreads : ∀ w ∈ readWords events, s.Sees w)
    (hdeclares : s.AllowsAll ((declaredWords events).map .declares)) :
    s.AllowsAll events ∧ s.afterAll events = s.afterAll ((declaredWords events).map .declares) := by
  induction events generalizing s with
  | nil => exact ⟨trivial, rfl⟩
  | cons e rest ih =>
    obtain ⟨he, hrest⟩ := Bool.and_eq_true_iff.mp hsimple
    cases e with
    | reads word =>
      obtain ⟨hword, hothers⟩ := List.forall_mem_cons.mp hreads
      obtain ⟨hallows, hafter⟩ := ih hrest hpending hothers hdeclares
      exact ⟨⟨hword, hallows⟩, hafter⟩
    | declares word =>
      obtain ⟨hword, hothers⟩ := hdeclares
      obtain ⟨hallows, hafter⟩ := ih hrest ((pending_after_declares s word).trans hpending)
        (fun w hw ↦ (hreads w hw).after_declares word) hothers
      exact ⟨⟨hword, hallows⟩, hafter⟩
    | ends =>
      have hsame : s.after .ends = s := by
        obtain ⟨file, blocks, pending⟩ := s
        obtain rfl : pending = [] := hpending
        rfl
      obtain ⟨hallows, hafter⟩ := ih hrest hpending hreads hdeclares
      refine ⟨⟨trivial, hsame.symm ▸ hallows⟩, ?_⟩
      change (s.after .ends).afterAll rest = _
      rw [hsame, hafter]
      rfl
    | _ => exact absurd he Bool.false_ne_true

/-- Outside of blocks anything may be declared. -/
theorem allowsAll_declares_file (file pending : List ι) (words : List ι) :
    (⟨file, [], pending⟩ : Scopes ι).AllowsAll (words.map .declares) ∧
      (⟨file, [], pending⟩ : Scopes ι).afterAll (words.map .declares) =
        ⟨words.reverse ++ file, [], pending⟩ := by
  induction words generalizing file with
  | nil => exact ⟨trivial, rfl⟩
  | cons word rest ih =>
    obtain ⟨hallows, hafter⟩ := ih (word :: file)
    refine ⟨⟨fun block hblock ↦ absurd hblock (Option.some_ne_none _).symm, hallows⟩, ?_⟩
    rw [List.reverse_cons, List.append_assoc]
    exact hafter

/-- A block declares words once each. -/
theorem allowsAll_declares_block (file pending : List ι) {block words : List ι}
    (outer : List (List ι)) (hnodup : (words.reverse ++ block).Nodup) :
    (⟨file, block :: outer, pending⟩ : Scopes ι).AllowsAll (words.map .declares) ∧
      (⟨file, block :: outer, pending⟩ : Scopes ι).afterAll (words.map .declares) =
        ⟨file, (words.reverse ++ block) :: outer, pending⟩ := by
  induction words generalizing block with
  | nil => exact ⟨trivial, rfl⟩
  | cons word rest ih =>
    rw [List.reverse_cons, List.append_assoc] at hnodup
    obtain ⟨hallows, hafter⟩ := @ih (word :: block) hnodup
    refine ⟨⟨fun other hother ↦ ?_, hallows⟩, ?_⟩
    · obtain rfl := Option.some.inj hother
      exact (List.nodup_cons.mp (List.nodup_append.mp hnodup).2.1).1
    · rw [List.reverse_cons, List.append_assoc]
      exact hafter

end Scopes

/-- A passage reads what is visible before it, and leaves what it declares. -/
theorem passes_of_survey {c : Checker} (hready : Ready c.reader) {lines : List String}
    (hlines : ∀ line ∈ lines, directive? line.toList = none) {ts : List (Token Symbol)}
    (htokens : (lines.flatMap fun line ↦ tokens line.toList) = ts.map (Token.map Symbol.text))
    {v : Survey} (hv : survey? ts = some v) (hstructs : v.structs ⊆ c.reader.structs)
    (hpending : c.scopes.pending = []) (hreads : ∀ w ∈ v.reads, c.scopes.Sees w.text)
    (hdeclares : c.scopes.AllowsAll ((v.declares.map Symbol.text).map .declares)) :
    ∃ r, Ready r ∧ r.structs = c.reader.structs ∧
      Passes c lines ⟨r, c.scopes.afterAll ((v.declares.map Symbol.text).map .declares)⟩ := by
  obtain ⟨hquiet, hsimple, hplain, rfl⟩ := survey?_eq.mp hv
  rw [← declaredWords_map] at hdeclares ⊢
  obtain ⟨hallows, hafter⟩ := Scopes.allowsAll_of_simple
    ((all_isSimple_map Symbol.text _).trans hsimple) hpending
    (by
      rw [readWords_map]
      exact List.forall_mem_map.mpr hreads)
    hdeclares
  rw [← hafter]
  exact passes_of_symbols hready hlines htokens hplain hstructs hquiet hallows

/-- The tokens of a line that is surveyed. -/
theorem surveyLine?_eq {line : List Chunk} {v : Survey} (hv : surveyLine? line = some v) :
    ∃ ts, tokens (lineChars line) = ts.map (Token.map Symbol.text) ∧ survey? ts = some v ∧
      startsCode line = true := by
  rw [surveyLine?, Option.ite_none_right_eq_some] at hv
  obtain ⟨hstarts, hv⟩ := hv
  obtain ⟨ts, hts, hv⟩ := Option.bind_eq_some_iff.mp hv
  exact ⟨ts, tokens_of_scanChunks hts, hv, hstarts⟩

/-- Code is no directive, whatever its indentation. -/
theorem directive?_of_startsCode {line : List Chunk} (hline : startsCode line = true)
    {spaces : List Char} (hspaces : ∀ c ∈ spaces, c = ' ') (rest : List Char) :
    directive? (spaces ++ (lineChars line ++ rest)) = none := by
  have hfirst : ∃ c chars, lineChars line = c :: chars ∧ Text.isBlank c = false ∧ c ≠ '#' := by
    match line, hline with
    | .text (c :: chars) :: others, h =>
      obtain ⟨hblank, hmark⟩ := Bool.and_eq_true_iff.mp h
      exact ⟨c, chars ++ lineChars others, rfl, by simpa using hblank, by simpa using hmark⟩
    | .name n :: others, _ =>
      obtain ⟨c, chars, hchars⟩ := List.exists_cons_of_ne_nil n.isIdentifier_text.1
      have hc : isIdentifierChar c = true := n.isIdentifier_text.2 c (by simp [hchars])
      refine ⟨c, chars ++ lineChars others, ?_, isBlank_of_isIdentifierChar hc, ?_⟩
      · rw [lineChars, List.flatMap_cons, Chunk.chars, hchars]
        rfl
      · rintro rfl
        exact absurd hc (by decide)
  obtain ⟨c, chars, hchars, hblank, hmark⟩ := hfirst
  have hdrop : (spaces ++ (lineChars line ++ rest)).dropWhile Text.isBlank =
      c :: (chars ++ rest) := by
    rw [List.dropWhile_append_of_pos fun d hd ↦ by rw [hspaces d hd]; decide, hchars,
      List.cons_append, List.dropWhile_cons_of_neg (by simp [hblank])]
  rw [directive?, hdrop]
  split
  · rename_i heq
    exact absurd (List.cons.inj heq).1 hmark
  · rfl

end SceneRenderer.Shader
