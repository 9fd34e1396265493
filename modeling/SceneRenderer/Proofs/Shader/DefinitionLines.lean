import SceneRenderer.Proofs.Shader.Section
import SceneRenderer.Shader.Prelude

/-!
The lines that definitions take in a stage. The lines of a source that was put together from plain
lines are these lines, and no definition starts like a declaration.
-/

set_option autoImplicit false
set_option relaxedAutoImplicit false

namespace SceneRenderer.Shader

/-! ### Splitting a text into lines -/

/-- A line with some text and no break in it. -/
def Plain (line : String) : Prop := line.toList ≠ [] ∧ ∀ c ∈ line.toList, c ≠ '\n' ∧ c ≠ '\r'

theorem plain_ofList {chars : List Char}
    (h : (!chars.isEmpty && chars.all fun c ↦ c != '\n' && c != '\r') = true) :
    Plain (String.ofList chars) := by
  rw [Plain, String.toList_ofList]
  simpa [List.isEmpty_iff] using h

theorem Plain.append {front back : String} (hfront : Plain front) (hback : Plain back) :
    Plain (front ++ back) := by
  rw [Plain, String.toList_append]
  refine ⟨fun h ↦ hfront.1 (List.append_eq_nil_iff.mp h).1, fun c hc ↦ ?_⟩
  rcases List.mem_append.mp hc with hmem | hmem
  · exact hfront.2 c hmem
  · exact hback.2 c hmem

theorem plain_functionLines {header : String} {body : List String} (hheader : Plain header)
    (hbody : ∀ line ∈ body, Plain line) : ∀ line ∈ functionLines header body, Plain line := by
  intro line hline
  rcases List.mem_append.mp hline with hfront | hlast
  · rcases List.mem_cons.mp hfront with rfl | hmem
    · exact hheader.append (plain_ofList (by decide))
    · obtain ⟨inner, hinner, rfl⟩ := List.mem_map.mp hmem
      exact (plain_ofList (by decide)).append (hbody inner hinner)
  · rw [List.mem_singleton.mp hlast]
    exact plain_ofList (by decide)

theorem breakLines_ne_nil (chars : List Char) : breakLines chars ≠ [] := by
  induction chars with
  | nil => simp [breakLines]
  | cons c rest ih =>
    obtain ⟨first, others, hrest⟩ := List.exists_cons_of_ne_nil ih
    rw [breakLines, hrest]
    by_cases hc : c = '\n' <;> simp [hc]

theorem breakLines_of_notMem {chars : List Char} (hchars : '\n' ∉ chars) :
    breakLines chars = [chars] := by
  induction chars with
  | nil => rfl
  | cons c rest ih =>
    obtain ⟨hc, hrest⟩ : '\n' ≠ c ∧ '\n' ∉ rest := by simpa using hchars
    rw [breakLines, ih hrest]
    exact if_neg hc.symm

theorem breakLines_append {front back : List Char} (hfront : '\n' ∉ front) :
    breakLines (front ++ '\n' :: back) = front :: breakLines back := by
  induction front with
  | nil =>
    obtain ⟨first, others, hback⟩ := List.exists_cons_of_ne_nil (breakLines_ne_nil back)
    rw [List.nil_append, breakLines, hback]
    exact if_pos rfl
  | cons c rest ih =>
    obtain ⟨hc, hrest⟩ : '\n' ≠ c ∧ '\n' ∉ rest := by simpa using hfront
    rw [List.cons_append, breakLines, ih hrest]
    exact if_neg hc.symm

theorem breakLines_intercalate {lines : List String} (hsome : lines ≠ [])
    (hlines : ∀ line ∈ lines, Plain line) :
    breakLines ("\n".intercalate lines).toList = lines.map String.toList := by
  induction lines with
  | nil => exact absurd rfl hsome
  | cons first rest ih =>
    have hfirst : '\n' ∉ first.toList := fun h ↦
      ((hlines first List.mem_cons_self).2 '\n' h).1 rfl
    cases rest with
    | nil => rw [String.intercalate_singleton, breakLines_of_notMem hfirst]; rfl
    | cons second others =>
      have hchars : ("\n".intercalate (first :: second :: others)).toList =
          first.toList ++ '\n' :: ("\n".intercalate (second :: others)).toList := by
        simp [String.intercalate_cons_cons]
      rw [hchars, breakLines_append hfirst,
        ih (List.cons_ne_nil _ _) fun line hline ↦ hlines line (List.mem_cons_of_mem _ hline)]
      rfl

/-- Plain lines, joined by line feeds, are split where they were joined. -/
theorem splitLines_intercalate {lines : List String} (hsome : lines ≠ [])
    (hlines : ∀ line ∈ lines, Plain line) : splitLines ("\n".intercalate lines) = lines := by
  obtain ⟨front, last, rfl⟩ := (List.eq_nil_or_concat lines).resolve_left hsome
  have hlast : last.toList ≠ [] := (hlines last (by simp)).1
  have hreturn : ∀ line ∈ front, dropReturn line.toList = line.toList := by
    intro line hline
    refine if_neg fun h ↦ ?_
    exact ((hlines line (by simp [hline])).2 '\r' (List.mem_of_getLast? h)).2 rfl
  have hfront : (front.map String.toList).map dropReturn = front.map String.toList := by
    rw [List.map_map]
    exact List.map_congr_left hreturn
  rw [splitLines, breakLines_intercalate hsome hlines, List.concat_eq_append, List.map_append]
  simp [hfront, hlast, Function.comp_def, List.isEmpty_iff]

theorem isPrefix_head_breakLines (chars : List Char) :
    ∀ first ∈ (breakLines chars).head?, first <+: chars := by
  induction chars with
  | nil => simp [breakLines]
  | cons c rest ih =>
    obtain ⟨first, others, hrest⟩ := List.exists_cons_of_ne_nil (breakLines_ne_nil rest)
    have hstart : first <+: rest := ih first (by rw [hrest]; rfl)
    rw [breakLines, hrest]
    by_cases hc : c = '\n'
    · simp [hc]
    · simpa [hc] using hstart

/-- A text starts with its first line. -/
theorem isPrefix_head_splitLines {text line : String} (hline : line ∈ (splitLines text).head?) :
    line.toList <+: text.toList := by
  obtain ⟨first, others, hparts⟩ := List.exists_cons_of_ne_nil (breakLines_ne_nil text.toList)
  have hstart : first <+: text.toList := isPrefix_head_breakLines _ first (by rw [hparts]; rfl)
  rw [splitLines, hparts] at hline
  cases others with
  | nil =>
    cases hfirst : first.isEmpty with
    | true => simp [hfirst] at hline
    | false =>
      have heq : String.ofList first = line := by simpa [hfirst] using hline
      rwa [← heq, String.toList_ofList]
  | cons second rest =>
    have heq : String.ofList (dropReturn first) = line := by simpa using hline
    have hdrop : dropReturn first <+: first := by
      unfold dropReturn
      split
      · exact List.dropLast_prefix first
      · exact List.prefix_rfl
    rw [← heq, String.toList_ofList]
    exact hdrop.trans hstart

/-! ### The first line of a definition -/

theorem isDeclarationLine_of_isPrefix {line text : String} (hstart : line.toList <+: text.toList)
    (htext : isDeclarationLine text = false) : isDeclarationLine line = false := by
  rw [isDeclarationLine, List.any_eq_false] at htext ⊢
  intro q hq hkeyword
  exact htext q hq (List.isPrefixOf_iff_prefix.mpr
    ((List.isPrefixOf_iff_prefix.mp hkeyword).trans hstart))

/-- A text that starts unlike any keyword is no declaration. -/
theorem isDeclarationLine_ofList_append (chars : List Char) (rest : String)
    (h : ([Qualifier.perVertex, .uniform, .varying].all fun q ↦
      !(q.keyword ++ " ").toList.isPrefixOf chars && !chars.isPrefixOf (q.keyword ++ " ").toList)
        = true) :
    isDeclarationLine (String.ofList chars ++ rest) = false := by
  rw [isDeclarationLine, List.any_eq_false]
  intro q hq hkeyword
  have hchars : chars <+: (String.ofList chars ++ rest).toList := by
    rw [String.toList_append, String.toList_ofList]
    exact List.prefix_append _ _
  have hneither := List.all_eq_true.mp h q hq
  rcases List.prefix_or_prefix_of_prefix (List.isPrefixOf_iff_prefix.mp hkeyword) hchars
    with hpre | hpre
  · rw [List.isPrefixOf_iff_prefix.mpr hpre] at hneither
    simp at hneither
  · rw [List.isPrefixOf_iff_prefix.mpr hpre] at hneither
    simp at hneither

theorem isDeclarationLine_ofList {chars : List Char}
    (h : ([Qualifier.perVertex, .uniform, .varying].all fun q ↦
      !(q.keyword ++ " ").toList.isPrefixOf chars && !chars.isPrefixOf (q.keyword ++ " ").toList)
        = true) :
    isDeclarationLine (String.ofList chars) = false := by
  simpa using isDeclarationLine_ofList_append chars "" h

/-- No definition starts like a declaration. -/
theorem PreludeItem.isDeclarationLine_source (i : PreludeItem) :
    isDeclarationLine i.source = false := by
  cases i <;>
    simp only [source, lines, shadowFilterLines, functionLines, structLines, blockLines,
      List.cons_append, List.map_cons, String.intercalate_cons_cons, String.append_assoc]
  all_goals exact isDeclarationLine_ofList_append _ _ (by decide)

/-! ### The lines of a billboard -/

theorem PreludeItem.splitLines_billboardSpherical :
    splitLines billboardSpherical.source = billboardSpherical.lines := by
  refine splitLines_intercalate (List.cons_ne_nil _ _)
    (plain_functionLines (plain_ofList (by decide)) ?_)
  simp only [List.forall_mem_cons]
  and_intros
  all_goals first | exact plain_ofList (by decide) | simp

theorem PreludeItem.splitLines_billboardCylindrical :
    splitLines billboardCylindrical.source = billboardCylindrical.lines := by
  refine splitLines_intercalate (List.cons_ne_nil _ _)
    (plain_functionLines (plain_ofList (by decide)) ?_)
  simp only [List.forall_mem_cons]
  and_intros
  all_goals first | exact plain_ofList (by decide) | simp

end SceneRenderer.Shader
