import SceneRenderer.Proofs.Shader.PlainLines

/-!
The text by which the source of a program is hashed. It has the lines of the vertex stage and of the
fragment stage in a row, with no mark between the two. The vertex stage can be cut off all the same:
it ends at the first brace without indentation behind the first header of a main function.

The main statement is `hashedBytes_eq_iff`.
-/

set_option autoImplicit false
set_option relaxedAutoImplicit false

namespace SceneRenderer.Shader

/-! ### The end of a stage -/

/-- The line under which the statements of a stage stand. -/
def mainHeader : String := "void main(void) \x7b"

namespace Stage

/-- Where a stage ends shows in its lines: they have declarations behind the directives, and no
header of a main function before the one that the statements stand under. -/
structure Delimited (s : Stage) : Prop where
  separable : s.Separable
  declared : s.declarations ≠ []
  definitions : mainHeader ∉ s.definitionLines

namespace Delimited

variable {s t : Stage}

/-- The brace that closes the main function is the first one without indentation. -/
theorem brace_notMem_statements (hs : s.Delimited) : "\x7d" ∉ s.statements := by
  intro hmem
  have hhead := hs.separable.statements _ hmem
  simp at hhead

theorem tailLines_append_inj (hs : s.Delimited) (ht : t.Delimited) {back back' : List String}
    (h : s.tailLines ++ back = t.tailLines ++ back') :
    s.tailLines = t.tailLines ∧ back = back' := by
  have hsplit (u : Stage) (rest : List String) : u.tailLines ++ rest =
      u.definitionLines ++ mainHeader :: (u.statements ++ "\x7d" :: rest) := by
    simp [tailLines, mainHeader]
  rw [hsplit, hsplit] at h
  obtain ⟨hdefinitions, hrest⟩ := Text.separator_inj hs.definitions ht.definitions h
  obtain ⟨hstatements, hback⟩ :=
    Text.separator_inj hs.brace_notMem_statements ht.brace_notMem_statements hrest
  exact ⟨by rw [tailLines, tailLines, hdefinitions, hstatements], hback⟩

/-- No stage goes on as another one. -/
theorem lines_append_inj (hs : s.Delimited) (ht : t.Delimited) {back back' : List String}
    (h : s.lines ++ back = t.lines ++ back') : s.lines = t.lines ∧ back = back' := by
  obtain ⟨hdirectives, hdeclarations, htail⟩ := hs.separable.cut_lines hs.declared back
  obtain ⟨hdirectives', hdeclarations', htail'⟩ := ht.separable.cut_lines ht.declared back'
  rw [h, hdirectives'] at hdirectives
  rw [h, hdeclarations'] at hdeclarations
  rw [h, htail'] at htail
  obtain ⟨htails, hback⟩ := hs.tailLines_append_inj ht htail.symm
  exact ⟨by rw [lines_eq, lines_eq, hdirectives, hdeclarations, htails], hback⟩

end Delimited

end Stage

/-- No definition has a main function. -/
theorem PreludeItem.mainHeader_notMem_lines (i : PreludeItem) : mainHeader ∉ i.lines := by
  obtain ⟨first, rest, hlines, hfirst⟩ :
      ∃ first rest, i.lines = first :: rest ∧ mainHeader ≠ first := by
    cases i <;> exact ⟨_, _, rfl, by decide⟩
  rw [hlines, List.mem_cons, not_or]
  refine ⟨hfirst, fun hmem ↦ ?_⟩
  rcases i.mem_tail_lines (by rwa [hlines]) with ⟨text, htext⟩ | hclosing | hclosing
  · have hhead := congrArg (·.toList.head?) htext
    simp [mainHeader] at hhead
  · exact absurd hclosing (by decide)
  · exact absurd hclosing (by decide)

theorem Stage.delimited {q : Bool} {records : List Record} {s : Stage}
    (hrespects : records.all (Record.respects q) = true) (hsome : globals records ≠ [])
    (hs : Stage.ofRecords records = .ok s) : s.Delimited := by
  obtain ⟨hgained, hseparable⟩ := built_of_ofRecords hrespects hs
  refine ⟨hseparable, hgained.declarations_ne_nil hsome, fun hmem ↦ ?_⟩
  obtain ⟨d, hd, hline⟩ := List.mem_flatMap.mp hmem
  obtain ⟨i, _, rfl⟩ := hgained.definition_mem hd
  rw [i.splitLines_source] at hline
  exact i.mainHeader_notMem_lines hline

/-- The vertex stage of every program shows where it ends. -/
theorem delimited_of_stages {o : ShaderOptions} {k : ProgramKey} {v f : Stage}
    (hstages : stages o k = .ok (v, f)) : v.Delimited := by
  cases k with
  | draw c =>
    obtain ⟨_, _, hv, _⟩ := drawStages_eq hstages
    exact Stage.delimited (respects_vertexRecords c o) (by simp [globals_vertexRecords]) hv
  | shadowDepth d =>
    obtain ⟨hv, _⟩ := depthStages_eq hstages
    exact Stage.delimited (respects_depthVertexRecords d o)
      (by simp [globals_depthVertexRecords]) hv

/-! ### Lines and bytes -/

theorem breakLines_join {lines : List String} (hlines : ∀ line ∈ lines, Plain line) :
    breakLines (String.join (lines.map (· ++ "\n"))).toList = lines.map String.toList ++ [[]] := by
  induction lines with
  | nil => rfl
  | cons first rest ih =>
    have hfirst : '\n' ∉ first.toList := fun h ↦
      ((hlines first List.mem_cons_self).2 '\n' h).1 rfl
    have hchars : (String.join ((first :: rest).map (· ++ "\n"))).toList =
        first.toList ++ '\n' :: (String.join (rest.map (· ++ "\n"))).toList := by
      simp [String.join_cons]
    rw [hchars, breakLines_append hfirst,
      ih fun line hline ↦ hlines line (List.mem_cons_of_mem _ hline)]
    rfl

/-- Plain lines can be read back from the text that is hashed. -/
theorem hashedText_inj {vertex fragment vertex' fragment' : List String}
    (hlines : ∀ line ∈ vertex ++ fragment, Plain line)
    (hlines' : ∀ line ∈ vertex' ++ fragment', Plain line)
    (h : hashedText vertex fragment = hashedText vertex' fragment') :
    vertex ++ fragment = vertex' ++ fragment' := by
  have hbreak := congrArg (fun text ↦ breakLines text.toList) h
  simp only [hashedText, breakLines_join hlines, breakLines_join hlines'] at hbreak
  exact List.map_injective_iff.mpr (fun _ _ ↦ String.toList_inj.mp)
    (List.append_cancel_right hbreak)

/-- The bytes that the hash of a source is taken of. -/
def ProgramSource.hashedBytes (s : ProgramSource) : Array UInt8 :=
  (hashedText s.vertex s.fragment).toUTF8.data

/-- The source of every program is hashed by bytes that know both of its stages: two programs are
hashed by the same bytes exactly if they have the same vertex lines and the same fragment lines. -/
theorem hashedBytes_eq_iff (o o' : ShaderOptions) (ho : o.kernelRadius ≤ maxKernelRadius)
    (ho' : o'.kernelRadius ≤ maxKernelRadius) (k k' : ProgramKey) :
    ∃ s s', synthesize o k = .ok s ∧ synthesize o' k' = .ok s' ∧
      s.hash = Xxh3.hash s.hashedBytes ∧ s'.hash = Xxh3.hash s'.hashedBytes ∧
      (s.hashedBytes = s'.hashedBytes ↔ s.vertex = s'.vertex ∧ s.fragment = s'.fragment) := by
  obtain ⟨s, hs⟩ := synthesize_ok ho k
  obtain ⟨s', hs'⟩ := synthesize_ok ho' k'
  obtain ⟨v, f, hstages, rfl⟩ := exists_stages_of_synthesize hs
  obtain ⟨v', f', hstages', rfl⟩ := exists_stages_of_synthesize hs'
  refine ⟨_, _, hs, hs', rfl, rfl, fun hbytes ↦ ?_, fun ⟨hvertex, hfragment⟩ ↦ ?_⟩
  · have htext : hashedText v.lines f.lines = hashedText v'.lines f'.lines :=
      String.toByteArray_inj.mp (ByteArray.ext hbytes)
    have hlines := hashedText_inj (List.forall_mem_append.mpr (plain_lines_of_stages hstages))
      (List.forall_mem_append.mpr (plain_lines_of_stages hstages')) htext
    exact (delimited_of_stages hstages).lines_append_inj (delimited_of_stages hstages') hlines
  · rw [ProgramSource.hashedBytes, ProgramSource.hashedBytes, hvertex, hfragment]

/-- The program of a plaque with the standard options and with the widest filter of shadow maps. -/
theorem hashedBytes_eq_iff_widest :
    ∃ s s', synthesize .standard (.draw (plaque (twoSuns true))) = .ok s ∧
      synthesize { ShaderOptions.standard with kernelRadius := maxKernelRadius }
        (.draw (plaque (twoSuns true))) = .ok s' ∧
      s.hash = Xxh3.hash s.hashedBytes ∧ s'.hash = Xxh3.hash s'.hashedBytes ∧
      (s.hashedBytes = s'.hashedBytes ↔ s.vertex = s'.vertex ∧ s.fragment = s'.fragment) :=
  hashedBytes_eq_iff .standard { ShaderOptions.standard with kernelRadius := maxKernelRadius }
    (by decide) (by decide) _ _

end SceneRenderer.Shader
