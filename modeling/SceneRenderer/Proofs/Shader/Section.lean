import SceneRenderer.Proofs.Text.Cut
import SceneRenderer.Shader.Stage

/-!
What calls leave in a stage, and what the lines of a stage tell about its sections.

The step lemma `Stage.apply_gained` says what one call adds, and the run lemma
`Stage.build_gained` what calls in a row leave: calls that never declare a name in two ways are
never refused. `Stage.Separable.sections_eq` reads the sections back from the printed lines.
-/

set_option autoImplicit false
set_option relaxedAutoImplicit false

namespace SceneRenderer.Shader

/-! ### Effects of calls -/

/-- A line behind the indentation of a depth. -/
def indent (depth : Nat) (line : String) : String :=
  String.join (List.replicate depth "    ") ++ line

namespace Call

/-- The depth that a call leaves. -/
@[simp]
def depthAfter (depth : Nat) : Call → Nat
  | openBlock _ => depth + 1
  | closeBlock => max (depth - 1) 1
  | _ => depth

/-- The lines that a call adds to the main function. -/
@[simp]
def statementLines (depth : Nat) : Call → List String
  | statement line => [indent depth line]
  | openBlock header => [indent depth (header ++ " \x7b")]
  | closeBlock => [indent (max (depth - 1) 1) "\x7d"]
  | _ => []

@[simp]
def definition? : Call → Option Definition
  | define d => some d
  | _ => none

end Call

/-- The depth after calls in a row. -/
@[simp]
def depthAfter (depth : Nat) (calls : List Call) : Nat := calls.foldl Call.depthAfter depth

/-- The lines that calls in a row add to the main function. -/
@[simp]
def statementLines : Nat → List Call → List String
  | _, [] => []
  | depth, call :: rest => call.statementLines depth ++ statementLines (call.depthAfter depth) rest

theorem statementLines_append (depth : Nat) (front back : List Call) :
    statementLines depth (front ++ back) =
      statementLines depth front ++ statementLines (depthAfter depth front) back := by
  induction front generalizing depth with
  | nil => rfl
  | cons call rest ih =>
    rw [List.cons_append, statementLines, statementLines, ih, List.append_assoc]
    rfl

theorem head_indent {depth : Nat} (hdepth : 0 < depth) (line : String) :
    (indent depth line).toList.head? = some ' ' := by
  obtain ⟨d, rfl⟩ := Nat.exists_eq_succ_of_ne_zero hdepth.ne'
  simp [indent, List.replicate_succ, String.join_cons]

/-- Inside the main function every line is indented. -/
theorem head_statementLines {depth : Nat} (hdepth : 0 < depth) {calls : List Call} {line : String}
    (hline : line ∈ statementLines depth calls) : line.toList.head? = some ' ' := by
  induction calls generalizing depth with
  | nil => exact absurd hline List.not_mem_nil
  | cons call rest ih =>
    have hclose : 0 < max (depth - 1) 1 := by omega
    rcases List.mem_append.mp hline with hfirst | hrest
    · cases call with
      | statement text => rw [List.mem_singleton.mp hfirst]; exact head_indent hdepth _
      | openBlock header => rw [List.mem_singleton.mp hfirst]; exact head_indent hdepth _
      | closeBlock => rw [List.mem_singleton.mp hfirst]; exact head_indent hclose _
      | _ => exact absurd hfirst List.not_mem_nil
    · cases call with
      | openBlock header => exact ih (Nat.succ_pos depth) hrest
      | closeBlock => exact ih hclose hrest
      | _ => exact ih hdepth hrest

/-- No two declarations among the calls give a name two qualifiers or types. -/
def Consistent (calls : List Call) : Prop :=
  ∀ d e : Declaration, .declare d ∈ calls → .declare e ∈ calls → d.name = e.name → d = e

namespace Stage

/-- What calls change in a stage: every section keeps what it had and takes what the calls ask
for. -/
structure Gained (s : Stage) (calls : List Call) (t : Stage) : Prop where
  directives : ∀ line, line ∈ t.directives ↔ line ∈ s.directives ∨ .directive line ∈ calls
  declarations : ∀ d, d ∈ t.declarations ↔ d ∈ s.declarations ∨ .declare d ∈ calls
  definitions : ∀ d ∈ t.definitions, d ∈ s.definitions ∨ .define d ∈ calls
  firstDefinition :
    t.definitions.head? = s.definitions.head?.or (calls.findSome? Call.definition?)
  statements : t.statements = s.statements ++ statementLines s.depth calls
  depth : t.depth = depthAfter s.depth calls

theorem Gained.trans {s t u : Stage} {call : Call} {rest : List Call} (hfirst : Gained s [call] t)
    (hrest : Gained t rest u) : Gained s (call :: rest) u where
  directives line := by
    rw [hrest.directives, hfirst.directives, List.mem_singleton, List.mem_cons, or_assoc]
  declarations d := by
    rw [hrest.declarations, hfirst.declarations, List.mem_singleton, List.mem_cons, or_assoc]
  definitions d hd := by
    rcases hrest.definitions d hd with hmem | hmem
    · rcases hfirst.definitions d hmem with hold | hnew
      · exact .inl hold
      · exact .inr (List.mem_cons.mpr (.inl (List.mem_singleton.mp hnew)))
    · exact .inr (List.mem_cons_of_mem _ hmem)
  firstDefinition := by
    rw [hrest.firstDefinition, hfirst.firstDefinition, Option.or_assoc, List.findSome?_cons,
      List.findSome?_cons]
    cases call.definition? <;> rfl
  statements := by
    rw [hrest.statements, hfirst.statements, hfirst.depth, List.append_assoc]
    simp
  depth := by
    rw [hrest.depth, hfirst.depth]
    rfl

/-- A call is refused only if it declares a name anew with another qualifier or type. -/
theorem apply_gained (s : Stage) (call : Call)
    (hagree : ∀ d, call = .declare d → ∀ e ∈ s.declarations, e.name = d.name → e = d) :
    ∃ t, s.apply call = .ok t ∧ Gained s [call] t := by
  cases call with
  | directive line =>
    by_cases hknown : line ∈ s.directives
    · refine ⟨s, by simp [apply, hknown], ?_, ?_, ?_, ?_, ?_, ?_⟩ <;>
        simp +contextual [hknown]
    · refine ⟨{ s with directives := s.directives ++ [line] }, by simp [apply, hknown],
        ?_, ?_, ?_, ?_, ?_, ?_⟩ <;>
        simp +contextual 
  | declare d =>
    cases hfind : s.declaration? d.name with
    | some e =>
      have hmem : e ∈ s.declarations := List.mem_of_find?_eq_some hfind
      have hname : e.name = d.name := by simpa using List.find?_some hfind
      have heq : e = d := hagree d rfl e hmem hname
      subst heq
      refine ⟨s, by simp [apply, hfind], ?_, ?_, ?_, ?_, ?_, ?_⟩ <;>
        simp +contextual [hmem]
    | none =>
      refine ⟨{ s with declarations := s.declarations ++ [d] }, by simp [apply, hfind],
        ?_, ?_, ?_, ?_, ?_, ?_⟩ <;>
        simp +contextual 
  | define d =>
    by_cases hknown : s.hasDefinition d.name = true
    · have hsome : s.definitions.head? ≠ none := by
        intro hnone
        rw [hasDefinition, List.head?_eq_none_iff.mp hnone] at hknown
        exact Bool.false_ne_true hknown
      obtain ⟨first, hfirst⟩ := Option.ne_none_iff_exists'.mp hsome
      refine ⟨s, by simp [apply, hknown], ?_, ?_, ?_, ?_, ?_, ?_⟩ <;>
        simp +contextual [hfirst]
    · refine ⟨{ s with definitions := s.definitions ++ [d] }, by simp [apply, hknown],
        ?_, ?_, ?_, ?_, ?_, ?_⟩ <;>
        simp +contextual 
  | statement line =>
    refine ⟨s.pushStatement line, rfl, ?_, ?_, ?_, ?_, ?_, ?_⟩ <;>
      simp [pushStatement, indent]
  | openBlock header =>
    refine ⟨_, rfl, ?_, ?_, ?_, ?_, ?_, ?_⟩ <;>
      simp [pushStatement, indent]
  | closeBlock =>
    refine ⟨_, rfl, ?_, ?_, ?_, ?_, ?_, ?_⟩ <;>
      simp [pushStatement, indent]

theorem applyAll_gained (s : Stage) (calls : List Call) (hcalls : Consistent calls)
    (hagree : ∀ d, .declare d ∈ calls → ∀ e ∈ s.declarations, e.name = d.name → e = d) :
    ∃ t, s.applyAll calls = .ok t ∧ Gained s calls t := by
  induction calls generalizing s with
  | nil =>
    exact ⟨s, rfl, by simp, by simp, by simp, by simp, by simp, by simp⟩
  | cons call rest ih =>
    obtain ⟨t, hstep, hgained⟩ := apply_gained s call fun d hd ↦
      hagree d (hd ▸ List.mem_cons_self)
    have hrest : Consistent rest := fun d e hd he ↦
      hcalls d e (List.mem_cons_of_mem _ hd) (List.mem_cons_of_mem _ he)
    have hstill : ∀ d, .declare d ∈ rest → ∀ e ∈ t.declarations, e.name = d.name → e = d := by
      intro d hd e he hname
      rcases (hgained.declarations e).mp he with hold | hnew
      · exact hagree d (List.mem_cons_of_mem _ hd) e hold hname
      · exact hcalls e d (List.mem_singleton.mp hnew ▸ List.mem_cons_self)
          (List.mem_cons_of_mem _ hd) hname
    obtain ⟨u, hrun, hrests⟩ := ih t hrest hstill
    refine ⟨u, ?_, hgained.trans hrests⟩
    rw [applyAll, List.foldlM_cons, hstep]
    exact hrun

/-- Consistent calls fill a stage, and leave there just what they ask for. -/
theorem build_gained (calls : List Call) (hcalls : Consistent calls) :
    ∃ t, build calls = .ok t ∧ Gained empty calls t :=
  applyAll_gained empty calls hcalls fun _ _ _ he ↦ absurd he List.not_mem_nil

end Stage

/-! ### Sections of the printed lines -/

/-- Whether a line starts with the keyword of a declaration. -/
def isDeclarationLine (line : String) : Bool :=
  [Qualifier.perVertex, .uniform, .varying].any fun q ↦
    (q.keyword ++ " ").toList.isPrefixOf line.toList

theorem isDeclarationLine_line (d : Declaration) : isDeclarationLine d.line = true := by
  rw [isDeclarationLine, List.any_eq_true]
  refine ⟨d.qualifier, by cases d.qualifier <;> simp, List.isPrefixOf_iff_prefix.mpr ?_⟩
  refine ⟨(d.type ++ " " ++ d.name ++ ";").toList, ?_⟩
  simp [Declaration.line]

theorem blank_notMem_keyword (q : Qualifier) : ' ' ∉ q.keyword.toList := by
  cases q <;> simp [Qualifier.keyword]

theorem Qualifier.keyword_injective : Function.Injective Qualifier.keyword := by
  intro q r
  cases q <;> cases r <;> simp [Qualifier.keyword]

/-- A declaration whose type is one word can be read back from its line. -/
theorem Declaration.line_inj {d e : Declaration} (hd : ' ' ∉ d.type.toList)
    (he : ' ' ∉ e.type.toList) (h : d.line = e.line) : d = e := by
  have hchars :
      d.qualifier.keyword.toList ++ ' ' :: (d.type.toList ++ ' ' :: (d.name ++ ";").toList)
      = e.qualifier.keyword.toList ++ ' ' :: (e.type.toList ++ ' ' :: (e.name ++ ";").toList) := by
    simpa [line] using congrArg String.toList h
  obtain ⟨hkeyword, hrest⟩ := Text.separator_inj (blank_notMem_keyword _) (blank_notMem_keyword _)
    hchars
  obtain ⟨htype, hname⟩ := Text.separator_inj hd he hrest
  have hqualifier := Qualifier.keyword_injective (String.toList_inj.mp hkeyword)
  have hname : d.name = e.name := by simpa [String.toList_inj] using hname
  cases d
  cases e
  simp_all [String.toList_inj]

namespace Stage

/-- The lines of the definitions. -/
def definitionLines (s : Stage) : List String := s.definitions.flatMap fun d ↦ splitLines d.source

/-- The sections of a stage can be told apart: only declarations look like declarations, and
statements are indented. -/
structure Separable (s : Stage) : Prop where
  types : ∀ d ∈ s.declarations, ' ' ∉ d.type.toList
  directives : ∀ line ∈ s.directives, isDeclarationLine line = false
  definitions : ∀ line ∈ s.definitionLines.head?, isDeclarationLine line = false
  statements : ∀ line ∈ s.statements, line.toList.head? = some ' '

/-- The lines behind the declarations. -/
def tailLines (s : Stage) : List String :=
  s.definitionLines ++ "void main(void) \x7b" :: s.statements ++ ["\x7d"]

theorem lines_eq (s : Stage) :
    s.lines = s.directives ++ (s.declarations.map Declaration.line ++ s.tailLines) := by
  simp [lines, tailLines, definitionLines]

namespace Separable

variable {s t : Stage}

theorem head_tailLines (hs : s.Separable) : ∀ line ∈ s.tailLines.head?,
    isDeclarationLine line = false := by
  intro line hline
  cases hdefs : s.definitionLines with
  | nil =>
    have hmain : line = "void main(void) \x7b" := by
      simpa [tailLines, hdefs, eq_comm] using hline
    rw [hmain]
    decide +kernel
  | cons first rest =>
    refine hs.definitions line ?_
    simpa [tailLines, hdefs] using hline

/-- The sections of a stage, cut out of its lines and whatever stands behind them. -/
theorem cut_lines (hs : s.Separable) (hsome : s.declarations ≠ []) (back : List String) :
    (s.lines ++ back).takeWhile (!isDeclarationLine ·) = s.directives ∧
      ((s.lines ++ back).dropWhile (!isDeclarationLine ·)).takeWhile isDeclarationLine =
        s.declarations.map Declaration.line ∧
      ((s.lines ++ back).dropWhile (!isDeclarationLine ·)).dropWhile isDeclarationLine =
        s.tailLines ++ back := by
  have hlines : s.lines ++ back =
      s.directives ++ (s.declarations.map Declaration.line ++ (s.tailLines ++ back)) := by
    rw [lines_eq, List.append_assoc, List.append_assoc]
  obtain ⟨htake, hdrop⟩ : (s.lines ++ back).takeWhile (!isDeclarationLine ·) = s.directives ∧
      (s.lines ++ back).dropWhile (!isDeclarationLine ·) =
        s.declarations.map Declaration.line ++ (s.tailLines ++ back) := by
    rw [hlines]
    refine Text.cut_append (fun line hline ↦ by simp [hs.directives line hline]) ?_
    obtain ⟨d, rest, hdeclarations⟩ := List.exists_cons_of_ne_nil hsome
    simp [hdeclarations, isDeclarationLine_line]
  rw [htake, hdrop]
  refine ⟨rfl, Text.cut_append (fun line hline ↦ ?_) fun line hline ↦ hs.head_tailLines line ?_⟩
  · obtain ⟨d, _, rfl⟩ := List.mem_map.mp hline
    exact isDeclarationLine_line d
  · have htail : s.tailLines ≠ [] := by simp [tailLines]
    rwa [List.head?_append_of_ne_nil _ htail] at hline

/-- The statements, cut out of the lines. -/
theorem cut_statements (hs : s.Separable) :
    s.lines.dropLast.rtakeWhile (·.toList.head? == some ' ') = s.statements := by
  have hfront : s.lines.dropLast =
      (s.directives ++ s.declarations.map Declaration.line ++ s.definitionLines ++
        ["void main(void) \x7b"]) ++ s.statements := by
    rw [lines_eq, tailLines, ← List.append_assoc, ← List.append_assoc, List.dropLast_concat]
    simp
  rw [hfront]
  refine (Text.rcut_append (fun h ↦ ?_) fun line hline ↦ by simp [hs.statements line hline]).2
  rw [List.getLast_concat]
  decide +kernel

/-- Two stages with the same lines have the same statements. -/
theorem statements_eq (hs : s.Separable) (ht : t.Separable) (h : s.lines = t.lines) :
    s.statements = t.statements := by
  rw [← hs.cut_statements, ← ht.cut_statements, h]

/-- Two stages with declarations and the same lines have the same sections. -/
theorem sections_eq (hs : s.Separable) (ht : t.Separable) (hsome : s.declarations ≠ [])
    (hsome' : t.declarations ≠ []) (h : s.lines = t.lines) :
    s.declarations = t.declarations ∧ s.definitionLines = t.definitionLines ∧
      s.statements = t.statements := by
  have hstatements := hs.statements_eq ht h
  obtain ⟨_, hcut, htail⟩ := hs.cut_lines hsome []
  obtain ⟨_, hcut', htail'⟩ := ht.cut_lines hsome' []
  simp only [List.append_nil] at hcut htail hcut' htail'
  rw [h, hcut'] at hcut
  rw [h, htail', tailLines, tailLines, hstatements, List.append_assoc, List.append_assoc] at htail
  refine ⟨?_, (List.append_cancel_right htail).symm, hstatements⟩
  exact Text.map_inj_of_mem
    (fun d hd e he hline ↦ Declaration.line_inj (hs.types d hd) (ht.types e he) hline) hcut.symm

end Separable

end Stage

end SceneRenderer.Shader
