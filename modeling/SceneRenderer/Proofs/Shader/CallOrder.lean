import SceneRenderer.Proofs.Shader.Section

/-!
The lines of a stage by the calls that fill it. Every section goes by its own calls in their order,
however the calls of other sections stand between them: the step lemma `Stage.apply_follows` says so
of one call, and the run lemma `Stage.applyAll_follows` of calls in a row. What was asked for before
is left out, by the whole line or by the name (`foldl_keepNew`). Inside of the main function a line
is indented by the blocks around it (`getElem?_statementLines`).

The main statement is `Stage.lines_of_alike`.
-/

set_option autoImplicit false
set_option relaxedAutoImplicit false

namespace SceneRenderer.Shader

/-! ### What is asked for first -/

section KeepNew

variable {β : Type}

/-- Appends what is not known yet. -/
def keepNew (known : β → β → Bool) (kept : List β) (b : β) : List β :=
  if kept.any (known b) then kept else kept ++ [b]

/-- Only the first of several that know each other is kept. -/
theorem foldl_keepNew (known : β → β → Bool) (l : List β) :
    l.foldl (keepNew known) [] = l.eraseDupsBy known := by
  have hloop (kept : List β) :
      l.foldl (keepNew known) kept.reverse = List.eraseDupsBy.loop known l kept := by
    induction l generalizing kept with
    | nil => rfl
    | cons b rest ih =>
      rw [List.foldl_cons, keepNew, List.any_reverse, List.eraseDupsBy.loop]
      cases kept.any (known b) with
      | true => exact ih kept
      | false => simpa using ih (b :: kept)
  exact hloop []

end KeepNew

namespace Call

@[simp]
def directive? : Call → Option String
  | directive line => some line
  | _ => none

@[simp]
def declaration? : Call → Option Declaration
  | declare d => some d
  | _ => none

/-- The line that a call adds to the main function. -/
def statement? : Call → Option String
  | statement line => some line
  | openBlock header => some (header ++ " \x7b")
  | closeBlock => some "\x7d"
  | _ => none

def isStatement (call : Call) : Bool := call.statement?.isSome

end Call

/-! ### Sections by their calls -/

/-- Calls are consistent by their declarations alone. -/
theorem consistent_iff {calls : List Call} : Consistent calls ↔
    ∀ d ∈ calls.filterMap Call.declaration?, ∀ e ∈ calls.filterMap Call.declaration?,
      d.name = e.name → d = e := by
  have hmem (d : Declaration) : d ∈ calls.filterMap Call.declaration? ↔ .declare d ∈ calls := by
    rw [List.mem_filterMap]
    constructor
    · rintro ⟨call, hcall, hd⟩
      cases call <;> cases hd
      exact hcall
    · exact fun hd ↦ ⟨_, hd, rfl⟩
  simp only [Consistent, hmem]
  exact ⟨fun h d hd e he ↦ h d e hd he, fun h d e hd he ↦ h d hd e he⟩

namespace Stage

/-- What calls add to the sections in front of the main function. -/
structure Follows (s : Stage) (calls : List Call) (t : Stage) : Prop where
  directives : t.directives =
    (calls.filterMap Call.directive?).foldl (keepNew (· == ·)) s.directives
  declarations : t.declarations =
    (calls.filterMap Call.declaration?).foldl (keepNew (·.name == ·.name)) s.declarations
  definitions : t.definitions =
    (calls.filterMap Call.definition?).foldl (keepNew (·.name == ·.name)) s.definitions

theorem Follows.trans {s t u : Stage} {front back : List Call} (hfront : Follows s front t)
    (hback : Follows t back u) : Follows s (front ++ back) u where
  directives := by
    rw [hback.directives, hfront.directives, List.filterMap_append, List.foldl_append]
  declarations := by
    rw [hback.declarations, hfront.declarations, List.filterMap_append, List.foldl_append]
  definitions := by
    rw [hback.definitions, hfront.definitions, List.filterMap_append, List.foldl_append]

theorem any_declarations (s : Stage) (d : Declaration) :
    s.declarations.any (d.name == ·.name) = (s.declaration? d.name).isSome := by
  rw [declaration?, List.isSome_find?]
  congr 1
  funext e
  exact Bool.beq_comm

theorem any_definitions (s : Stage) (d : Definition) :
    s.definitions.any (d.name == ·.name) = s.hasDefinition d.name := by
  rw [hasDefinition]
  congr 1
  funext e
  exact Bool.beq_comm

theorem apply_follows {s t : Stage} {call : Call} (hstep : s.apply call = .ok t) :
    Follows s [call] t := by
  cases call with
  | directive line =>
    cases hstep
    by_cases hknown : s.directives.contains line
    · rw [if_pos hknown]
      exact ⟨by simpa [keepNew] using hknown, rfl, rfl⟩
    · rw [if_neg hknown]
      exact ⟨by simpa [keepNew] using hknown, rfl, rfl⟩
  | declare d =>
    have hany := s.any_declarations d
    cases hfind : s.declaration? d.name with
    | some e =>
      rw [hfind] at hany
      simp only [apply, hfind] at hstep
      split at hstep
      · cases hstep
        exact ⟨rfl, by simp [keepNew, hany], rfl⟩
      · cases hstep
    | none =>
      rw [hfind] at hany
      simp only [apply, hfind] at hstep
      cases hstep
      exact ⟨rfl, by simp [keepNew, hany], rfl⟩
  | define d =>
    cases hstep
    by_cases hknown : s.hasDefinition d.name
    · rw [if_pos hknown]
      exact ⟨rfl, rfl, by simp [keepNew, any_definitions, hknown]⟩
    · rw [if_neg hknown]
      exact ⟨rfl, rfl, by simp [keepNew, any_definitions, hknown]⟩
  | statement line | openBlock header | closeBlock =>
    cases hstep
    exact ⟨rfl, rfl, rfl⟩

theorem applyAll_follows {s t : Stage} {calls : List Call} (hrun : s.applyAll calls = .ok t) :
    Follows s calls t := by
  induction calls generalizing s with
  | nil =>
    cases hrun
    exact ⟨rfl, rfl, rfl⟩
  | cons call rest ih =>
    rw [applyAll, List.foldlM_cons] at hrun
    cases hstep : s.apply call with
    | error fault =>
      rw [hstep] at hrun
      cases hrun
    | ok u =>
      rw [hstep] at hrun
      exact (apply_follows hstep).trans (ih hrun)

end Stage

/-! ### The main function -/

/-- Other calls leave the main function as it is. -/
theorem statementLines_filter (depth : Nat) (calls : List Call) :
    statementLines depth (calls.filter Call.isStatement) = statementLines depth calls := by
  induction calls generalizing depth with
  | nil => rfl
  | cons call rest ih =>
    cases call with
    | directive line | declare d | define d => exact ih depth
    | statement line | openBlock header | closeBlock =>
      rw [List.filter_cons_of_pos rfl, statementLines, statementLines, ih]

namespace Call

def opens : Call → Bool
  | openBlock _ => true
  | _ => false

def closes : Call → Bool
  | closeBlock => true
  | _ => false

end Call

/-- The blocks around the call at a place: those opened in front of it that are not closed up to it.
A block is not around the line that opens it, nor around the one that closes it. -/
def blocksAround (calls : List Call) (place : Nat) : Nat :=
  (calls.take place).countP Call.opens - (calls.take (place + 1)).countP Call.closes

/-- No block is closed that is not open. -/
def Nested (calls : List Call) : Prop :=
  ∀ place, (calls.take place).countP Call.closes ≤ (calls.take place).countP Call.opens

theorem indent_eq (depth : Nat) (line : String) :
    indent depth line = String.ofList (List.replicate (4 * depth) ' ') ++ line := by
  have hblank (n : Nat) :
      (String.join (List.replicate n "    ")).toList = List.replicate (4 * n) ' ' := by
    induction n with
    | zero => rfl
    | succ n ih =>
      rw [List.replicate_succ, String.join_cons, String.toList_append, ih, Nat.mul_succ,
        Nat.add_comm, List.replicate_add]
      rfl
  rw [indent, ← hblank, String.ofList_toList]

/-- One call adds one line, in front of the block it opens and behind the one it closes. -/
theorem statementLines_cons {depth : Nat} {call : Call} {line : String}
    (hline : call.statement? = some line) (hopen : call.closes = true → 0 < depth)
    (rest : List Call) :
    statementLines (depth + 1) (call :: rest) =
      indent (depth - (if call.closes then 1 else 0) + 1) line ::
        statementLines (depth + (if call.opens then 1 else 0) - (if call.closes then 1 else 0) + 1)
          rest := by
  cases call with
  | statement text | openBlock header =>
    cases hline
    rfl
  | closeBlock =>
    have hdepth : max (depth + 1 - 1) 1 = depth := max_eq_left (hopen rfl)
    have hlast : depth - 1 + 1 = depth := Nat.sub_add_cancel (hopen rfl)
    cases hline
    rw [statementLines, Call.statementLines, Call.depthAfter, hdepth]
    simp [Call.opens, Call.closes, hlast]
  | directive text | declare d | define d => cases hline

/-- Inside of some blocks, lines are indented by these and by the blocks that are opened around
them. -/
theorem getElem?_statementLines (depth : Nat) {calls : List Call}
    (hcalls : ∀ call ∈ calls, call.isStatement = true)
    (hnested : ∀ place, (calls.take place).countP Call.closes ≤
      depth + (calls.take place).countP Call.opens) (place : Nat) :
    (statementLines (depth + 1) calls)[place]? =
      (calls[place]?.bind Call.statement?).map (indent
        (depth + (calls.take place).countP Call.opens -
          (calls.take (place + 1)).countP Call.closes + 1)) := by
  induction calls generalizing depth place with
  | nil => rfl
  | cons call rest ih =>
    obtain ⟨line, hline⟩ := Option.isSome_iff_exists.mp (hcalls call List.mem_cons_self)
    have hafter (later : Nat) := hnested (later + 1)
    simp only [List.take_succ_cons, List.countP_cons] at hafter
    have hfirst := hafter 0
    simp only [List.take_zero, List.countP_nil, Nat.zero_add] at hfirst
    have hopen : call.closes = true → 0 < depth := by
      intro hcloses
      cases call with
      | closeBlock => exact hfirst
      | _ => exact absurd hcloses Bool.false_ne_true
    rw [statementLines_cons hline hopen]
    cases place with
    | zero => simp [hline, List.countP_cons]
    | succ place =>
      rw [List.getElem?_cons_succ, List.getElem?_cons_succ,
        ih _ (fun other hother ↦ hcalls other (List.mem_cons_of_mem call hother))
          (fun later ↦ by have := hafter later; omega)]
      simp only [List.take_succ_cons, List.countP_cons]
      congr 3
      have := hafter (place + 1)
      omega

/-! ### Lines of a stage -/

namespace Stage

theorem build_sections {calls : List Call} (hcalls : Consistent calls) :
    ∃ s, build calls = .ok s ∧ s.directives = (calls.filterMap Call.directive?).eraseDups ∧
      s.declarations = (calls.filterMap Call.declaration?).eraseDupsBy (·.name == ·.name) ∧
      s.definitions = (calls.filterMap Call.definition?).eraseDupsBy (·.name == ·.name) ∧
      s.statements = statementLines 1 (calls.filter Call.isStatement) := by
  obtain ⟨s, hs, hgained⟩ := build_gained calls hcalls
  have hfollows := applyAll_follows hs
  refine ⟨s, hs, ?_, ?_, ?_, ?_⟩
  · exact hfollows.directives.trans (foldl_keepNew _ _)
  · exact hfollows.declarations.trans (foldl_keepNew _ _)
  · exact hfollows.definitions.trans (foldl_keepNew _ _)
  · rw [statementLines_filter]
    exact hgained.statements

/-- The lines of a stage depend on the calls of each section in their order, and not on how they
stand between those of other sections. Nothing is printed twice; statements are indented by the
blocks around them. -/
theorem lines_of_alike {calls calls' : List Call} (hcalls : Consistent calls)
    (hdirectives : calls.filterMap Call.directive? = calls'.filterMap Call.directive?)
    (hdeclarations : calls.filterMap Call.declaration? = calls'.filterMap Call.declaration?)
    (hdefinitions : calls.filterMap Call.definition? = calls'.filterMap Call.definition?)
    (hstatements : calls.filter Call.isStatement = calls'.filter Call.isStatement) :
    ∃ s s', build calls = .ok s ∧ build calls' = .ok s' ∧ s.lines = s'.lines ∧
      s.lines = (calls.filterMap Call.directive?).eraseDups ++
        ((calls.filterMap Call.declaration?).eraseDupsBy (·.name == ·.name)).map Declaration.line ++
        ((calls.filterMap Call.definition?).eraseDupsBy (·.name == ·.name)).flatMap
          (fun d ↦ splitLines d.source) ++
        "void main(void) \x7b" :: statementLines 1 (calls.filter Call.isStatement) ++ ["\x7d"] ∧
      (Nested (calls.filter Call.isStatement) → ∀ place,
        (statementLines 1 (calls.filter Call.isStatement))[place]? =
          ((calls.filter Call.isStatement)[place]?.bind Call.statement?).map
            (String.ofList (List.replicate
              (4 * blocksAround (calls.filter Call.isStatement) place + 4) ' ') ++ ·)) := by
  have hcalls' : Consistent calls' := by
    rwa [consistent_iff, ← hdeclarations, ← consistent_iff]
  obtain ⟨s, hs, hfirst, hsecond, hthird, hmain⟩ := build_sections hcalls
  obtain ⟨s', hs', hfirst', hsecond', hthird', hmain'⟩ := build_sections hcalls'
  refine ⟨s, s', hs, hs', ?_, ?_, ?_⟩
  · rw [lines, lines, hfirst, hsecond, hthird, hmain, hfirst', hsecond', hthird', hmain',
      hdirectives, hdeclarations, hdefinitions, hstatements]
  · rw [lines, hfirst, hsecond, hthird, hmain]
  · intro hnested place
    have hline := getElem?_statementLines 0 (fun call hcall ↦ List.of_mem_filter hcall)
      (by simpa [Nested] using hnested) place
    simp only [Nat.zero_add] at hline
    rw [hline]
    congr 1
    funext line
    rw [indent_eq, blocksAround, Nat.mul_succ]

/-- A declaration and a definition are asked for twice, in the middle of the main function. -/
def scattered : List Call :=
  [.openBlock "if (gain > limit)", .declare ⟨.uniform, "float", "gain"⟩,
    .define ⟨"limit", "const float limit = 1.0;"⟩, .statement "discard;",
    .directive "precision highp float;", .declare ⟨.uniform, "vec3", "color"⟩, .closeBlock,
    .define ⟨"limit", "const float limit = 2.0;"⟩, .declare ⟨.uniform, "float", "gain"⟩,
    .statement "gl_FragColor = vec4(color, 1.0);"]

/-- The same calls, section by section. -/
def bySection : List Call :=
  [.directive "precision highp float;", .declare ⟨.uniform, "float", "gain"⟩,
    .declare ⟨.uniform, "vec3", "color"⟩, .declare ⟨.uniform, "float", "gain"⟩,
    .define ⟨"limit", "const float limit = 1.0;"⟩, .define ⟨"limit", "const float limit = 2.0;"⟩,
    .openBlock "if (gain > limit)", .statement "discard;", .closeBlock,
    .statement "gl_FragColor = vec4(color, 1.0);"]

theorem lines_of_alike_scattered :
    Consistent scattered ∧ Nested (scattered.filter Call.isStatement) ∧
      ∃ s s', build scattered = .ok s ∧ build bySection = .ok s' ∧ s.lines = s'.lines ∧
        s.lines =
          ["precision highp float;", "uniform float gain;", "uniform vec3 color;",
            "const float limit = 1.0;", "void main(void) \x7b", "    if (gain > limit) \x7b",
            "        discard;", "    \x7d", "    gl_FragColor = vec4(color, 1.0);", "\x7d"] ∧
        (statementLines 1 (scattered.filter Call.isStatement))[1]? = some "        discard;" := by
  have hconsistent : Consistent scattered := by
    rw [consistent_iff]
    decide
  have hnested : Nested (scattered.filter Call.isStatement) := by
    intro place
    have hfew : ∀ few ≤ 4, ((scattered.filter Call.isStatement).take few).countP Call.closes ≤
        ((scattered.filter Call.isStatement).take few).countP Call.opens := by
      decide
    rcases Nat.le_total place 4 with hplace | hplace
    · exact hfew place hplace
    · rw [List.take_of_length_le hplace]
      exact hfew 4 le_rfl
  have hdirectives : scattered.filterMap Call.directive? = bySection.filterMap Call.directive? :=
    rfl
  obtain ⟨s, s', hs, hs', hsame, hlines, hindented⟩ :=
    lines_of_alike hconsistent hdirectives rfl rfl rfl
  refine ⟨hconsistent, hnested, s, s', hs, hs', hsame, hlines.trans ?_, ?_⟩
  · decide +kernel
  · exact hindented hnested 1

end Stage

end SceneRenderer.Shader
