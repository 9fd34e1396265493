import SceneRenderer.Proofs.Shader.CanonicalKey
import SceneRenderer.Proofs.Shader.Scoped

/-!
The sections of a stage in front of its main function, under the check of scopes. Directives and
declarations use nothing. Definitions stand in the order of their first requests, so that each finds
what the requests before it have made visible (`Stage.Defined.run`).
-/

set_option autoImplicit false
set_option relaxedAutoImplicit false

namespace SceneRenderer.Shader

/-! ### Runs -/

namespace Known

variable {k k' : Known} {requests : List Request}

theorem run_le (hrun : k.run requests = some k') : k.Le k' := by
  obtain ⟨K', hK', hahead⟩ := run_mono (Le.refl k) rfl hrun
  rw [hrun] at hK'
  exact Option.some.inj hK' ▸ hahead.grows

/-- What a request makes visible is visible behind the run. -/
theorem newFile_subset (hrun : k.run requests = some k') {r : Request} (hr : r ∈ requests) :
    ∃ e, r.effect? = some e ∧ e.newFile ⊆ k'.file := by
  induction requests generalizing k with
  | nil => exact absurd hr List.not_mem_nil
  | cons first rest ih =>
    obtain ⟨next, hnext, hrest⟩ := run_cons.mp hrun
    rcases List.mem_cons.mp hr with rfl | hr
    · obtain ⟨e, he, _, rfl⟩ := step_eq.mp hnext
      exact ⟨e, he, List.Subset.trans (List.subset_append_right _ _) (run_le hrest).file⟩
    · exact ih hrest hr

end Known

/-! ### Directives and declarations -/

namespace AtFile

variable {c : Checker} {k : Known}

theorem directives (hc : AtFile c k) {lines : List String}
    (hlines : ∀ line ∈ lines, (directiveMacros? line.toList).isSome = true) :
    ∃ c' file, Passes c lines c' ∧ AtFile c' { k with file } ∧ k.file ⊆ file ∧
      ∀ line ∈ lines, ∀ words, directiveMacros? line.toList = some words → words ⊆ file := by
  induction lines generalizing c k with
  | nil =>
    exact ⟨c, k.file, .nil c, hc, List.Subset.refl _, fun _ h ↦ absurd h List.not_mem_nil⟩
  | cons line rest ih =>
    obtain ⟨words, hwords⟩ := Option.isSome_iff_exists.mp (hlines line List.mem_cons_self)
    obtain ⟨c₁, hfirst, hc₁⟩ := hc.directive hwords
    obtain ⟨c₂, file, hrest, hc₂, hmore, hall⟩ :=
      ih hc₁ fun other hother ↦ hlines other (List.mem_cons_of_mem _ hother)
    obtain ⟨hold, hnew⟩ := List.append_subset.mp hmore
    refine ⟨c₂, file, hfirst.append hrest, hc₂, hold, List.forall_mem_cons.mpr ⟨?_, hall⟩⟩
    intro words' hwords'
    obtain rfl := Option.some.inj (hwords.symm.trans hwords')
    exact hnew

theorem declarations (hc : AtFile c k) {ds : List Declaration}
    (hds : ∀ d ∈ ds, ∃ (q : Qualifier) (type : GlslType) (n : Name), d = ⟨q, type.text, n.text⟩) :
    ∃ c' file, Passes c (ds.map Declaration.line) c' ∧ AtFile c' { k with file } ∧ k.file ⊆ file ∧
      ∀ d ∈ ds, ∀ n : Name, d.name = n.text → .name n ∈ file := by
  induction ds generalizing c k with
  | nil =>
    exact ⟨c, k.file, .nil c, hc, List.Subset.refl _, fun _ h ↦ absurd h List.not_mem_nil⟩
  | cons d rest ih =>
    obtain ⟨q, type, n, rfl⟩ := hds d List.mem_cons_self
    obtain ⟨c₁, hfirst, hc₁⟩ := hc.declaration q type n
    obtain ⟨c₂, file, hrest, hc₂, hmore, hall⟩ :=
      ih hc₁ fun other hother ↦ hds other (List.mem_cons_of_mem _ hother)
    obtain ⟨hold, hnew⟩ := List.append_subset.mp hmore
    refine ⟨c₂, file, hfirst.append hrest, hc₂, hold, List.forall_mem_cons.mpr ⟨?_, hall⟩⟩
    intro m hm
    obtain rfl := Name.text_injective hm
    exact hnew List.mem_cons_self

end AtFile

/-! ### Definitions -/

/-- The name of a definition tells whether it is a struct. -/
theorem PreludeItem.isStruct_name (i : PreludeItem) :
    SceneRenderer.Shader.isStruct i.name.toList = i.isStruct := by
  cases i
  case computeShadow filter =>
    change SceneRenderer.Shader.isStruct "computeShadow".toList = false
    rw [String.toList_ofList]
    decide
  all_goals
    simp only [PreludeItem.name]
    rw [String.toList_ofList]
    decide

theorem Outline.effect_congr {o o' : Outline} (htype : o.isType = o'.isType)
    (hname : o.name = o'.name) :
    o.effect.newStructs = o'.effect.newStructs ∧ o.effect.newFile = o'.effect.newFile := by
  simp [Outline.effect, htype, hname]

/-- The name of a definition tells what it makes visible. -/
theorem PreludeItem.effect_congr {i j : PreludeItem} (hname : i.name = j.name) :
    i.outline.effect.newStructs = j.outline.effect.newStructs ∧
      i.outline.effect.newFile = j.outline.effect.newFile := by
  have htype : i.isStruct = j.isStruct := by
    rw [← i.isStruct_name, ← j.isStruct_name, hname]
  exact Outline.effect_congr htype (congrArg String.toList hname)

/-- A request of code for the main function. -/
def Request.isCode : Request → Bool
  | .statement _ | .openBlock _ | .closeBlock => true
  | .directive _ | .declare _ | .define _ => false

/-- Code makes nothing visible outside of the main function. -/
theorem Request.closed_of_isCode {r : Request} (hr : r.isCode = true) {e : Effect}
    (he : r.effect? = some e) : e.newStructs = [] ∧ e.newFile = [] := by
  cases r with
  | statement line =>
    obtain ⟨_, _, rfl⟩ := Option.map_eq_some_iff.mp he
    exact ⟨rfl, rfl⟩
  | openBlock header =>
    obtain ⟨_, _, he⟩ := Option.bind_eq_some_iff.mp he
    obtain ⟨_, he⟩ := Option.ite_none_right_eq_some.mp he
    obtain rfl := Option.some.inj he
    exact ⟨rfl, rfl⟩
  | closeBlock =>
    obtain rfl := Option.some.inj he
    exact ⟨rfl, rfl⟩
  | directive _ | declare _ | define _ => cases hr

/-- Only definitions make structs visible. -/
theorem Request.newStructs_eq_nil {r : Request} (hr : ∀ o, r ≠ .define o) {e : Effect}
    (he : r.effect? = some e) : e.newStructs = [] := by
  cases r with
  | directive line =>
    obtain ⟨_, _, rfl⟩ := Option.map_eq_some_iff.mp he
    rfl
  | declare n =>
    obtain rfl := Option.some.inj he
    rfl
  | define o => exact absurd rfl (hr o)
  | statement _ | openBlock _ | closeBlock => exact (Request.closed_of_isCode rfl he).1

namespace Stage

variable {s t : Stage} {k k' seen : Known} {c : Checker}

theorem definitions_of_apply {call : Call} (happly : s.apply call = .ok t)
    (hcall : call.definition? = none) : t.definitions = s.definitions := by
  cases call with
  | directive line =>
    obtain rfl := Except.ok.inj happly
    split <;> rfl
  | declare d =>
    rw [apply] at happly
    split at happly
    · split at happly
      · obtain rfl := Except.ok.inj happly
        rfl
      · contradiction
    · obtain rfl := Except.ok.inj happly
      rfl
  | define d => exact absurd hcall (Option.some_ne_none d)
  | statement line | openBlock header | closeBlock =>
    obtain rfl := Except.ok.inj happly
    rfl

/-- Between two requests, the definitions that a stage has let the check see all that the requests
have made visible. -/
structure Defined (s : Stage) (k : Known) (c : Checker) (seen : Known) : Prop where
  atFile : AtFile c seen
  structs : k.structs ⊆ seen.structs
  file : k.file ⊆ seen.file
  items : ∀ d ∈ s.definitions, ∀ i : PreludeItem, i.name = d.name →
    i.outline.effect.newStructs ⊆ seen.structs ∧ i.outline.effect.newFile ⊆ seen.file

namespace Defined

/-- A definition that the stage has already is visible. -/
theorem known (h : Defined s k c seen) {i : PreludeItem} (hi : s.hasDefinition i.name = true) :
    Defined s (k.after i.outline.effect) c seen := by
  obtain ⟨d, hd, hname⟩ := List.any_eq_true.mp hi
  obtain ⟨hstructs, hfile⟩ := h.items d hd i (beq_iff_eq.mp hname).symm
  exact ⟨h.atFile, List.append_subset.mpr ⟨h.structs, hstructs⟩,
    List.append_subset.mpr ⟨h.file, hfile⟩, h.items⟩

/-- A definition that the stage takes up finds what it uses. -/
theorem item (h : Defined s k c seen) {i : PreludeItem} (hfinite : i.IsFinite)
    (hallows : k.Allows i.outline.effect) :
    ∃ c', Defined { s with definitions := s.definitions ++ [⟨i.name, i.source⟩] }
        (k.after i.outline.effect) c' (seen.after i.outline.effect) ∧
      Passes c (splitLines i.source) c' := by
  have hsees : seen.Allows i.outline.effect :=
    ⟨List.Subset.trans hallows.structs h.structs, List.Subset.trans hallows.words h.file,
      List.forall_mem_nil _, .inr rfl, Nat.zero_le _⟩
  obtain ⟨c', hpasses, hc'⟩ := h.atFile.item hfinite hsees
  have hboth {α : Type} {a b : List α} (hab : a ⊆ b) (more : List α) : a ++ more ⊆ b ++ more :=
    List.append_subset.mpr ⟨List.subset_append_of_subset_left _ hab, List.subset_append_right _ _⟩
  refine ⟨c', ⟨hc', hboth h.structs _, hboth h.file _, ?_⟩, hpasses⟩
  refine List.forall_mem_append.mpr ⟨fun d hd j hj ↦ ?_, ?_⟩
  · obtain ⟨hstructs, hfile⟩ := h.items d hd j hj
    exact ⟨List.subset_append_of_subset_left _ hstructs,
      List.subset_append_of_subset_left _ hfile⟩
  · rw [List.forall_mem_singleton]
    intro j hj
    obtain ⟨hstructs, hfile⟩ := PreludeItem.effect_congr hj
    rw [hstructs, hfile]
    exact ⟨List.subset_append_right _ _, List.subset_append_right _ _⟩

/-- Any other request leaves the definitions alone. -/
theorem other (h : Defined s k c seen) {r : Record} (hr : ∀ i, r ≠ .define i)
    (happly : s.apply r.toCall = .ok t) {e : Effect} (he : r.request.effect? = some e)
    (hfile : e.newFile ⊆ seen.file) :
    Defined t (k.after e) c seen ∧ t.definitions = s.definitions := by
  have hrequest : ∀ o, r.request ≠ .define o := by
    intro o ho
    cases r with
    | define i => exact hr i rfl
    | _ => exact Request.noConfusion ho
  have hsame : t.definitions = s.definitions := by
    refine definitions_of_apply happly ?_
    cases r with
    | define i => exact absurd rfl (hr i)
    | _ => rfl
  have hstructs : e.newStructs ⊆ seen.structs := by
    rw [Request.newStructs_eq_nil hrequest he]
    exact List.nil_subset _
  exact ⟨⟨h.atFile, List.append_subset.mpr ⟨h.structs, hstructs⟩,
    List.append_subset.mpr ⟨h.file, hfile⟩, hsame ▸ h.items⟩, hsame⟩

/-- A request adds no definition, or one that finds what it uses. -/
theorem step (h : Defined s k c seen) {r : Record} (happly : s.apply r.toCall = .ok t)
    (hstep : k.step r.request = some k') (hfinite : ∀ i, r = .define i → i.IsFinite)
    (hglobals : (∀ i, r ≠ .define i) → ∀ e, r.request.effect? = some e → e.newFile ⊆ seen.file) :
    ∃ c' seen' more, Defined t k' c' seen' ∧ seen.file ⊆ seen'.file ∧ Passes c more c' ∧
      t.definitionLines = s.definitionLines ++ more := by
  obtain ⟨e, he, hallows, rfl⟩ := Known.step_eq.mp hstep
  by_cases hdefine : ∃ i, r = .define i
  · obtain ⟨i, rfl⟩ := hdefine
    obtain rfl : i.outline.effect = e := Option.some.inj he
    obtain rfl := Except.ok.inj happly
    split
    · rename_i hi
      exact ⟨c, seen, [], h.known hi, List.Subset.refl _, .nil c, (List.append_nil _).symm⟩
    · obtain ⟨c', hdefined, hpasses⟩ := h.item (hfinite i rfl) hallows
      refine ⟨c', _, _, hdefined, List.subset_append_left _ _, hpasses, ?_⟩
      rw [definitionLines, List.flatMap_append, List.flatMap_singleton]
      rfl
  · have hr : ∀ i, r ≠ .define i := fun i hi ↦ hdefine ⟨i, hi⟩
    obtain ⟨hdefined, hsame⟩ := h.other hr happly he (hglobals hr e he)
    refine ⟨c, seen, [], hdefined, List.Subset.refl _, .nil c, ?_⟩
    rw [definitionLines, definitionLines, hsame, List.append_nil]

/-- The definitions of a stage find what they use. -/
theorem run (h : Defined s k c seen) {records : List Record}
    (happly : s.applyAll (records.map Record.toCall) = .ok t)
    (hrun : k.run (records.map Record.request) = some k')
    (hfinite : ∀ i, .define i ∈ records → i.IsFinite)
    (hglobals : ∀ r ∈ records, (∀ i, r ≠ .define i) →
      ∀ e, r.request.effect? = some e → e.newFile ⊆ seen.file) :
    ∃ c' seen' more, Defined t k' c' seen' ∧ Passes c more c' ∧
      t.definitionLines = s.definitionLines ++ more := by
  induction records generalizing s k c seen with
  | nil =>
    obtain rfl := Except.ok.inj happly
    obtain rfl := Option.some.inj hrun
    exact ⟨c, seen, [], h, .nil c, (List.append_nil _).symm⟩
  | cons r rest ih =>
    obtain ⟨next, hnext, hrest⟩ := Known.run_cons.mp hrun
    rw [List.map_cons, applyAll, List.foldlM_cons] at happly
    rcases hstep : s.apply r.toCall with fault | middle
    · rw [hstep] at happly
      contradiction
    · rw [hstep] at happly
      obtain ⟨c₁, seen₁, first, h₁, hmore, hfirst, hlines⟩ := h.step hstep hnext
        (fun i hi ↦ hfinite i (hi ▸ List.mem_cons_self)) (hglobals r List.mem_cons_self)
      obtain ⟨c₂, seen₂, others, h₂, hothers, hlines'⟩ := ih h₁ happly hrest
        (fun i hi ↦ hfinite i (List.mem_cons_of_mem _ hi))
        (fun r' hr' hi e he ↦ List.Subset.trans
          (hglobals r' (List.mem_cons_of_mem _ hr') hi e he) hmore)
      refine ⟨c₂, seen₂, first ++ others, h₂, hfirst.append hothers, ?_⟩
      rw [hlines', hlines, List.append_assoc]

end Defined

end Stage

end SceneRenderer.Shader
