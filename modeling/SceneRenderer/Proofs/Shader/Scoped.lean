import SceneRenderer.Proofs.Shader.Definitions

/-!
Records under the check of scopes. `Scoped needs records provides locals` says that records find
whatever they use, as long as they find `needs`; that `provides` is visible behind them; and that
among the locals they declare no local occurs that is not listed, or occurs more often.

Records are checked in pieces: a piece of which all texts are known by evaluation
(`Scoped.of_check`), and pieces in a row by what the earlier ones provide (`Scoped.append`).
-/

set_option autoImplicit false
set_option relaxedAutoImplicit false

namespace SceneRenderer.Shader

/-- The record with its text spelled out. -/
def Record.request : Record → Request
  | directive line => .directive line.toList
  | declare _ _ n => .declare n
  | define item => .define item.outline
  | statement line => .statement (line.map Piece.chunk)
  | openBlock header => .openBlock (header.map Piece.chunk)
  | closeBlock => .closeBlock

/-! ### What is visible -/

namespace Known

/-- What is visible on either side. -/
instance : Append Known :=
  ⟨fun a b ↦ ⟨a.structs ++ b.structs, a.file ++ b.file, a.main ++ b.main, 0⟩⟩

variable {a b c k k' k'' : Known}

@[simp] theorem structs_append (a b : Known) : (a ++ b).structs = a.structs ++ b.structs := rfl

@[simp] theorem file_append (a b : Known) : (a ++ b).file = a.file ++ b.file := rfl

@[simp] theorem main_append (a b : Known) : (a ++ b).main = a.main ++ b.main := rfl

theorem le_append_left (a b : Known) : a.Le (a ++ b) :=
  ⟨List.subset_append_left _ _, List.subset_append_left _ _, List.subset_append_left _ _⟩

theorem le_append_right (a b : Known) : b.Le (a ++ b) :=
  ⟨List.subset_append_right _ _, List.subset_append_right _ _, List.subset_append_right _ _⟩

theorem append_le (ha : a.Le c) (hb : b.Le c) : (a ++ b).Le c :=
  ⟨List.append_subset.mpr ⟨ha.structs, hb.structs⟩, List.append_subset.mpr ⟨ha.file, hb.file⟩,
    List.append_subset.mpr ⟨ha.main, hb.main⟩⟩

theorem le_append_of_left (hab : a.Le b) (c : Known) : a.Le (b ++ c) :=
  hab.trans (le_append_left b c)

theorem le_append_of_right (hac : a.Le c) (b : Known) : a.Le (b ++ c) :=
  hac.trans (le_append_right b c)

theorem empty_le (k : Known) : Le {} k :=
  ⟨List.nil_subset _, List.nil_subset _, List.nil_subset _⟩

/-- Behind some records more is visible, and some locals are declared. -/
structure Grown (k k' : Known) (locals : List Symbol) : Prop where
  depth : k'.depth = 0
  le : k.Le k'
  main : ∃ words : List Symbol, words.Sublist locals ∧ k'.main = k.main ++ words

theorem Grown.trans {locals locals' : List Symbol} (hfirst : Grown k k' locals)
    (hsecond : Grown k' k'' locals') : Grown k k'' (locals ++ locals') := by
  obtain ⟨words, hwords, hmain⟩ := hfirst.main
  obtain ⟨words', hwords', hmain'⟩ := hsecond.main
  refine ⟨hsecond.depth, hfirst.le.trans hsecond.le, words ++ words', hwords.append hwords', ?_⟩
  rw [hmain', hmain, List.append_assoc]

/-- Requests run from what they need, and leave what they provide and declare. -/
def leaves (needs : Known) (requests : List Request) (provides : Known) (locals : List Symbol) :
    Bool :=
  match needs.run requests with
  | some k =>
    decide (k.depth = 0) && decide (provides.structs ⊆ k.structs) &&
      decide (provides.file ⊆ k.file) && decide (provides.main ⊆ k.main) &&
      decide ((k.main.drop needs.main.length).Sublist locals)
  | none => false

/-- Requests leave under other names what they leave under their own. -/
theorem leaves_rename (g : Name → Name) {needs provides : Known} {requests : List Request}
    {locals : List Symbol} (hleaves : needs.leaves requests provides locals = true) :
    (needs.rename g).leaves (requests.map (Request.rename g)) (provides.rename g)
      (locals.map (Symbol.rename g)) = true := by
  unfold leaves at hleaves ⊢
  split at hleaves
  · rename_i last hrun
    simp only [Bool.and_eq_true, decide_eq_true_eq] at hleaves
    obtain ⟨⟨⟨⟨hlast, hstructs⟩, hfile⟩, hmain⟩, hlocals⟩ := hleaves
    rw [run_rename g hrun]
    simp only [Bool.and_eq_true, decide_eq_true_eq]
    refine ⟨⟨⟨⟨hlast, hstructs⟩, List.map_subset _ hfile⟩, List.map_subset _ hmain⟩, ?_⟩
    simp only [Known.rename, List.length_map, ← List.map_drop]
    exact hlocals.map _
  · exact absurd hleaves Bool.false_ne_true

end Known

open Known

/-- Records find what they use where they find what they need, and provide something to others. -/
def Scoped (needs : Known) (records : List Record) (provides : Known) (locals : List Symbol) :
    Prop :=
  ∀ k : Known, needs.Le k → k.depth = 0 →
    ∃ k', k.run (records.map Record.request) = some k' ∧ provides.Le k' ∧ Grown k k' locals

namespace Scoped

variable {needs needs' provides provides' : Known} {records front back : List Record}
  {locals locals' : List Symbol}

theorem of_leaves (hdepth : needs.depth = 0)
    (hleaves : needs.leaves (records.map Record.request) provides locals = true) :
    Scoped needs records provides locals := by
  intro k hle hk
  unfold leaves at hleaves
  split at hleaves
  · rename_i last hrun
    simp only [Bool.and_eq_true, decide_eq_true_eq] at hleaves
    obtain ⟨⟨⟨⟨hlast, hstructs⟩, hfile⟩, hmain⟩, hlocals⟩ := hleaves
    obtain ⟨k', hk', hahead⟩ := run_mono hle (hdepth.trans hk.symm) hrun
    obtain ⟨words, hwords, hwords'⟩ := hahead.locals
    rw [hwords, List.drop_left] at hlocals
    exact ⟨k', hk', Le.trans ⟨hstructs, hfile, hmain⟩ hahead.le, hahead.depth ▸ hlast, hahead.grows,
      words, hlocals, hwords'⟩
  · exact absurd hleaves Bool.false_ne_true

/-- Records that are others under other names, which are no names of what they need. -/
theorem of_leaves_rename (g : Name → Name) (provides : Known) (locals : List Symbol)
    (hdepth : needs.depth = 0) (hneeds : needs.rename g = needs)
    (hleaves : needs.leaves (front.map Record.request) provides locals = true)
    (hrecords : records.map Record.request = (front.map Record.request).map (Request.rename g)) :
    Scoped needs records (provides.rename g) (locals.map (Symbol.rename g)) := by
  have hrenamed := leaves_rename g hleaves
  rw [← hrecords, hneeds] at hrenamed
  exact of_leaves hdepth hrenamed

theorem weaken (h : Scoped needs records provides locals) (hneeds : needs.Le needs')
    (hprovides : provides'.Le provides) (hlocals : locals.Sublist locals') :
    Scoped needs' records provides' locals' := by
  intro k hle hk
  obtain ⟨k', hrun, hprovided, hgrown⟩ := h k (hneeds.trans hle) hk
  obtain ⟨words, hwords, hmain⟩ := hgrown.main
  exact ⟨k', hrun, hprovides.trans hprovided, hgrown.depth, hgrown.le, words,
    hwords.trans hlocals, hmain⟩

theorem nil : Scoped needs [] {} [] := fun k _ hk ↦
  ⟨k, rfl, empty_le k, hk, Le.refl k, [], List.Sublist.refl _, (List.append_nil _).symm⟩

/-- Records in a row. The later ones find what the earlier ones needed and provide. -/
theorem append {middle : Known} (hfront : Scoped needs front provides locals)
    (hback : Scoped middle back provides' locals') (hmiddle : middle.Le (needs ++ provides)) :
    Scoped needs (front ++ back) (provides ++ provides') (locals ++ locals') := by
  intro k hle hk
  obtain ⟨k', hrun, hprovided, hgrown⟩ := hfront k hle hk
  obtain ⟨k'', hrun', hprovided', hgrown'⟩ := hback k'
    (hmiddle.trans (append_le (hle.trans hgrown.le) hprovided)) hgrown.depth
  refine ⟨k'', ?_, append_le (hprovided.trans hgrown'.le) hprovided', hgrown.trans hgrown'⟩
  rw [List.map_append]
  exact run_append.mpr ⟨k', hrun, hrun'⟩

/-- Records of which no others need anything. -/
theorem also {middle : Known} (hfront : Scoped needs front provides locals)
    (hback : Scoped middle back {} locals') (hmiddle : middle.Le (needs ++ provides)) :
    Scoped needs (front ++ back) provides (locals ++ locals') :=
  (hfront.append hback hmiddle).weaken (Le.refl _) (le_append_left _ _) (List.Sublist.refl _)

/-- Records that share something which no others need. -/
theorem within {shared : Known} (hfront : Scoped {} front shared locals)
    (hback : Scoped (needs ++ shared) back {} locals') :
    Scoped needs (front ++ back) {} (locals ++ locals') :=
  ((hfront.weaken (empty_le needs) (Le.refl _) (List.Sublist.refl _)).append hback
    (Le.refl _)).weaken (Le.refl _) (empty_le _) (List.Sublist.refl _)

/-- Records of a feature. -/
theorem appendIf {middle : Known} {enabled : Bool} (hfront : Scoped needs front provides locals)
    (hback : enabled = true → Scoped middle back provides' locals')
    (hmiddle : enabled = true → middle.Le (needs ++ provides)) :
    Scoped needs (front ++ SceneRenderer.Shader.onlyIf enabled back)
      (provides ++ if enabled then provides' else {}) (locals ++ locals') := by
  cases enabled with
  | true => exact hfront.append (hback rfl) (hmiddle rfl)
  | false =>
    exact hfront.append (nil.weaken (Le.refl _) (Le.refl _) (List.nil_sublist _)) (empty_le _)

/-- Records of a feature, of which no others need anything. -/
theorem alsoIf {middle : Known} {enabled : Bool} (hfront : Scoped needs front provides locals)
    (hback : enabled = true → Scoped middle back {} locals')
    (hmiddle : enabled = true → middle.Le (needs ++ provides)) :
    Scoped needs (front ++ SceneRenderer.Shader.onlyIf enabled back) provides (locals ++ locals') :=
  (hfront.appendIf hback hmiddle).weaken (Le.refl _) (le_append_left _ _) (List.Sublist.refl _)

/-- Records of a feature that stand alone. -/
theorem onlyIf {enabled : Bool} (h : enabled = true → Scoped needs records {} locals) :
    Scoped needs (SceneRenderer.Shader.onlyIf enabled records) {} locals :=
  nil.alsoIf h fun _ ↦ le_append_left _ _

theorem flatMap {α : Type} {l : List α} {f : α → List Record} {g : α → List Symbol}
    (h : ∀ x ∈ l, Scoped needs (f x) {} (g x)) : Scoped needs (l.flatMap f) {} (l.flatMap g) := by
  induction l with
  | nil => exact nil
  | cons x rest ih =>
    rw [List.flatMap_cons, List.flatMap_cons]
    have hrest := ih fun y hy ↦ h y (List.mem_cons_of_mem _ hy)
    exact ((h x List.mem_cons_self).append hrest (le_append_left _ _)).weaken (Le.refl _)
      (empty_le _) (List.Sublist.refl _)

end Scoped

end SceneRenderer.Shader
