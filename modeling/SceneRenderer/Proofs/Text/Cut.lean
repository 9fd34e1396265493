import Mathlib.Data.List.Basic
import Mathlib.Data.List.DropRight
import SceneRenderer.Text.Basic

/-!
Texts cut into parts. Lists are cut in two where a property of their elements changes, and equal
lists that are cut at the same places have equal parts. Words with one blank between them are the
words of their text, however far it is indented.
-/

set_option autoImplicit false
set_option relaxedAutoImplicit false

namespace SceneRenderer.Text

variable {α β : Type}

/-- A cut before the first element without the property. -/
theorem cut_append {p : α → Bool} {front back : List α} (hfront : ∀ x ∈ front, p x)
    (hback : ∀ x ∈ back.head?, p x = false) :
    (front ++ back).takeWhile p = front ∧ (front ++ back).dropWhile p = back := by
  induction front with
  | nil =>
    cases back with
    | nil => exact ⟨rfl, rfl⟩
    | cons x rest =>
      have hx : p x = false := hback x rfl
      exact ⟨List.takeWhile_cons_of_neg (by simp [hx]), List.dropWhile_cons_of_neg (by simp [hx])⟩
  | cons x rest ih =>
    obtain ⟨htake, hdrop⟩ := ih fun y hy ↦ hfront y (List.mem_cons_of_mem _ hy)
    have hx : p x := hfront x List.mem_cons_self
    rw [List.cons_append, List.takeWhile_cons_of_pos hx, List.dropWhile_cons_of_pos hx, htake]
    exact ⟨rfl, hdrop⟩

/-- A cut after the last element without the property. -/
theorem rcut_append {p : α → Bool} {front back : List α}
    (hfront : ∀ h : front ≠ [], ¬ p (front.getLast h)) (hback : ∀ x ∈ back, p x) :
    (front ++ back).rdropWhile p = front ∧ (front ++ back).rtakeWhile p = back := by
  induction back using List.reverseRecOn with
  | nil =>
    rw [List.append_nil]
    exact ⟨List.rdropWhile_eq_self_iff.mpr hfront, List.rtakeWhile_eq_nil_iff.mpr hfront⟩
  | append_singleton rest x ih =>
    obtain ⟨hdrop, htake⟩ := ih fun y hy ↦ hback y (List.mem_append_left _ hy)
    have hx : p x := hback x (by simp)
    rw [← List.append_assoc, List.rdropWhile_concat_pos _ _ _ hx,
      List.rtakeWhile_concat_pos _ _ _ hx]
    exact ⟨hdrop, by rw [htake]⟩

/-- The first separator cuts equal lists in equal parts. -/
theorem separator_inj [DecidableEq α] {separator : α} {front back front' back' : List α}
    (hfront : separator ∉ front) (hfront' : separator ∉ front')
    (heq : front ++ separator :: back = front' ++ separator :: back') :
    front = front' ∧ back = back' := by
  have hcut (l rest : List α) (hl : separator ∉ l) :
      (l ++ separator :: rest).takeWhile (· ≠ separator) = l ∧
        (l ++ separator :: rest).dropWhile (· ≠ separator) = separator :: rest :=
    cut_append (fun x hx ↦ by simpa using fun h : x = separator ↦ hl (h ▸ hx)) (by simp)
  obtain ⟨htake, hdrop⟩ := hcut front back hfront
  obtain ⟨htake', hdrop'⟩ := hcut front' back' hfront'
  rw [heq, htake'] at htake
  rw [heq, hdrop'] at hdrop
  exact ⟨htake.symm, (List.cons.inj hdrop.symm).2⟩

/-- A function that tells the elements of two lists apart tells the lists apart. -/
theorem map_inj_of_mem {f : α → β} {l m : List α} (hinj : ∀ x ∈ l, ∀ y ∈ m, f x = f y → x = y)
    (heq : l.map f = m.map f) : l = m := by
  induction l generalizing m with
  | nil => simpa [eq_comm] using heq
  | cons x rest ih =>
    cases m with
    | nil => simp at heq
    | cons y others =>
      rw [List.map_cons, List.map_cons] at heq
      obtain ⟨hhead, htail⟩ := List.cons.inj heq
      rw [hinj x List.mem_cons_self y List.mem_cons_self hhead,
        ih (fun z hz w hw ↦ hinj z (List.mem_cons_of_mem _ hz) w (List.mem_cons_of_mem _ hw)) htail]

/-- Blocks of pairwise equal lengths can be told apart in their concatenation. -/
theorem flatMap_inj {f g : α → List β} {l : List α} (hlength : ∀ x ∈ l, (f x).length = (g x).length)
    (heq : l.flatMap f = l.flatMap g) : ∀ x ∈ l, f x = g x := by
  induction l with
  | nil => exact fun x hx ↦ absurd hx List.not_mem_nil
  | cons y rest ih =>
    rw [List.flatMap_cons, List.flatMap_cons] at heq
    obtain ⟨hhead, htail⟩ := List.append_inj heq (hlength y List.mem_cons_self)
    intro x hx
    rcases List.mem_cons.mp hx with hxy | hrest
    · exact hxy ▸ hhead
    · exact ih (fun z hz ↦ hlength z (List.mem_cons_of_mem _ hz)) htail x hrest

/-! ### Words -/

theorem isBlank_of_isDigit {c : Char} (hc : c.isDigit = true) : isBlank c = false := by
  have hrange : 48 ≤ c.toNat ∧ c.toNat ≤ 57 := by
    simp only [Char.isDigit, Bool.and_eq_true, decide_eq_true_eq, UInt32.le_iff_toNat_le] at hc
    exact hc
  have hne {d : Char} (hd : d.toNat < 48 ∨ 57 < d.toNat) : (c == d) = false := by
    rw [beq_eq_false_iff_ne]
    rintro rfl
    omega
  have hcut {a b : Char} (hab : b.toNat < 48 ∨ 57 < a.toNat) :
      (decide (a ≤ c) && decide (c ≤ b)) = false := by
    rw [Bool.and_eq_false_iff, decide_eq_false_iff_not, decide_eq_false_iff_not, Char.le_def,
      Char.le_def, UInt32.le_iff_toNat_le, UInt32.le_iff_toNat_le]
    change ¬a.toNat ≤ c.toNat ∨ ¬c.toNat ≤ b.toNat
    omega
  unfold isBlank
  simp only [hne (d := ' ') (by decide), hne (d := '\u0085') (by decide),
    hne (d := '\u00a0') (by decide), hne (d := '\u1680') (by decide),
    hne (d := '\u2028') (by decide), hne (d := '\u2029') (by decide),
    hne (d := '\u202f') (by decide), hne (d := '\u205f') (by decide),
    hne (d := '\u3000') (by decide), hcut (a := '\t') (b := '\r') (by decide),
    hcut (a := '\u2000') (b := '\u200a') (by decide), Bool.or_false]

theorem breakBlanks_append {word : List Char} (hword : ∀ c ∈ word, isBlank c = false)
    (rest : List Char) : ∃ first others, breakBlanks rest = first :: others ∧
      breakBlanks (word ++ rest) = (word ++ first) :: others := by
  induction word with
  | nil =>
    cases rest with
    | nil => exact ⟨[], [], rfl, rfl⟩
    | cons c rest =>
      rw [List.nil_append, breakBlanks]
      split
      · exact ⟨_, _, rfl, rfl⟩
      · split <;> exact ⟨_, _, rfl, rfl⟩
  | cons c word ih =>
    obtain ⟨first, others, hrest, hbroken⟩ := ih fun d hd ↦ hword d (List.mem_cons_of_mem _ hd)
    refine ⟨first, others, hrest, ?_⟩
    rw [List.cons_append, breakBlanks, hbroken]
    simp only [hword c List.mem_cons_self, Bool.false_eq_true, if_false]
    rfl

theorem words_cons {word : List Char} (hword : ∀ c ∈ word, isBlank c = false) (hsome : word ≠ [])
    (rest : List Char) : words (word ++ ' ' :: rest) = word :: words rest := by
  obtain ⟨first, others, hspace, hbroken⟩ := breakBlanks_append hword (' ' :: rest)
  obtain ⟨first', others', hrest, hrest'⟩ := breakBlanks_append (List.forall_mem_nil _) rest
  have hempty : breakBlanks (' ' :: rest) = [] :: breakBlanks rest := by
    rw [breakBlanks, hrest]
    rfl
  rw [hempty] at hspace
  obtain ⟨rfl, rfl⟩ := List.cons.inj hspace
  rw [words, hbroken, List.append_nil, List.filter_cons_of_pos (by simpa using hsome)]
  rfl

theorem words_blank (rest : List Char) : words (' ' :: rest) = words rest := by
  obtain ⟨first, others, hrest, _⟩ := breakBlanks_append (List.forall_mem_nil _) rest
  rw [words, breakBlanks, hrest]
  show List.filter _ ([] :: first :: others) = _
  rw [words, hrest, List.filter_cons_of_neg (by simp)]

def isPlainWord (word : List Char) : Bool := !word.isEmpty && word.all (!isBlank ·)

/-- Words with a blank between them are read one by one. -/
theorem words_intercalate {ws : List (List Char)} (hws : ∀ w ∈ ws, isPlainWord w = true) :
    words ([' '].intercalate ws) = ws := by
  induction ws with
  | nil => rfl
  | cons w rest ih =>
    obtain ⟨hsome, hw⟩ : w ≠ [] ∧ ∀ c ∈ w, isBlank c = false := by
      simpa [isPlainWord] using hws w List.mem_cons_self
    have hrest := ih fun v hv ↦ hws v (List.mem_cons_of_mem _ hv)
    cases rest with
    | nil =>
      obtain ⟨first, others, hnil, hbroken⟩ := breakBlanks_append hw []
      obtain ⟨rfl, rfl⟩ := List.cons.inj hnil
      rw [List.append_nil] at hbroken
      rw [List.intercalate_singleton, words, hbroken,
        List.filter_cons_of_pos (by simpa using hsome)]
      rfl
    | cons v others =>
      rw [List.intercalate_cons_cons, List.append_assoc, List.singleton_append, words_cons hw hsome,
        hrest]

theorem words_spaces {spaces : List Char} (hspaces : ∀ c ∈ spaces, c = ' ') (rest : List Char) :
    words (spaces ++ rest) = words rest := by
  induction spaces with
  | nil => rfl
  | cons c spaces ih =>
    rw [hspaces c List.mem_cons_self, List.cons_append, words_blank,
      ih fun d hd ↦ hspaces d (List.mem_cons_of_mem _ hd)]

end SceneRenderer.Text
