import SceneRenderer.Proofs.Text.Cut
import SceneRenderer.Toml.Parser

/-!
Taking a document apart line by line. A plain key with a value is read as an entry and a plain name
in brackets as a header (`isLine_entry`, `isLine_header`); so a text that is made of such lines has
them as its lines (`documentLines?_eq`).
-/

set_option autoImplicit false
set_option relaxedAutoImplicit false

namespace SceneRenderer.Toml

open Text

/-! ### Blanks, comments and line ends -/

/-- Characters that a line may begin with and that belong to no comment. -/
def isVisible (c : Char) : Bool := !isSpace c && c != '#' && c != '\n' && c != '\r'

theorem isVisible_of_isKeyChar {c : Char} (hc : isKeyChar c = true) : isVisible c = true := by
  by_contra hnone
  simp only [isVisible, isSpace, Bool.and_eq_true, Bool.not_eq_true', Bool.or_eq_false_iff,
    beq_eq_false_iff_ne, bne_iff_ne, ne_eq, not_and_or, not_not] at hnone
  rcases hnone with (((rfl | rfl) | rfl) | rfl) | rfl <;> exact absurd hc (by decide)

theorem skipSpaces_of_not_isSpace {c : Char} (hc : isSpace c = false) (rest : List Char) :
    skipSpaces (c :: rest) = c :: rest :=
  List.dropWhile_cons_of_neg (by rw [hc]; exact Bool.false_ne_true)

section Visible

variable {c : Char} (hc : isVisible c = true) (rest : List Char)

include hc

theorem skipSpaces_visible : skipSpaces (c :: rest) = c :: rest := by
  simp only [isVisible, Bool.and_eq_true, Bool.not_eq_true'] at hc
  exact skipSpaces_of_not_isSpace hc.1.1.1 rest

theorem skipComment_visible : skipComment (c :: rest) = c :: rest := by
  simp only [isVisible, Bool.and_eq_true, bne_iff_ne] at hc
  unfold skipComment
  split
  · rename_i heq
    exact absurd (List.cons.inj heq).1 hc.1.1.2
  · rfl

theorem newline?_visible : newline? (c :: rest) = none := by
  simp only [isVisible, Bool.and_eq_true, bne_iff_ne] at hc
  unfold newline?
  split
  · rename_i heq
    exact absurd (List.cons.inj heq).1 hc.1.2
  · rename_i heq
    exact absurd (List.cons.inj heq).1 hc.2
  · rfl

theorem skipTrivia_visible (fuel : Nat) : skipTrivia (fuel + 1) (c :: rest) = c :: rest := by
  unfold skipTrivia
  rw [skipSpaces_visible hc, skipComment_visible hc]
  dsimp only
  rw [newline?_visible hc]

end Visible

theorem skipTrivia_newline (fuel : Nat) (rest : List Char) :
    skipTrivia (fuel + 1) ('\n' :: rest) = skipTrivia fuel rest := rfl

/-! ### Keys -/

/-- A key that needs no quotes. -/
def IsPlainKey (key : String) : Prop := key.toList ≠ [] ∧ ∀ c ∈ key.toList, isKeyChar c = true

section Key

variable {name : String} (hname : IsPlainKey name) {tail : List Char}
  (htail : ∀ c ∈ tail.head?, isKeyChar c = false)

include hname

theorem IsPlainKey.exists_cons : ∃ c more, isKeyChar c = true ∧ name.toList = c :: more := by
  obtain ⟨c, more, hcons⟩ := List.exists_cons_of_ne_nil hname.1
  exact ⟨c, more, hname.2 c (by rw [hcons]; exact List.mem_cons_self), hcons⟩

include htail

theorem keyPart_append : keyPart (name.toList ++ tail) = some (name, tail) := by
  obtain ⟨htake, hdrop⟩ := cut_append hname.2 htail
  obtain ⟨c, more, hc, hcons⟩ := hname.exists_cons
  have hword : keyPart (name.toList ++ tail) =
      if ((name.toList ++ tail).takeWhile isKeyChar).isEmpty then none
      else some (String.ofList ((name.toList ++ tail).takeWhile isKeyChar),
        (name.toList ++ tail).dropWhile isKeyChar) := by
    rw [hcons, List.cons_append]
    unfold keyPart
    split
    · rename_i heq
      rw [(List.cons.inj heq).1] at hc
      exact absurd hc (by decide)
    · rename_i heq
      rw [(List.cons.inj heq).1] at hc
      exact absurd hc (by decide)
    · rfl
  rw [hword, htake, hdrop, String.ofList_toList, if_neg (by simpa using hname.1)]

/-- A plain key is read up to what follows it and the blanks in between. -/
theorem key_append (hdot : (skipSpaces tail).head? ≠ some '.') :
    key (name.toList ++ tail) = some ([name], skipSpaces tail) := by
  have hpart := keyPart_append hname htail
  have hskip : skipSpaces (name.toList ++ tail) = name.toList ++ tail := by
    obtain ⟨c, more, hc, hcons⟩ := hname.exists_cons
    rw [hcons]
    exact skipSpaces_visible (isVisible_of_isKeyChar hc) _
  rw [key, hskip, keyParts, hpart]
  dsimp only [bind, Option.bind]
  split
  · rename_i heq
    rw [heq] at hdot
    exact absurd rfl hdot
  · rfl

end Key

/-! ### Lines -/

/-- A text that ends with its line is read as a value. -/
structure Denotes (text : String) (v : Toml) : Prop where
  head : ∀ c ∈ text.toList.head?, isSpace c = false
  value : ∀ rest, value nestingLimit (text.toList ++ '\n' :: rest) = some (v, '\n' :: rest)

/-- The characters are read as the line, whatever follows them. -/
structure IsLine (chars : List Char) (line : Line) : Prop where
  head : ∃ c more, chars = c :: more ∧ c ≠ '\ufeff'
  read : ∀ rest fuel,
    takeLines (fuel + 1) (chars ++ rest) = (takeLines fuel rest).map (line :: ·)

theorem isLine_entry {name : String} (hname : IsPlainKey name) {text : String} {v : Toml}
    (hv : Denotes text v) :
    IsLine (name.toList ++ ' ' :: '=' :: ' ' :: (text.toList ++ ['\n'])) (.entry [name] v) := by
  obtain ⟨c, more, hc, hcons⟩ := hname.exists_cons
  have hmark : c ≠ '\ufeff' := by
    rintro rfl
    exact absurd hc (by decide)
  have hbracket : c ≠ '[' := by
    rintro rfl
    exact absurd hc (by decide)
  refine ⟨⟨c, _, by rw [hcons]; rfl, hmark⟩, fun rest fuel ↦ ?_⟩
  have hkey : key (name.toList ++ ' ' :: '=' :: ' ' :: (text.toList ++ '\n' :: rest)) =
      some ([name], '=' :: ' ' :: (text.toList ++ '\n' :: rest)) := by
    rw [key_append hname (by simp [isKeyChar]) (by simp [skipSpaces, isSpace])]
    rfl
  have hskip : skipSpaces (' ' :: (text.toList ++ '\n' :: rest)) = text.toList ++ '\n' :: rest := by
    change skipSpaces (text.toList ++ '\n' :: rest) = _
    cases htext : text.toList with
    | nil => rfl
    | cons d after => exact skipSpaces_of_not_isSpace (hv.head d (by rw [htext]; rfl)) _
  have hexpect : expect ['='] (skipSpaces ('=' :: ' ' :: (text.toList ++ '\n' :: rest))) =
      some (' ' :: (text.toList ++ '\n' :: rest)) := rfl
  have hline : entryLine (name.toList ++ ' ' :: '=' :: ' ' :: (text.toList ++ '\n' :: rest)) =
      some (.entry [name] v, '\n' :: rest) := by
    rw [entryLine, hkey]
    dsimp only [bind, Option.bind]
    rw [hexpect]
    dsimp only
    rw [hskip, hv.value]
    rfl
  have hchars : name.toList ++ ' ' :: '=' :: ' ' :: (text.toList ++ ['\n']) ++ rest =
      name.toList ++ ' ' :: '=' :: ' ' :: (text.toList ++ '\n' :: rest) := by simp
  rw [hchars]
  rw [hcons, List.cons_append] at hline ⊢
  rw [takeLines, skipTrivia_visible (isVisible_of_isKeyChar hc)]
  dsimp only [bind, Option.bind]
  rw [if_neg hbracket, hline]
  exact Option.map_eq_bind.symm

theorem isLine_header {name : String} (hname : IsPlainKey name) :
    IsLine ('[' :: (name.toList ++ [']', '\n'])) (.header false [name]) := by
  refine ⟨⟨'[', _, rfl, by decide⟩, fun rest fuel ↦ ?_⟩
  have hkey : key (name.toList ++ ']' :: '\n' :: rest) = some ([name], ']' :: '\n' :: rest) :=
    key_append hname (by simp [isKeyChar]) (by simp [skipSpaces, isSpace])
  have hdouble : ((name.toList ++ ']' :: '\n' :: rest).head? == some '[') = false := by
    obtain ⟨c, more, hc, hcons⟩ := hname.exists_cons
    rw [hcons, List.cons_append, List.head?_cons, beq_eq_false_iff_ne]
    intro heq
    rw [Option.some.inj heq] at hc
    exact absurd hc (by decide)
  have hexpect : expect [']'] (skipSpaces (']' :: '\n' :: rest)) = some ('\n' :: rest) := rfl
  have hline : headerLine (name.toList ++ ']' :: '\n' :: rest) =
      some (.header false [name], '\n' :: rest) := by
    rw [headerLine, hdouble]
    simp only [Bool.false_eq_true, if_false, hkey, bind, Option.bind, hexpect]
    rfl
  have hchars : '[' :: (name.toList ++ [']', '\n']) ++ rest =
      '[' :: (name.toList ++ ']' :: '\n' :: rest) := by simp
  rw [hchars, takeLines, skipTrivia_visible (by decide)]
  dsimp only [bind, Option.bind]
  rw [if_pos rfl, hline]
  exact Option.map_eq_bind.symm

theorem takeLines_newline (fuel : Nat) (rest : List Char) :
    takeLines (fuel + 1) ('\n' :: rest) = takeLines (fuel + 1) rest := by
  rw [takeLines, takeLines, List.length_cons, skipTrivia_newline]

/-! ### Texts -/

/-- A block of lines, each with its characters. -/
abbrev Block := List (List Char × Line)

def Block.chars (b : Block) : List Char := b.flatMap Prod.fst

def Block.lines (b : Block) : List Line := b.map Prod.snd

theorem takeLines_block {b : Block} (hb : ∀ l ∈ b, IsLine l.1 l.2) (rest : List Char)
    (fuel : Nat) :
    takeLines (b.length + fuel) (b.chars ++ rest) = (takeLines fuel rest).map (b.lines ++ ·) := by
  induction b with
  | nil =>
    rw [List.length_nil, Nat.zero_add]
    exact Option.map_id'.symm
  | cons l more ih =>
    have hchars : Block.chars (l :: more) ++ rest = l.1 ++ (Block.chars more ++ rest) := by
      rw [Block.chars, List.flatMap_cons, List.append_assoc]
      rfl
    rw [hchars, List.length_cons, Nat.succ_add, (hb l List.mem_cons_self).read,
      ih fun l' hl' ↦ hb l' (List.mem_cons_of_mem _ hl'), Option.map_map]
    rfl

/-- Blocks with an empty line between any two of them: by induction on the blocks. -/
theorem takeLines_blocks {blocks : List Block} (hblocks : ∀ b ∈ blocks, ∀ l ∈ b, IsLine l.1 l.2)
    (fuel : Nat) :
    takeLines (blocks.flatten.length + (fuel + 1))
        (['\n'].intercalate (blocks.map Block.chars)) = some (blocks.flatMap Block.lines) := by
  induction blocks with
  | nil => rw [List.flatten_nil, List.length_nil, Nat.zero_add]; rfl
  | cons b more ih =>
    have hb := hblocks b List.mem_cons_self
    have ih := ih fun b' hb' ↦ hblocks b' (List.mem_cons_of_mem _ hb')
    cases more with
    | nil =>
      have hblock := takeLines_block hb [] (fuel + 1)
      have hnone : takeLines (fuel + 1) [] = some [] := rfl
      rw [List.append_nil, hnone, Option.map_some, List.append_nil] at hblock
      simpa using hblock
    | cons b' more =>
      have hchars : ['\n'].intercalate ((b :: b' :: more).map Block.chars) =
          b.chars ++ '\n' :: ['\n'].intercalate ((b' :: more).map Block.chars) := by
        simp [List.intercalate_cons_cons]
      rw [hchars, List.flatten_cons, List.length_append, Nat.add_assoc, takeLines_block hb,
        ← Nat.add_assoc, takeLines_newline, Nat.add_assoc, ih]
      rfl

section Blocks

variable {blocks : List Block} (hblocks : ∀ b ∈ blocks, ∀ l ∈ b, IsLine l.1 l.2)

include hblocks

theorem length_le_length_chars : ∀ b ∈ blocks, b.length ≤ b.chars.length := by
  intro b hb
  have hlines := hblocks b hb
  clear hblocks hb
  induction b with
  | nil => exact Nat.le_refl 0
  | cons l more ih =>
    obtain ⟨c, after, hl, -⟩ := (hlines l List.mem_cons_self).head
    have hmore := ih fun l' hl' ↦ hlines l' (List.mem_cons_of_mem _ hl')
    rw [Block.chars, List.flatMap_cons, List.length_append, hl, List.length_cons, List.length_cons]
    exact Nat.succ_le_of_lt (by rw [Block.chars] at hmore; omega)

/-- A line takes at least one character, so that the text is fuel enough for its lines. -/
theorem length_le_length_intercalate :
    blocks.flatten.length ≤ (['\n'].intercalate (blocks.map Block.chars)).length := by
  have hlength := length_le_length_chars hblocks
  clear hblocks
  induction blocks with
  | nil => exact Nat.le_refl 0
  | cons b more ih =>
    have hb := hlength b List.mem_cons_self
    have ih := ih fun b' hb' ↦ hlength b' (List.mem_cons_of_mem _ hb')
    cases more with
    | nil => simpa using hb
    | cons b' more =>
      simp only [List.flatten_cons, List.length_append, List.map_cons,
        List.intercalate_cons_cons] at ih ⊢
      omega

theorem head?_intercalate_ne :
    (['\n'].intercalate (blocks.map Block.chars)).head? ≠ some '\ufeff' := by
  have hblock (b : Block) (hb : b ∈ blocks) (hsome : b ≠ []) :
      ∃ c rest, b.chars = c :: rest ∧ c ≠ '\ufeff' := by
    obtain ⟨l, more, rfl⟩ := List.exists_cons_of_ne_nil hsome
    obtain ⟨c, after, hl, hc⟩ := (hblocks _ hb l List.mem_cons_self).head
    exact ⟨c, _, by rw [Block.chars, List.flatMap_cons, hl]; rfl, hc⟩
  cases blocks with
  | nil => exact fun h ↦ absurd h (by simp)
  | cons b more =>
    by_cases hb : b = []
    · subst hb
      cases more with
      | nil => exact fun h ↦ absurd h (by simp [Block.chars])
      | cons b' more =>
        simp only [List.map_cons, List.intercalate_cons_cons]
        exact fun h ↦ absurd (Option.some.inj h) (by decide)
    · obtain ⟨c, rest, hchars, hc⟩ := hblock b List.mem_cons_self hb
      cases more with
      | nil =>
        simp only [List.map_cons, List.map_nil, List.intercalate_singleton, hchars]
        exact fun h ↦ hc (Option.some.inj h)
      | cons b' more =>
        simp only [List.map_cons, List.intercalate_cons_cons, hchars]
        exact fun h ↦ hc (Option.some.inj h)

/-- A text that is made of blocks of lines has these lines. -/
theorem documentLines?_eq {text : String}
    (htext : text.toList = ['\n'].intercalate (blocks.map Block.chars)) :
    documentLines? text = some (blocks.flatMap Block.lines) := by
  have hmark : (text.toList.head? == some '\ufeff') = false := by
    rw [htext]
    exact beq_eq_false_iff_ne.mpr (head?_intercalate_ne hblocks)
  obtain ⟨fuel, hfuel⟩ := Nat.exists_eq_add_of_le (length_le_length_intercalate hblocks)
  rw [documentLines?, hmark]
  simp only [Bool.false_eq_true, if_false]
  rw [htext, hfuel, Nat.add_assoc]
  exact takeLines_blocks hblocks fuel

end Blocks

end SceneRenderer.Toml
