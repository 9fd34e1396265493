import SceneRenderer.Proofs.Shader.ForeignWords

/-!
The tokens of a line: identifiers and punctuation. White space separates tokens, and numbers are
dropped.

Characters are read from the left; what was read last decides whether the next character goes on
with it or ends it. Two texts that are cut where they meet have the tokens of both
(`tokens_append`).
-/

set_option autoImplicit false
set_option relaxedAutoImplicit false

namespace SceneRenderer.Shader

inductive Token (ι : Type)
  | identifier (word : ι)
  | mark (c : Char)
deriving DecidableEq

def Token.map {ι κ : Type} (f : ι → κ) : Token ι → Token κ
  | identifier word => identifier (f word)
  | mark c => mark c

/-- What the characters read last belong to. -/
inductive ScanState
  | blank
  | word (read : List Char)
  /-- A number, of which the exponent may come next. -/
  | number (exponent : Bool)
  /-- A point, which starts a number if a digit follows. -/
  | point
deriving DecidableEq

/-- White space within a line. -/
def isSpace (c : Char) : Bool := [' ', '\t', '\n', '\x0c', '\r'].contains c

namespace ScanState

/-- Whether a character ends what was read before it. -/
def cuts (c : Char) : ScanState → Bool
  | blank => true
  | word _ => !isIdentifierChar c
  | number exponent => !(c.isAlphanum || c == '.' || exponent && (c == '-' || c == '+'))
  | point => !c.isDigit

/-- Goes on with what was read before. -/
def extend (c : Char) : ScanState → ScanState
  | blank => blank
  | word read => word (read ++ [c])
  | number _ => number (c == 'e' || c == 'E')
  | point => number false

/-- What was read is complete. -/
def flush : ScanState → List (Token (List Char))
  | word read => [.identifier read]
  | point => [.mark '.']
  | _ => []

/-- Starts with a character that goes on with nothing. -/
def start (c : Char) : List (Token (List Char)) × ScanState :=
  if c.isAlpha || c == '_' then ([], word [c])
  else if c.isDigit then ([], number false)
  else if c == '.' then ([], point)
  else if isSpace c then ([], blank)
  else ([.mark c], blank)

end ScanState

open ScanState

/-- The tokens that are complete after a text, and what its last characters belong to. -/
def scan : ScanState → List Char → List (Token (List Char)) × ScanState
  | s, [] => ([], s)
  | s, c :: rest =>
    if s.cuts c then
      match start c with
      | (first, s') =>
        match scan s' rest with
        | (more, last) => (s.flush ++ first ++ more, last)
    else scan (s.extend c) rest

/-- What the last characters of a text belong to. -/
def scanEnd (text : List Char) : ScanState := (scan blank text).2

def tokens (text : List Char) : List (Token (List Char)) :=
  match scan blank text with
  | (complete, last) => complete ++ last.flush

variable {s : ScanState}

theorem scan_append (s : ScanState) (front back : List Char) :
    scan s (front ++ back) =
      ((scan s front).1 ++ (scan (scan s front).2 back).1, (scan (scan s front).2 back).2) := by
  induction front generalizing s with
  | nil => rfl
  | cons c rest ih =>
    rw [List.cons_append, scan, scan]
    split
    · simp only [ih, List.append_assoc]
    · exact ih _

/-- A text that ends what was read before it. -/
theorem scan_of_cuts {c : Char} (hcut : s.cuts c = true) (rest : List Char) :
    scan s (c :: rest) =
      (s.flush ++ (scan blank (c :: rest)).1, (scan blank (c :: rest)).2) := by
  have hblank : blank.cuts c = true := rfl
  rw [scan, scan, if_pos hcut, if_pos hblank]
  simp only [flush, List.nil_append, List.append_assoc]

/-- Of two texts the second ends what the first one ends with. -/
def CutBetween (front back : List Char) : Prop := ∀ c ∈ back.head?, (scanEnd front).cuts c = true

theorem tokens_append {front back : List Char} (hcut : CutBetween front back) :
    tokens (front ++ back) = tokens front ++ tokens back := by
  cases back with
  | nil => simp [tokens, scan, flush]
  | cons c rest =>
    have hback := scan_of_cuts (hcut c rfl) rest
    rw [scanEnd] at hback
    simp only [tokens, scan_append, hback, List.append_assoc]

/-- A space ends whatever was read. -/
theorem cuts_space : s.cuts ' ' = true := by
  cases s with
  | number exponent => cases exponent <;> rfl
  | _ => rfl

/-! ### Identifiers -/

/-- An identifier that starts with a letter. -/
structure IsWord (word : List Char) : Prop where
  isIdentifier : IsIdentifier word
  letter : ∀ c ∈ word.head?, c.isAlpha = true

theorem isIdentifierChar_of_isAlpha {c : Char} (hc : c.isAlpha = true) :
    isIdentifierChar c = true := by
  rw [isIdentifierChar, Char.isAlphanum, hc, Bool.true_or, Bool.true_or]

theorem not_isDigit_of_isAlpha {c : Char} (hc : c.isAlpha = true) : c.isDigit = false := by
  unfold Char.isAlpha Char.isUpper Char.isLower at hc
  simp only [Bool.or_eq_true, Bool.and_eq_true, decide_eq_true_eq, UInt32.le_iff_toNat_le,
    ge_iff_le] at hc
  simp only [Char.isDigit, Bool.and_eq_false_iff, decide_eq_false_iff_not, UInt32.le_iff_toNat_le,
    ge_iff_le]
  change (65 ≤ c.toNat ∧ c.toNat ≤ 90) ∨ (97 ≤ c.toNat ∧ c.toNat ≤ 122) at hc
  change ¬48 ≤ c.toNat ∨ ¬c.toNat ≤ 57
  omega

theorem scan_word {read rest : List Char} (hrest : ∀ c ∈ rest, isIdentifierChar c = true) :
    scan (word read) rest = ([], word (read ++ rest)) := by
  induction rest generalizing read with
  | nil => rw [List.append_nil]; rfl
  | cons c rest ih =>
    have hc : (word read).cuts c = false := by
      rw [cuts, hrest c List.mem_cons_self, Bool.not_true]
    rw [scan, hc, if_neg Bool.false_ne_true, extend,
      ih fun d hd ↦ hrest d (List.mem_cons_of_mem _ hd), List.append_assoc, List.singleton_append]

theorem IsWord.scan_eq {text : List Char} (htext : IsWord text) :
    scan blank text = ([], word text) := by
  obtain ⟨c, rest, rfl⟩ := List.exists_cons_of_ne_nil htext.isIdentifier.1
  have hstart : start c = ([], word [c]) := by
    rw [start, htext.letter c rfl, Bool.true_or, if_pos rfl]
  have hblank : blank.cuts c = true := rfl
  rw [scan, if_pos hblank, hstart]
  simp only [scan_word fun d hd ↦ htext.isIdentifier.2 d (List.mem_cons_of_mem _ hd)]
  rfl

theorem IsWord.tokens_eq {text : List Char} (htext : IsWord text) :
    tokens text = [.identifier text] := by
  rw [tokens, htext.scan_eq]
  rfl

theorem IsWord.scanEnd_eq {text : List Char} (htext : IsWord text) : scanEnd text = word text := by
  rw [scanEnd, htext.scan_eq]

/-- A word goes on with the last one, or with a number, and ends anything else. -/
theorem IsWord.cuts_iff {text : List Char} (htext : IsWord text) :
    (∀ c ∈ text.head?, s.cuts c = true) ↔ s = blank ∨ s = point := by
  obtain ⟨c, rest, rfl⟩ := List.exists_cons_of_ne_nil htext.isIdentifier.1
  have hc : c.isAlpha = true := htext.letter c rfl
  have hdigit : c.isDigit = false := not_isDigit_of_isAlpha hc
  simp only [List.head?_cons, Option.mem_some_iff, forall_eq']
  cases s with
  | blank => simp [cuts]
  | word read => simp [cuts, isIdentifierChar_of_isAlpha hc]
  | number exponent => simp [cuts, Char.isAlphanum, hc]
  | point => simp [cuts, hdigit]

/-! ### Indentation -/

theorem scan_spaces {spaces : List Char} (hspaces : ∀ c ∈ spaces, c = ' ') :
    scan blank spaces = ([], blank) := by
  induction spaces with
  | nil => rfl
  | cons c rest ih =>
    have hrest := ih fun d hd ↦ hspaces d (List.mem_cons_of_mem _ hd)
    have hspace : scan blank (' ' :: rest) = scan blank rest := rfl
    rw [hspaces c List.mem_cons_self, hspace, hrest]

theorem spaces_indent (depth : Nat) :
    ∀ c ∈ (String.join (List.replicate depth "    ")).toList, c = ' ' := by
  induction depth with
  | zero => simp
  | succ depth ih =>
    rw [List.replicate_succ, String.join_cons, String.toList_append]
    intro c hc
    rcases List.mem_append.mp hc with hc | hc
    · simpa using hc
    · exact ih c hc

theorem tokens_spaces {spaces : List Char} (hspaces : ∀ c ∈ spaces, c = ' ') (rest : List Char) :
    tokens (spaces ++ rest) = tokens rest := by
  have hscan := scan_spaces hspaces
  have hcut : CutBetween spaces rest := fun c _ ↦ by rw [scanEnd, hscan]; rfl
  rw [tokens_append hcut, tokens, hscan]
  rfl

theorem tokens_indent (depth : Nat) (line : String) :
    tokens (indent depth line).toList = tokens line.toList := by
  rw [indent, String.toList_append, tokens_spaces (spaces_indent depth)]

/-- The brace that opens a block is cut from the header. -/
theorem tokens_append_brace (header : String) :
    tokens (header ++ " \x7b").toList = tokens header.toList ++ [.mark '\x7b'] := by
  rw [String.toList_append, tokens_append]
  · rfl
  · intro c hc
    have hspace : ' ' = c := by simpa using hc
    rw [← hspace]
    exact cuts_space

end SceneRenderer.Shader
