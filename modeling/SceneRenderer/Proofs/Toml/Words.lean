import SceneRenderer.Proofs.Numeric.Finite
import SceneRenderer.Proofs.Shader.FiniteLiterals
import SceneRenderer.Proofs.Toml.Lines
import SceneRenderer.Toml.Record

/-!
Reading single values. A string is read up to its closing quote and a word up to the end of its line
(`value_string`, `value_word`). Whole numbers are read as what was written (`word?_toDigits`), and
so are infinities and zeros; whether another number is, is a property of the number (`ReadsBack`).
-/

set_option autoImplicit false
set_option relaxedAutoImplicit false

namespace SceneRenderer.Toml

open Text

/-! ### Strings -/

/-- Characters that stand for themselves between double quotes. -/
def isPlainChar (c : Char) : Bool := isTextChar c && c != '"' && c != '\\'

/-- What is between quotes is read by induction on it, one character at a time. -/
theorem lineString_append {chars : List Char} (hchars : ∀ c ∈ chars, isPlainChar c = true)
    (done rest : List Char) {fuel : Nat} (hfuel : chars.length < fuel) :
    lineString '"' fuel done (chars ++ '"' :: rest) =
      some (String.ofList (done.reverse ++ chars), rest) := by
  induction chars generalizing done fuel with
  | nil =>
    obtain ⟨fuel, rfl⟩ := Nat.exists_eq_succ_of_ne_zero hfuel.ne'
    rw [List.append_nil]
    rfl
  | cons c more ih =>
    obtain ⟨fuel, rfl⟩ := Nat.exists_eq_succ_of_ne_zero (Nat.ne_zero_of_lt hfuel)
    have hc := hchars c List.mem_cons_self
    simp only [isPlainChar, Bool.and_eq_true, bne_iff_ne] at hc
    obtain ⟨⟨htext, hquote⟩, hbackslash⟩ := hc
    rw [List.cons_append, lineString, if_neg hquote, if_neg (fun h ↦ hbackslash h.1), if_pos htext,
      ih (fun d hd ↦ hchars d (List.mem_cons_of_mem _ hd)) _ (Nat.lt_of_succ_lt_succ hfuel),
      List.reverse_cons, List.append_assoc]
    rfl

/-- A string that ends with its line. -/
theorem value_string {chars : List Char} (hchars : ∀ c ∈ chars, isPlainChar c = true) (depth : Nat)
    (rest : List Char) :
    value depth ('"' :: (chars ++ '"' :: '\n' :: rest)) =
      some (.string (String.ofList chars), '\n' :: rest) := by
  have hblock : expect ['"', '"', '"'] ('"' :: (chars ++ '"' :: '\n' :: rest)) = none := by
    cases chars with
    | nil => rfl
    | cons c more =>
      have hc := hchars c List.mem_cons_self
      simp only [isPlainChar, Bool.and_eq_true, bne_iff_ne] at hc
      rw [List.cons_append, expect, if_pos rfl, expect, if_neg (Ne.symm hc.1.2)]
  have hline : expect ['"'] ('"' :: (chars ++ '"' :: '\n' :: rest)) =
      some (chars ++ '"' :: '\n' :: rest) := rfl
  have hstring := lineString_append hchars [] ('\n' :: rest)
    (show chars.length < (chars ++ '"' :: '\n' :: rest).length + 1 by
      rw [List.length_append]
      omega)
  unfold value
  dsimp only
  rw [stringValue, hblock]
  dsimp only [bind, Option.bind]
  rw [hline]
  dsimp only
  rw [hstring]
  rfl

theorem denotes_string {text : String} (htext : ∀ c ∈ text.toList, isPlainChar c = true) :
    Denotes ("\"" ++ text ++ "\"") (.string text) := by
  have hchars : ("\"" ++ text ++ "\"").toList = '"' :: (text.toList ++ ['"']) := by simp
  refine ⟨by rw [hchars]; simp [isSpace], fun rest ↦ ?_⟩
  rw [hchars, List.cons_append, List.append_assoc]
  exact (value_string htext nestingLimit rest).trans (by rw [String.ofList_toList])

/-! ### Words -/

theorem isWordChar_of_isNumeralChar {c : Char} (hc : Shader.isNumeralChar c = true) :
    isWordChar c = true := by
  rw [Shader.isNumeralChar, Bool.or_eq_true] at hc
  rcases hc with hdigit | hother
  · simp [isWordChar, Char.isAlphanum, hdigit]
  · simp only [List.contains_iff_mem, List.mem_cons, List.not_mem_nil, or_false] at hother
    rcases hother with rfl | rfl | rfl | rfl | rfl | rfl | rfl | rfl <;> decide

theorem value_of_isWordChar {c : Char} (hc : isWordChar c = true) (depth : Nat)
    (rest : List Char) : value depth (c :: rest) = takeWord (c :: rest) := by
  unfold value
  split
  case h_5 => rfl
  all_goals exact absurd hc (by decide)

/-- A word that ends with its line is read as what it denotes. -/
theorem value_word {word : List Char} (hword : ∀ c ∈ word, isWordChar c = true) {v : Toml}
    (hv : word? word = some v) (depth : Nat) (rest : List Char) :
    value depth (word ++ '\n' :: rest) = some (v, '\n' :: rest) := by
  obtain ⟨htake, hdrop⟩ := cut_append hword
    (show ∀ c ∈ ('\n' :: rest).head?, isWordChar c = false by simp [isWordChar])
  have htaken : takeWord (word ++ '\n' :: rest) = some (v, '\n' :: rest) := by
    unfold takeWord
    simp only [htake, hdrop, hv]
    rfl
  cases word with
  | nil =>
    have hnone : word? [] = none := rfl
    rw [hnone] at hv
    exact absurd hv.symm (Option.some_ne_none v)
  | cons c more =>
    rw [List.cons_append, value_of_isWordChar (hword c List.mem_cons_self), ← List.cons_append,
      htaken]

theorem denotes_word {text : String} (htext : ∀ c ∈ text.toList, isWordChar c = true) {v : Toml}
    (hv : word? text.toList = some v) : Denotes text v := by
  refine ⟨fun c hc ↦ ?_, value_word htext hv nestingLimit⟩
  rw [Bool.eq_false_iff]
  intro hspace
  have hword := htext c (List.mem_of_mem_head? hc)
  simp only [isSpace, Bool.or_eq_true, beq_iff_eq] at hspace
  rcases hspace with rfl | rfl <;> exact absurd hword (by decide)

/-! ### Whole numbers -/

theorem groupedDigits_of_digits {digits : List Char} (hsome : digits ≠ [])
    (hdigits : ∀ c ∈ digits, c.isDigit = true) :
    groupedDigits Char.isDigit digits = some digits := by
  fun_induction groupedDigits Char.isDigit digits with
  | case1 => exact absurd rfl hsome
  | case2 c hc => rfl
  | case3 c hc => exact absurd (hdigits c List.mem_cons_self) hc
  | case4 c rest hc ih =>
    exact absurd (hdigits '_' (by simp)) (by decide)
  | case5 c rest hc => exact absurd (hdigits c List.mem_cons_self) hc
  | case6 c rest hsingle hunderscore hc ih =>
    rw [ih hsingle fun d hd ↦ hdigits d (List.mem_cons_of_mem _ hd)]
    rfl
  | case7 c rest hsingle hunderscore hc => exact absurd (hdigits c List.mem_cons_self) hc

/-- A number has no zero in front but for zero itself. -/
theorem head_toDigits {n : Nat} (hn : n ≠ 0) : (Nat.toDigits 10 n).head? ≠ some '0' := by
  induction n using Nat.strong_induction_on with
  | _ n ih =>
    rw [Nat.toDigits_eq_if (by decide)]
    split
    · rename_i hlt
      have hdigit : ∀ m : Fin 10, m.val ≠ 0 → m.val.digitChar ≠ '0' := by decide
      exact fun heq ↦ hdigit ⟨n, hlt⟩ hn (Option.some.inj heq)
    · rw [List.head?_append_of_ne_nil _ Nat.toDigits_ne_nil]
      exact ih (n / 10) (by omega) (by omega)

theorem valueInBase_eq {digits : List Char} (hdigits : ∀ c ∈ digits, c.isDigit = true) :
    valueInBase 10 digits = Nat.ofDigitChars 10 digits 0 := by
  rw [valueInBase, Nat.ofDigitChars_eq_foldl]
  refine List.foldl_ext _ _ _ fun n c hc ↦ ?_
  rw [hexValue?, if_pos (hdigits c hc), Nat.mul_comm]
  rfl

theorem wholeDigits_toDigits (n : Nat) :
    wholeDigits (Nat.toDigits 10 n) = some (Nat.toDigits 10 n) := by
  have hlead : ((Nat.toDigits 10 n).head? == some '0' && 1 < (Nat.toDigits 10 n).length) =
      false := by
    cases n with
    | zero => rfl
    | succ n => rw [beq_eq_false_iff_ne.mpr (head_toDigits n.succ_ne_zero), Bool.false_and]
  rw [wholeDigits, groupedDigits_of_digits Nat.toDigits_ne_nil fun _ ↦ Shader.isDigit_toDigits]
  dsimp only [bind, Option.bind]
  rw [hlead]
  rfl

theorem integer?_toDigits (n : Nat) : integer? (Nat.toDigits 10 n) = some (n : Int) := by
  have hdigits (c : Char) (hc : c ∈ Nat.toDigits 10 n) := Shader.isDigit_toDigits hc
  have hsign : splitSign (Nat.toDigits 10 n) = (false, Nat.toDigits 10 n) := by
    unfold splitSign
    split
    · rename_i heq
      exact absurd (hdigits '-' (by rw [heq]; exact List.mem_cons_self)) (by decide)
    · rename_i heq
      exact absurd (hdigits '+' (by rw [heq]; exact List.mem_cons_self)) (by decide)
    · rfl
  have hmark {c d : Char} {rest : List Char} (heq : Nat.toDigits 10 n = c :: d :: rest) :
      d.isDigit = true := hdigits d (by rw [heq]; simp)
  unfold integer?
  split
  · rename_i heq
    exact absurd (hmark heq) (by decide)
  · rename_i heq
    exact absurd (hmark heq) (by decide)
  · rename_i heq
    exact absurd (hmark heq) (by decide)
  · rw [hsign]
    dsimp only
    rw [wholeDigits_toDigits, Option.map_some, valueInBase_eq hdigits,
      Nat.ofDigitChars_ten_toDigits]
    rfl

/-- The digits of a number denote it. -/
theorem word?_toDigits (n : Nat) : word? (Nat.toDigits 10 n) = some (ofInteger n) := by
  have hdigits (c : Char) (hc : c ∈ Nat.toDigits 10 n) := Shader.isDigit_toDigits hc
  have htrue : Nat.toDigits 10 n ≠ "true".toList := fun heq ↦
    absurd (hdigits 't' (by rw [heq]; decide)) (by decide)
  have hfalse : Nat.toDigits 10 n ≠ "false".toList := fun heq ↦
    absurd (hdigits 'f' (by rw [heq]; decide)) (by decide)
  rw [word?, if_neg htrue, if_neg hfalse, integer?_toDigits]

theorem ofInteger_natCast {n : Nat} (hn : n < 2 ^ 64) : ofInteger n = .integer n :=
  if_pos ⟨(neg_nonpos.mpr (Int.natCast_nonneg _)).trans (Int.natCast_nonneg n),
    Int.ofNat_lt.mpr (hn.trans (by decide))⟩

theorem denotes_nat {n : Nat} (hn : n < 2 ^ 64) : Denotes (toString n) (.integer n) := by
  have hchars : (toString n).toList = Nat.toDigits 10 n := by
    rw [Nat.toString_eq_repr, Nat.toList_repr]
  refine denotes_word (fun c hc ↦ isWordChar_of_isNumeralChar (Shader.numeral_nat n c hc)) ?_
  rw [hchars, word?_toDigits, ofInteger_natCast hn]

/-! ### Numbers of single precision -/

/-- What the word denotes that a number is written with. -/
def numberValue (x : Float32) : Toml :=
  (word? (NumberStyle.plain.write x).toList).getD .unreadable

/-- The number is read as what it is from the word that it is written with. Such a word is read in
double precision, and narrowed: rounding twice may lead to a neighbor. -/
def ReadsBack (x : Float32) : Prop := (numberValue x).scalar?.bind read = some x

instance (x : Float32) : Decidable (ReadsBack x) :=
  inferInstanceAs (Decidable (Option.bind _ _ = some x))

theorem readsBack_of_isInf {x : Float32} (hx : x.isInf = true) : ReadsBack x := by
  rcases eq_ofBits_of_isInf hx with rfl | rfl <;> decide +kernel

/-- Either zero keeps its sign. -/
theorem readsBack_of_beq_zero {x : Float32} (hx : (x == 0) = true) : ReadsBack x := by
  rcases eq_ofBits_of_beq_zero hx with rfl | rfl <;> decide +kernel

theorem readsBack_of_not_isNaN {x : Float32} (hnan : x.isNaN = false)
    (hfinite : x.isFinite = true → (x == 0) = false → ReadsBack x) : ReadsBack x := by
  cases hinf : x.isInf with
  | true => exact readsBack_of_isInf hinf
  | false =>
    cases hzero : x == 0 with
    | true => exact readsBack_of_beq_zero hzero
    | false => exact hfinite (isFinite_of_not_isNaN hnan hinf) hzero

-- In double precision, the digits of this number round to the middle between it and the next
-- number, whose last bit is even.
example : ¬ ReadsBack (Float32.ofBits 0x15ae43fd) := by decide +kernel

theorem ReadsBack.denotes {x : Float32} (hx : ReadsBack x) :
    Denotes (NumberStyle.plain.write x) (numberValue x) := by
  have hchars : ∀ c ∈ (NumberStyle.plain.write x).toList, Shader.isNumeralChar c = true :=
    Shader.numeral_write (by simp [NumberStyle.plain, Shader.isNumeralChar]) x
  refine denotes_word (fun c hc ↦ isWordChar_of_isNumeralChar (hchars c hc)) ?_
  rw [ReadsBack, numberValue] at hx
  rw [numberValue]
  cases hdenoted : word? (NumberStyle.plain.write x).toList with
  | none =>
    rw [hdenoted] at hx
    exact absurd hx (Option.some_ne_none x).symm
  | some v => rfl

end SceneRenderer.Toml
