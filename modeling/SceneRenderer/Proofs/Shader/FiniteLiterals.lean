import SceneRenderer.Proofs.Numeric.Finite
import SceneRenderer.Proofs.Shader.InertText
import SceneRenderer.Proofs.Shader.Tokens

/-!
Number literals. A finite number is written as the grammar of shader text has it: digits with a
point, an exponent or both, behind a sign if it is negative. To a reader of tokens such a text is
one number from its first digit to its last, so it leaves no identifier among the tokens.
-/

set_option autoImplicit false
set_option relaxedAutoImplicit false

namespace SceneRenderer.Shader

open ScanState

/-! ### The grammar of numbers -/

/-- Digits, and at least one of them. -/
def IsDigits (text : List Char) : Prop := text ≠ [] ∧ ∀ c ∈ text, c.isDigit = true

/-- The power of ten that scales a number. -/
inductive IsExponent : List Char → Prop
  | unsigned {mark : Char} {digits : List Char} (hmark : mark = 'e' ∨ mark = 'E')
    (hdigits : IsDigits digits) : IsExponent (mark :: digits)
  | signed {mark sign : Char} {digits : List Char} (hmark : mark = 'e' ∨ mark = 'E')
    (hsign : sign = '-' ∨ sign = '+') (hdigits : IsDigits digits) :
    IsExponent (mark :: sign :: digits)

/-- Digits with a point between them, an exponent behind them, or both. -/
inductive IsFloat : List Char → Prop
  | point {whole fraction : List Char} (hwhole : IsDigits whole) (hfraction : IsDigits fraction) :
    IsFloat (whole ++ '.' :: fraction)
  | scaled {whole exponent : List Char} (hwhole : IsDigits whole)
    (hexponent : IsExponent exponent) :
    IsFloat (whole ++ exponent)
  | scaledPoint {whole fraction exponent : List Char} (hwhole : IsDigits whole)
    (hfraction : IsDigits fraction) (hexponent : IsExponent exponent) :
    IsFloat (whole ++ '.' :: (fraction ++ exponent))

/-- A number, maybe behind a minus sign. -/
inductive IsFloatLiteral : List Char → Prop
  | positive {text : List Char} (htext : IsFloat text) : IsFloatLiteral text
  | negative {text : List Char} (htext : IsFloat text) : IsFloatLiteral ('-' :: text)

/-! ### Numbers as tokens -/

/-- A text is one number, or goes on with one, from its first to its last character. -/
def EndsNumber (s : ScanState) (text : List Char) : Prop :=
  ∃ exponent, scan s text = ([], number exponent)

/-- Characters with which any number goes on. -/
def isNumberChar (c : Char) : Bool := c.isAlphanum || c == '.'

theorem isNumberChar_of_isDigit {c : Char} (hc : c.isDigit = true) : isNumberChar c = true := by
  rw [isNumberChar, Char.isAlphanum, hc, Bool.or_true, Bool.true_or]

theorem endsNumber_number {text : List Char} (htext : ∀ c ∈ text, isNumberChar c = true)
    (exponent : Bool) : EndsNumber (number exponent) text := by
  induction text generalizing exponent with
  | nil => exact ⟨exponent, rfl⟩
  | cons c rest ih =>
    have hc : (number exponent).cuts c = false := by
      rw [cuts, show (c.isAlphanum || c == '.') = true from htext c List.mem_cons_self]
      rfl
    rw [EndsNumber, scan, hc, if_neg Bool.false_ne_true]
    exact ih (fun d hd ↦ htext d (List.mem_cons_of_mem _ hd)) _

theorem EndsNumber.append {front back : List Char} (hfront : EndsNumber blank front)
    (hback : ∀ exponent, EndsNumber (number exponent) back) : EndsNumber blank (front ++ back) := by
  obtain ⟨exponent, hscan⟩ := hfront
  obtain ⟨last, hlast⟩ := hback exponent
  refine ⟨last, ?_⟩
  rw [scan_append, hscan, hlast]
  rfl

theorem endsNumber_digit {c : Char} (hc : c.isDigit = true) : EndsNumber blank [c] := by
  have halpha : c.isAlpha = false := by
    by_contra h
    rw [not_isDigit_of_isAlpha (Bool.not_eq_false _ ▸ h)] at hc
    exact Bool.false_ne_true hc
  have hunderscore : (c == '_') = false := by
    rw [beq_eq_false_iff_ne]
    rintro rfl
    exact absurd hc (by decide)
  have hstart : start c = ([], number false) := by
    rw [start, halpha, hunderscore, hc]
    rfl
  have hblank : blank.cuts c = true := rfl
  refine ⟨false, ?_⟩
  rw [scan, if_pos hblank, hstart]
  rfl

theorem IsDigits.isNumberChar {text : List Char} (htext : IsDigits text) :
    ∀ c ∈ text, isNumberChar c = true := fun c hc ↦ isNumberChar_of_isDigit (htext.2 c hc)

theorem IsDigits.endsNumber {text : List Char} (htext : IsDigits text) : EndsNumber blank text := by
  obtain ⟨c, rest, rfl⟩ := List.exists_cons_of_ne_nil htext.1
  have hchars := List.forall_mem_cons.mp htext.isNumberChar
  exact (endsNumber_digit (htext.2 c List.mem_cons_self)).append (endsNumber_number hchars.2)

theorem IsExponent.endsNumber {text : List Char} (htext : IsExponent text) (exponent : Bool) :
    EndsNumber (number exponent) text := by
  cases htext with
  | unsigned hmark hdigits =>
    refine endsNumber_number (List.forall_mem_cons.mpr ⟨?_, hdigits.isNumberChar⟩) exponent
    rcases hmark with rfl | rfl <;> rfl
  | @signed mark sign digits hmark hsign hdigits =>
    -- Behind the mark of an exponent a sign goes on with the number.
    have hmarks : scan (number exponent) [mark, sign] = ([], number false) := by
      rcases hmark with rfl | rfl <;> rcases hsign with rfl | rfl <;> cases exponent <;> rfl
    obtain ⟨last, hlast⟩ := endsNumber_number hdigits.isNumberChar false
    refine ⟨last, ?_⟩
    rw [show mark :: sign :: digits = [mark, sign] ++ digits from rfl, scan_append, hmarks, hlast]
    rfl

/-- A number of the grammar is one number. -/
theorem IsFloat.endsNumber {text : List Char} (htext : IsFloat text) : EndsNumber blank text := by
  have hpoint {fraction : List Char} (hfraction : IsDigits fraction) (exponent : Bool) :
      EndsNumber (number exponent) ('.' :: fraction) :=
    endsNumber_number (List.forall_mem_cons.mpr ⟨rfl, hfraction.isNumberChar⟩) exponent
  cases htext with
  | point hwhole hfraction => exact hwhole.endsNumber.append (hpoint hfraction)
  | scaled hwhole hexponent => exact hwhole.endsNumber.append hexponent.endsNumber
  | scaledPoint hwhole hfraction hexponent =>
    rw [← List.cons_append, ← List.append_assoc]
    exact (hwhole.endsNumber.append (hpoint hfraction)).append hexponent.endsNumber

/-- A literal without identifiers: one number, maybe behind a sign. -/
structure IsLiteral (text : List Char) : Prop where
  tokens : tokens text = [] ∨ tokens text = [.mark '-']
  number : ∃ exponent, scanEnd text = number exponent

theorem IsFloatLiteral.isLiteral {text : List Char} (htext : IsFloatLiteral text) :
    IsLiteral text := by
  cases htext with
  | positive htext =>
    obtain ⟨exponent, hscan⟩ := htext.endsNumber
    exact ⟨.inl (by rw [Shader.tokens, hscan]; rfl), exponent, congrArg Prod.snd hscan⟩
  | @negative text htext =>
    obtain ⟨exponent, hscan⟩ := htext.endsNumber
    have hall : scan blank ('-' :: text) = ([.mark '-'], .number exponent) := by
      rw [← List.singleton_append, scan_append,
        show scan blank ['-'] = ([.mark '-'], blank) from rfl, hscan]
      rfl
    exact ⟨.inr (by rw [Shader.tokens, hall]; rfl), exponent, congrArg Prod.snd hall⟩

/-- A text that reads as no identifier anywhere. -/
def IsWordless (text : List Char) : Prop := ∀ word, Token.identifier word ∉ tokens text

theorem IsLiteral.isWordless {text : List Char} (htext : IsLiteral text) : IsWordless text := by
  intro word hword
  rcases htext.tokens with htokens | htokens <;> simp [htokens] at hword

/-! ### Decimal numbers -/

theorem isDigit_toDigits {n : Nat} {c : Char} (hc : c ∈ Nat.toDigits 10 n) : c.isDigit = true :=
  Nat.isDigit_of_mem_toDigits (by decide) (by decide) hc

theorem isDigits_toDigits (n : Nat) : IsDigits (Nat.toDigits 10 n) :=
  ⟨List.ne_nil_of_length_pos Nat.length_toDigits_pos, fun _ hc ↦ isDigit_toDigits hc⟩

theorem isDigits_zero : IsDigits ['0'] := ⟨List.cons_ne_nil _ _, List.forall_mem_singleton.mpr rfl⟩

theorem isExponent_toString (i : Int) : IsExponent ("e" ++ toString i).toList := by
  cases i with
  | ofNat n =>
    have hchars : ("e" ++ toString (Int.ofNat n)).toList = 'e' :: Nat.toDigits 10 n := by
      change ("e" ++ n.repr).toList = _
      simp
    exact hchars ▸ .unsigned (.inl rfl) (isDigits_toDigits n)
  | negSucc n =>
    have hchars : ("e" ++ toString (Int.negSucc n)).toList =
        'e' :: '-' :: Nat.toDigits 10 (n + 1) := by
      change ("e" ++ ("-" ++ (n + 1).repr)).toList = _
      simp
    exact hchars ▸ .signed (.inl rfl) (.inl rfl) (isDigits_toDigits (n + 1))

theorem isFloat_scientific (d : DecimalNumber) : IsFloat d.scientific.toList := by
  unfold DecimalNumber.scientific
  obtain ⟨hsome, hdigits⟩ := isDigits_toDigits d.digits
  split
  · rename_i hnil
    exact absurd hnil hsome
  · rename_i first rest heq
    rw [heq, List.forall_mem_cons] at hdigits
    have hfirst : IsDigits [first] := ⟨List.cons_ne_nil _ _, by simpa using hdigits.1⟩
    rw [String.append_assoc, String.toList_append, String.toList_ofList]
    cases rest with
    | nil => exact .scaled hfirst (isExponent_toString _)
    | cons c rest =>
      exact .scaledPoint hfirst ⟨List.cons_ne_nil _ _, hdigits.2⟩ (isExponent_toString _)

theorem isFloat_positional (d : DecimalNumber) : IsFloat d.positional.toList := by
  obtain ⟨hsome, hdigits⟩ := isDigits_toDigits d.digits
  have hzeros (n : Nat) : ∀ c ∈ List.replicate n '0', c.isDigit = true := by
    intro c hc
    rw [(List.mem_replicate.mp hc).2]
    decide
  unfold DecimalNumber.positional
  split
  · rw [String.toList_ofList]
    exact .point ⟨List.append_ne_nil_of_left_ne_nil hsome _,
      List.forall_mem_append.mpr ⟨hdigits, hzeros _⟩⟩ isDigits_zero
  · -- The padding leaves a digit in front of the point, and a place behind it is left by the
    -- exponent.
    rename_i hexponent
    rw [String.toList_ofList]
    have hplaces : 0 < (-d.exponent).toNat := by omega
    generalize (-d.exponent).toNat = places at hplaces
    have hpadded : ∀ c ∈ List.replicate (places + 1 - (Nat.toDigits 10 d.digits).length) '0' ++
        Nat.toDigits 10 d.digits, c.isDigit = true :=
      List.forall_mem_append.mpr ⟨hzeros _, hdigits⟩
    have hlong : places < (List.replicate (places + 1 - (Nat.toDigits 10 d.digits).length) '0' ++
        Nat.toDigits 10 d.digits).length := by
      rw [List.length_append, List.length_replicate]
      omega
    generalize List.replicate _ '0' ++ Nat.toDigits 10 d.digits = padded at hpadded hlong
    refine .point ⟨?_, fun c hc ↦ hpadded c (List.mem_of_mem_take hc)⟩
      ⟨?_, fun c hc ↦ hpadded c (List.mem_of_mem_drop hc)⟩
    · refine List.ne_nil_of_length_pos ?_
      rw [List.length_take]
      omega
    · refine List.ne_nil_of_length_pos ?_
      rw [List.length_drop]
      omega

/-! ### Literals -/

/-- The literal of a finite number is one of the grammar. -/
theorem isFloatLiteral_floatLiteral {x : Float32} (hx : x.isFinite = true) :
    IsFloatLiteral (floatLiteral x).toList := by
  obtain ⟨hnan, hinf⟩ := not_isNaN_of_isFinite hx
  have hsigned (p : Prop) [Decidable p] {text : String} (htext : IsFloat text.toList) :
      IsFloatLiteral ((if p then "" else "-") ++ text).toList := by
    rw [String.toList_append]
    split
    · exact .positive htext
    · rw [String.toList_ofList]
      exact .negative htext
  unfold floatLiteral NumberStyle.write
  simp only [hnan, hinf, Bool.false_eq_true, if_false]
  split
  · refine hsigned _ ?_
    rw [String.toList_ofList]
    exact IsFloat.point isDigits_zero isDigits_zero
  · refine hsigned _ ?_
    split
    · exact isFloat_scientific _
    · exact isFloat_positional _

theorem isLiteral_floatLiteral {x : Float32} (hx : x.isFinite = true) :
    IsLiteral (floatLiteral x).toList := (isFloatLiteral_floatLiteral hx).isLiteral

/-- Numbers that are not finite are written as words. -/
theorem floatLiteral_of_not_isFinite {x : Float32} (hx : x.isFinite = false) :
    floatLiteral x ∈ ["NaN", "inf", "-inf"] := by
  unfold floatLiteral NumberStyle.write
  split
  · exact List.mem_cons_self
  · rename_i hnan
    split
    · dsimp only
      split <;> decide
    · rename_i hinf
      have hfinite :=
        isFinite_of_not_isNaN (Bool.eq_false_iff.mpr hnan) (Bool.eq_false_iff.mpr hinf)
      exact absurd (hfinite.symm.trans hx) (by decide)

theorem not_isWordless_floatLiteral {x : Float32} (hx : x.isFinite = false) :
    ¬ IsWordless (floatLiteral x).toList := by
  have hword : floatLiteral x = "NaN" ∨ floatLiteral x = "inf" ∨ floatLiteral x = "-inf" := by
    simpa using floatLiteral_of_not_isFinite hx
  intro hwordless
  rcases hword with hword | hword | hword <;> rw [hword] at hwordless
  · exact hwordless "NaN".toList (by decide)
  · exact hwordless "inf".toList (by decide)
  · exact hwordless "inf".toList (by decide)

end SceneRenderer.Shader
