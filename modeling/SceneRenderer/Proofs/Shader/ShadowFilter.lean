import SceneRenderer.Config
import SceneRenderer.Proofs.Numeric.WholeNumbers
import SceneRenderer.Proofs.Shader.CanonicalKey
import SceneRenderer.Proofs.Shader.FiniteLiterals
import SceneRenderer.Proofs.Text.Cut

/-!
The filter over a shadow map as a reader of its text sees it: two loops around a sum, and a number
that divides the sum. The loops take as many turns as there are texels in the square, but the square
is counted in words and written in single precision: the count overflows long before radii end, and
the number that is written is the count only while it has 24 bits.
-/

set_option autoImplicit false
set_option relaxedAutoImplicit false

namespace SceneRenderer.Shader

open Text

/-! ### Reading literals -/

/-- The number that digits with a point between them denote. -/
def unsignedValue? (text : List Char) : Option ℚ :=
  match text.dropWhile Char.isDigit with
  | '.' :: fraction =>
    if text.takeWhile Char.isDigit ≠ [] ∧ fraction ≠ [] ∧ fraction.all Char.isDigit then
      some (Nat.ofDigitChars 10 (text.takeWhile Char.isDigit) 0 +
        Nat.ofDigitChars 10 fraction 0 / 10 ^ fraction.length)
    else none
  | _ => none

/-- The number that a literal denotes. -/
def literalValue? : List Char → Option ℚ
  | '-' :: rest => (unsignedValue? rest).map fun x ↦ -x
  | text => unsignedValue? text

theorem toList_toString (n : Nat) : (toString n).toList = Nat.toDigits 10 n :=
  String.toList_ofList

theorem unsignedValue?_whole (n : Nat) :
    unsignedValue? (toString n ++ ".0").toList = some (n : ℚ) := by
  have hdigits : ∀ c ∈ Nat.toDigits 10 n, c.isDigit = true := fun c hc ↦ isDigit_toDigits hc
  obtain ⟨htake, hdrop⟩ := cut_append hdigits
    (show ∀ c ∈ ['.', '0'].head?, c.isDigit = false by simp)
  have hsome : Nat.toDigits 10 n ≠ [] := List.ne_nil_of_length_pos Nat.length_toDigits_pos
  have hzero : Nat.ofDigitChars 10 ['0'] 0 = 0 := by decide
  have htext : (toString n ++ ".0").toList = Nat.toDigits 10 n ++ ['.', '0'] := by
    rw [String.toList_append, toList_toString]
    rfl
  rw [htext, unsignedValue?, hdrop, htake]
  show (if _ then _ else none) = _
  rw [if_pos ⟨hsome, by decide, by decide⟩, Nat.ofDigitChars_ten_toDigits, hzero]
  simp

theorem literalValue?_whole (n : Nat) :
    literalValue? (toString n ++ ".0").toList = some (n : ℚ) := by
  rw [← unsignedValue?_whole n]
  unfold literalValue?
  split
  · rename_i rest heq
    have hminus : '-' ∈ Nat.toDigits 10 n ++ ['.', '0'] := by
      rw [← toList_toString, show ['.', '0'] = ".0".toList from rfl, ← String.toList_append, heq]
      exact List.mem_cons_self
    rcases List.mem_append.mp hminus with hdigit | hpoint
    · exact absurd (isDigit_toDigits hdigit) (by decide)
    · exact absurd hpoint (by decide)
  · rfl

theorem literalValue?_minus (n : Nat) :
    literalValue? ('-' :: (toString n ++ ".0").toList) = some (-(n : ℚ)) := by
  rw [literalValue?, unsignedValue?_whole]
  rfl

/-! ### Loops -/

/-- A loop that counts from a number up to a limit. -/
structure Loop where
  start : ℚ
  limit : ℚ
  step : ℚ

namespace Loop

variable {l : Loop} {x : ℚ} {n : ℕ}

/-- From a value of its variable on, a loop takes so many turns. -/
inductive Turns (l : Loop) : ℚ → ℕ → Prop
  | finished {x : ℚ} (hpast : l.limit < x) : Turns l x 0
  | turn {x : ℚ} {n : ℕ} (hwithin : x ≤ l.limit) (hrest : Turns l (x + l.step) n) :
    Turns l x (n + 1)

/-- A loop ends after one number of turns. -/
theorem Turns.unique (hn : l.Turns x n) {m : ℕ} (hm : l.Turns x m) : n = m := by
  induction hn generalizing m with
  | finished hpast =>
    cases hm with
    | finished => rfl
    | turn hwithin => exact absurd hpast hwithin.not_gt
  | turn hwithin _ ih =>
    cases hm with
    | finished hpast => exact absurd hpast hwithin.not_gt
    | turn _ hrest => rw [ih hrest]

/-- A loop over the whole numbers up to one. -/
theorem turns_below (hstep : l.step = 1) (n : ℕ) : l.Turns (l.limit - n) (n + 1) := by
  induction n with
  | zero =>
    refine .turn (by simp) (.finished ?_)
    rw [hstep]
    simp
  | succ n ih =>
    have hnext : l.limit - (n + 1 : ℕ) + l.step = l.limit - n := by
      rw [hstep]
      push_cast
      ring
    exact .turn (sub_le_self _ (Nat.cast_nonneg _)) (hnext.symm ▸ ih)

/-- The numbers within a radius. -/
theorem turns_radius (r : ℕ) : (Loop.mk (-r) r 1).Turns (-r) (2 * r + 1) := by
  have hturns := turns_below (l := .mk (-r) r 1) rfl (2 * r)
  have hstart : (r : ℚ) - (2 * r : ℕ) = -r := by
    push_cast
    ring
  rwa [hstart] at hturns

end Loop

/-! ### Reading a function -/

/-- What stands before a mark at the end of a word. -/
def upTo? (mark : Char) (word : List Char) : Option (List Char) :=
  if word.getLast? = some mark then some word.dropLast else none

theorem upTo?_append (mark : Char) (word : List Char) :
    upTo? mark (word ++ [mark]) = some word := by
  simp [upTo?]

/-- The loop that a line opens. -/
def loop? (line : List Char) : Option Loop :=
  match words line with
  | [keyword, type, v, assigns, start, v', compares, limit, v'', adds, step, brace] =>
    if [keyword, type, assigns, compares, adds, brace] =
        ["for", "(float", "=", "<=", "+=", "\x7b"].map String.toList ∧ v' = v ∧ v'' = v then do
      return ⟨← literalValue? (← upTo? ';' start), ← literalValue? (← upTo? ';' limit),
        ← literalValue? (← upTo? ')' step)⟩
    else none
  | _ => none

/-- The statements of a function, each with the loops around it, the inner ones first. A block that
no loop opens has an entry of its own among those that are open. -/
def statementsWithin : List (Option Loop) → List String → List (String × List Loop)
  | _, [] => []
  | around, line :: rest =>
    if line.toList.getLast? = some '\x7b' then statementsWithin (loop? line.toList :: around) rest
    else if line.toList.getLast? = some '\x7d' then statementsWithin around.tail rest
    else (line, around.reduceOption) :: statementsWithin around rest

/-- The text of a statement behind its first words. -/
def after? (front : String) (line : String) : Option (List Char) :=
  expect front.toList (line.toList.dropWhile fun c ↦ c == ' ')

/-- The statements that start in this way: how they go on, and the loops around them. -/
def startingWith (front : String) (statements : List (String × List Loop)) :
    List (List Char × List Loop) :=
  statements.filterMap fun s ↦ (after? front s.1).map (·, s.2)

theorem isBlank_whole (n : ℕ) : (toString n ++ ".0").toList.all (!isBlank ·) = true := by
  rw [String.toList_append, toList_toString, List.all_append, Bool.and_eq_true]
  refine ⟨List.all_eq_true.mpr fun c hc ↦ ?_, rfl⟩
  rw [isBlank_of_isDigit (isDigit_toDigits hc)]
  rfl

/-- The loop over the numbers within a radius. -/
theorem loop?_radius {v : String} (hv : v = "x" ∨ v = "y") {spaces : List Char}
    (hspaces : ∀ c ∈ spaces, c = ' ') (n : ℕ) :
    loop? (spaces ++ ("for (float " ++ v ++ " = -" ++ (toString n ++ ".0") ++ "; " ++ v ++ " <= " ++
      (toString n ++ ".0") ++ "; " ++ v ++ " += 1.0)" ++ " \x7b").toList) = some ⟨-n, n, 1⟩ := by
  have hone : literalValue? "1.0".toList = some 1 := by
    have h := literalValue?_whole 1
    rwa [Nat.cast_one] at h
  have hblank := isBlank_whole n
  have hlimit := literalValue?_whole n
  have hstart := literalValue?_minus n
  generalize toString n ++ ".0" = number at hblank hlimit hstart ⊢
  have hwords :
      ("for (float " ++ v ++ " = -" ++ number ++ "; " ++ v ++ " <= " ++ number ++ "; " ++ v ++
        " += 1.0)" ++ " \x7b").toList =
      [' '].intercalate ["for".toList, "(float".toList, v.toList,
        "=".toList, '-' :: number.toList ++ [';'], v.toList, "<=".toList, number.toList ++ [';'],
        v.toList, "+=".toList, "1.0".toList ++ [')'], "\x7b".toList] := by
    simp [String.toList_append]
  have hv' : isPlainWord v.toList = true := by
    rcases hv with rfl | rfl <;> rfl
  have hnumber (front : List Char) (hfront : front.all (!isBlank ·) = true) :
      isPlainWord (front ++ number.toList ++ [';']) = true := by
    rw [isPlainWord, List.all_append, List.all_append, hfront, hblank]
    simp [isBlank]
  unfold loop?
  rw [words_spaces hspaces, hwords, words_intercalate]
  · dsimp only
    rw [if_pos ⟨rfl, rfl, rfl⟩, upTo?_append, upTo?_append, upTo?_append]
    simp only [Option.bind_eq_bind, Option.bind_some, hstart, hlimit, hone]
    rfl
  · intro word hword
    simp only [List.mem_cons, List.not_mem_nil, or_false] at hword
    rcases hword with rfl | rfl | rfl | rfl | rfl | rfl | rfl | rfl | rfl | rfl | rfl | rfl
    case inr.inr.inr.inr.inl => exact hnumber ['-'] rfl
    case inr.inr.inr.inr.inr.inr.inr.inl => exact hnumber [] rfl
    all_goals first | exact hv' | rfl

theorem getLast?_append {front back : String} {c : Char} (hback : back.toList.getLast? = some c) :
    (front ++ back).toList.getLast? = some c := by
  rw [String.toList_append, List.getLast?_append, hback]
  rfl

theorem getLast?_ofList {text : List Char} {c : Char} (htext : text.getLast? = some c) :
    (String.ofList text).toList.getLast? = some c := by
  rw [String.toList_ofList, htext]

section Statements

variable {line : String} (around : List (Option Loop)) (rest : List String)

theorem statementsWithin_opens (hline : line.toList.getLast? = some '\x7b') :
    statementsWithin around (line :: rest) =
      statementsWithin (loop? line.toList :: around) rest := by
  rw [statementsWithin, if_pos hline]

theorem statementsWithin_closes (hline : line.toList.getLast? = some '\x7d') :
    statementsWithin around (line :: rest) = statementsWithin around.tail rest := by
  rw [statementsWithin, hline, if_neg (by decide), if_pos rfl]

theorem statementsWithin_ends (hline : line.toList.getLast? = some ';') :
    statementsWithin around (line :: rest) =
      (line, around.reduceOption) :: statementsWithin around rest := by
  rw [statementsWithin, hline, if_neg (by decide), if_neg (by decide)]

end Statements

/-! ### The filter -/

/-- The statements of the filter: a texel is looked up and added within two loops, and the sum is
divided behind them. -/
theorem statementsWithin_shadowFilterLines (f : ShadowFilter) {r : ℕ}
    (hradius : floatLiteral f.radius.toFloat32 = toString r ++ ".0") :
    let lookup :=
      "float depth = unpackDepth(texture2D(shadowMap, shadowCoord.xy + vec2(x, y) * texelSize));"
    let addition := "shadow += (shadowCoord.z - " ++ floatLiteral f.bias ++ " > depth) ? 0.0 : 1.0;"
    let within : List Loop := [⟨-r, r, 1⟩, ⟨-r, r, 1⟩]
    statementsWithin [] (shadowFilterLines f) =
      [("    " ++ "vec3 shadowCoord = shadowPosFromLight.xyz / shadowPosFromLight.w;", []),
        ("    " ++ ("float texelSize = 1.0 / " ++ floatLiteral f.mapSize.toFloat32 ++ ";"), []),
        ("    " ++ "float shadow = 0.0;", []),
        ("    " ++ ("    " ++ ("    " ++ lookup)), within),
        ("    " ++ ("    " ++ ("    " ++ addition)), within),
        ("    " ++ ("return shadow / " ++ floatLiteral f.taps.toFloat32 ++ ";"), [])] := by
  intro lookup addition within
  have houter := loop?_radius (.inl rfl) (show ∀ c ∈ "    ".toList, c = ' ' by simp) r
  have hinner :=
    loop?_radius (.inr rfl) (show ∀ c ∈ "    ".toList ++ "    ".toList, c = ' ' by simp) r
  have hfile : loop? ("float computeShadow(sampler2D shadowMap, vec4 shadowPosFromLight)" ++
      " \x7b").toList = none := by
    rw [String.toList_append, String.toList_ofList, String.toList_ofList]
    rfl
  rw [List.append_assoc, ← String.toList_append, ← String.toList_append] at hinner
  rw [← String.toList_append] at houter
  unfold shadowFilterLines functionLines blockLines
  rw [hradius]
  simp only [List.map_cons, List.map_nil, List.cons_append, List.nil_append]
  have hends {text : List Char} (htext : text.getLast? = some ';') (front : String) :
      (front ++ String.ofList text).toList.getLast? = some ';' :=
    getLast?_append (getLast?_ofList htext)
  have hopens (front : String) : (front ++ " \x7b").toList.getLast? = some '\x7b' :=
    getLast?_append (getLast?_ofList rfl)
  have hcloses (front : String) : (front ++ "\x7d").toList.getLast? = some '\x7d' :=
    getLast?_append (getLast?_ofList rfl)
  rw [statementsWithin_opens _ _ (hopens _), hfile, statementsWithin_ends _ _ (hends rfl _),
    statementsWithin_ends _ _ (getLast?_append (hends rfl _)),
    statementsWithin_ends _ _ (hends rfl _),
    statementsWithin_opens _ _ (getLast?_append (hopens _)), houter,
    statementsWithin_opens _ _ (getLast?_append (getLast?_append (hopens _))), hinner,
    statementsWithin_ends _ _ (getLast?_append (getLast?_append (hends rfl _))),
    statementsWithin_ends _ _ (getLast?_append (getLast?_append (getLast?_append (hends rfl _)))),
    statementsWithin_closes _ _ (getLast?_append (hcloses _)),
    statementsWithin_closes _ _ (hcloses _),
    statementsWithin_ends _ _ (getLast?_append (hends rfl _)),
    statementsWithin_closes _ _ (getLast?_ofList rfl)]
  simp only [statementsWithin, List.tail_cons, List.reduceOption_cons_of_some,
    List.reduceOption_cons_of_none, List.reduceOption_nil, lookup, addition, within]

theorem after?_indent {front line : String} {text : Option (List Char)}
    (hline : after? front line = text) : after? front ("    " ++ line) = text := by
  rw [after?, String.toList_append, String.toList_ofList]
  exact hline

theorem after?_ofList (front text : List Char) :
    after? (String.ofList front) (String.ofList text) =
      expect front (text.dropWhile fun c ↦ c == ' ') := by
  rw [after?, String.toList_ofList, String.toList_ofList]

theorem after?_append (front text : List Char) (rest : String) :
    after? (String.ofList front) (String.ofList text ++ rest) =
      expect front ((text ++ rest.toList).dropWhile fun c ↦ c == ' ') := by
  rw [after?, String.toList_append, String.toList_ofList, String.toList_ofList]

section StartingWith

variable {front line : String} {text : List Char} (loops : List Loop)
  (rest : List (String × List Loop))

theorem startingWith_of_none (hline : after? front line = none) :
    startingWith front ((line, loops) :: rest) = startingWith front rest :=
  List.filterMap_cons_none (by rw [hline, Option.map_none])

theorem startingWith_of_some (hline : after? front line = some text) :
    startingWith front ((line, loops) :: rest) = (text, loops) :: startingWith front rest :=
  List.filterMap_cons_some (by rw [hline, Option.map_some])

end StartingWith

section Sum

variable (f : ShadowFilter) {r : ℕ}
  (hradius : floatLiteral f.radius.toFloat32 = toString r ++ ".0")

include hradius

/-- Of the statements only those that add a texel and divide the sum start in either way. -/
theorem startingWith_sum {front : String}
    (hfront : front = "shadow += " ∨ front = "return shadow / ") :
    startingWith front (statementsWithin [] (shadowFilterLines f)) =
      startingWith front [("shadow += (shadowCoord.z - " ++ floatLiteral f.bias ++
          " > depth) ? 0.0 : 1.0;", [⟨-r, r, 1⟩, ⟨-r, r, 1⟩]),
        ("return shadow / " ++ floatLiteral f.taps.toFloat32 ++ ";", [])] := by
  have hcoord :
      after? front "vec3 shadowCoord = shadowPosFromLight.xyz / shadowPosFromLight.w;" = none := by
    rcases hfront with rfl | rfl <;> exact after?_ofList _ _
  have hsize : after? front
      ("float texelSize = 1.0 / " ++ floatLiteral f.mapSize.toFloat32 ++ ";") = none := by
    rw [String.append_assoc]
    rcases hfront with rfl | rfl <;> exact after?_append _ _ _
  have hstart : after? front "float shadow = 0.0;" = none := by
    rcases hfront with rfl | rfl <;> exact after?_ofList _ _
  have hlookup : after? front
      "float depth = unpackDepth(texture2D(shadowMap, shadowCoord.xy + vec2(x, y) * texelSize));" =
      none := by
    rcases hfront with rfl | rfl <;> exact after?_ofList _ _
  rw [statementsWithin_shadowFilterLines f hradius, startingWith_of_none _ _ (after?_indent hcoord),
    startingWith_of_none _ _ (after?_indent hsize), startingWith_of_none _ _ (after?_indent hstart),
    startingWith_of_none _ _ (after?_indent (after?_indent (after?_indent hlookup)))]
  simp only [startingWith, List.filterMap_cons, after?_indent rfl]

/-- Texels are added within both loops, and nowhere else. -/
theorem startingWith_addition :
    ∃ text, startingWith "shadow += " (statementsWithin [] (shadowFilterLines f)) =
      [(text, [⟨-r, r, 1⟩, ⟨-r, r, 1⟩])] := by
  have haddition : (after? "shadow += " ("shadow += (shadowCoord.z - " ++ floatLiteral f.bias ++
      " > depth) ? 0.0 : 1.0;")).isSome := by
    rw [String.append_assoc, after?_append]
    rfl
  have hreturn : after? "shadow += " ("return shadow / " ++ floatLiteral f.taps.toFloat32 ++ ";") =
      none := by
    rw [String.append_assoc]
    exact after?_append _ _ _
  obtain ⟨text, htext⟩ := Option.isSome_iff_exists.mp haddition
  refine ⟨text, ?_⟩
  rw [startingWith_sum f hradius (.inl rfl), startingWith_of_some _ _ htext,
    startingWith_of_none _ _ hreturn]
  rfl

/-- The sum is divided once, by the number of texels as it is written. -/
theorem startingWith_return :
    startingWith "return shadow / " (statementsWithin [] (shadowFilterLines f)) =
      [((floatLiteral f.taps.toFloat32).toList ++ [';'], [])] := by
  have haddition :
      after? "return shadow / " ("shadow += (shadowCoord.z - " ++ floatLiteral f.bias ++
      " > depth) ? 0.0 : 1.0;") = none := by
    rw [String.append_assoc]
    exact after?_append _ _ _
  have hreturn : after? "return shadow / " ("return shadow / " ++ floatLiteral f.taps.toFloat32 ++
      ";") = some ((floatLiteral f.taps.toFloat32).toList ++ [';']) := by
    rw [String.append_assoc, after?_append, String.toList_append, String.toList_ofList]
    rfl
  rw [startingWith_sum f hradius (.inr rfl), startingWith_of_none _ _ haddition,
    startingWith_of_some _ _ hreturn]
  rfl

end Sum

/-! ### How many texels there are -/

theorem checkedMul_ok {a b c : UInt32} (hproduct : checkedMul a b = .ok c) :
    c.toNat = a.toNat * b.toNat := by
  unfold checkedMul at hproduct
  split at hproduct
  · rename_i hfits
    cases hproduct
    rw [UInt32.toNat_mul]
    exact Nat.mod_eq_of_lt hfits
  · cases hproduct

theorem checkedAdd_ok {a b c : UInt32} (hsum : checkedAdd a b = .ok c) :
    c.toNat = a.toNat + b.toNat := by
  unfold checkedAdd at hsum
  split at hsum
  · rename_i hfits
    cases hsum
    rw [UInt32.toNat_add]
    exact Nat.mod_eq_of_lt hfits
  · cases hsum

/-- The texels of a square that a word counts. -/
theorem toNat_filterTaps {radius taps : UInt32} (htaps : filterTaps radius = .ok taps) :
    taps.toNat = (2 * radius.toNat + 1) * (2 * radius.toNat + 1) ∧ radius ≤ maxKernelRadius := by
  unfold filterTaps at htaps
  rcases hdouble : checkedMul 2 radius with fault | double
  · rw [hdouble] at htaps
    cases htaps
  · rw [hdouble] at htaps
    change (checkedAdd double 1).bind (fun edge ↦ checkedMul edge edge) = .ok taps at htaps
    rcases hedge : checkedAdd double 1 with fault | edge
    · rw [hedge] at htaps
      cases htaps
    · rw [hedge] at htaps
      have hsquare := checkedMul_ok htaps
      rw [checkedAdd_ok hedge, checkedMul_ok hdouble] at hsquare
      refine ⟨hsquare, UInt32.le_iff_toNat_le.mpr (Nat.le_of_not_lt fun hwide ↦ ?_)⟩
      have hmax : maxKernelRadius.toNat = 32767 := rfl
      have hword := taps.toNat_lt
      have hedge : 65537 ≤ 2 * radius.toNat + 1 := by omega
      have hlarge := Nat.mul_le_mul hedge hedge
      change taps.toNat = (2 * radius.toNat + 1) * (2 * radius.toNat + 1) at hsquare
      omega

theorem ofOptions_eq_ok_iff {o : ShaderOptions} {f : ShadowFilter} :
    ShadowFilter.ofOptions o = .ok f ↔ ∃ taps, filterTaps o.kernelRadius = .ok taps ∧
      f = ⟨o.kernelRadius, taps, o.depthBias, o.mapSize⟩ := by
  unfold ShadowFilter.ofOptions
  cases filterTaps o.kernelRadius with
  | error fault => exact iff_of_false nofun nofun
  | ok taps =>
    constructor
    · rintro ⟨⟩
      exact ⟨taps, rfl, rfl⟩
    · rintro ⟨_, ⟨⟩, rfl⟩
      rfl

theorem ofOptions_ok {o : ShaderOptions} {f : ShadowFilter}
    (hf : ShadowFilter.ofOptions o = .ok f) :
    f.radius = o.kernelRadius ∧ filterTaps o.kernelRadius = .ok f.taps := by
  obtain ⟨taps, htaps, rfl⟩ := ofOptions_eq_ok_iff.mp hf
  exact ⟨rfl, htaps⟩

/-- The literal of a whole number of 24 bits denotes it, and that of any other one an even
number. -/
theorem floatLiteral_toFloat32 (n : UInt32) :
    ∃ written : ℕ, floatLiteral n.toFloat32 = toString written ++ ".0" ∧
      (n.toNat < 2 ^ 24 → written = n.toNat) ∧ (2 ^ 24 ≤ n.toNat → written % 2 = 0) :=
  write_toFloat32 n

/-- For a radius up to 32767, and for no other one, there is a filter over shadow maps, whatever the
bias and the size of a map are. Each texel is then added within two loops that both take `2 * r + 1`
turns, and behind them the sum is divided by one number. It is the number of turns in all just for
radii up to 2047. -/
theorem shadowFilter_complete (o : ShaderOptions) :
    ((∃ f, ShadowFilter.ofOptions o = .ok f) ↔ o.kernelRadius ≤ maxKernelRadius) ∧
    ∀ f, ShadowFilter.ofOptions o = .ok f →
      ∃ texel divisor, ∃ inner outer : Loop, ∃ value : ℚ,
        startingWith "shadow += " (statementsWithin [] (shadowFilterLines f)) =
          [(texel, [inner, outer])] ∧
        inner.Turns inner.start (2 * o.kernelRadius.toNat + 1) ∧
        outer.Turns outer.start (2 * o.kernelRadius.toNat + 1) ∧
        startingWith "return shadow / " (statementsWithin [] (shadowFilterLines f)) =
          [(divisor ++ [';'], [])] ∧
        literalValue? divisor = some value ∧
        (value = ((2 * o.kernelRadius.toNat + 1) * (2 * o.kernelRadius.toNat + 1) : ℕ) ↔
          o.kernelRadius.toNat ≤ 2047) := by
  refine ⟨⟨?_, fun hradius ↦ ?_⟩, fun f hf ↦ ?_⟩
  · rintro ⟨f, hf⟩
    exact (toNat_filterTaps (ofOptions_ok hf).2).2
  · obtain ⟨taps, htaps⟩ := filterTaps_ok hradius
    rw [ShadowFilter.ofOptions, htaps]
    exact ⟨_, rfl⟩
  · obtain ⟨hradius, htaps⟩ := ofOptions_ok hf
    obtain ⟨hcount, hmax⟩ := toNat_filterTaps htaps
    have hsmall : o.kernelRadius.toNat ≤ 32767 := UInt32.le_iff_toNat_le.mp hmax
    rw [← hradius] at hcount hsmall ⊢
    obtain ⟨r, hr, hexact, _⟩ := floatLiteral_toFloat32 f.radius
    obtain rfl : r = f.radius.toNat := hexact (by omega)
    obtain ⟨written, hwritten, hshort, hlong⟩ := floatLiteral_toFloat32 f.taps
    obtain ⟨texel, htexel⟩ := startingWith_addition f hr
    refine ⟨texel, _, _, _, written, htexel, Loop.turns_radius _, Loop.turns_radius _,
      startingWith_return f hr, ?_, ?_⟩
    · rw [hwritten, literalValue?_whole]
    rw [Nat.cast_inj, ← hcount]
    constructor
    · intro heq
      by_contra hwide
      have hedge : 4097 ≤ 2 * f.radius.toNat + 1 := by omega
      have hlarge := Nat.mul_le_mul hedge hedge
      have heven := hlong (by omega)
      -- The square of an odd number is odd.
      have hodd : f.taps.toNat % 2 = 1 := by
        rw [hcount, Nat.mul_mod, Nat.mul_add_mod]
      omega
    · intro hnarrow
      have hedge : 2 * f.radius.toNat + 1 ≤ 4095 := by omega
      have hfew := Nat.mul_le_mul hedge hedge
      exact hshort (by omega)

theorem shadowFilter_complete_standard :
    ∃ f texel divisor, ∃ inner outer : Loop, ∃ value : ℚ,
      ShadowFilter.ofOptions .standard = .ok f ∧
      startingWith "shadow += " (statementsWithin [] (shadowFilterLines f)) =
        [(texel, [inner, outer])] ∧
      inner.Turns inner.start 7 ∧ outer.Turns outer.start 7 ∧
      startingWith "return shadow / " (statementsWithin [] (shadowFilterLines f)) =
        [(divisor ++ [';'], [])] ∧
      literalValue? divisor = some value ∧ value = 49 := by
  obtain ⟨hexists, hcomplete⟩ := shadowFilter_complete .standard
  obtain ⟨f, hf⟩ := hexists.mpr (by decide)
  obtain ⟨texel, divisor, inner, outer, value, htexel, hinner, houter, hreturn, hvalue, hcount⟩ :=
    hcomplete f hf
  have hcounted := hcount.mpr (by decide)
  rw [show 2 * ShaderOptions.standard.kernelRadius.toNat + 1 = 7 from rfl] at hcounted
  exact ⟨f, texel, divisor, inner, outer, value, hf, htexel, hinner, houter, hreturn, hvalue,
    hcounted.trans (by norm_num)⟩

/-- Configurations with greater radii are accepted. With one of them there is no filter, and with
another one the sum has 4097 * 4097 terms but is divided by another number. -/
theorem exists_incomplete_filter :
    (∃ c, RendererConfig.ofToml "[shadow]\nkernel_radius = 32768\n" = .ok c ∧
      ShadowFilter.ofOptions c.shaderOptions = .error .multiplyOverflow) ∧
    ∃ c f texel, ∃ inner outer : Loop,
      RendererConfig.ofToml "[shadow]\nkernel_radius = 2048\n" = .ok c ∧
      ShadowFilter.ofOptions c.shaderOptions = .ok f ∧
      startingWith "shadow += " (statementsWithin [] (shadowFilterLines f)) =
        [(texel, [inner, outer])] ∧
      inner.Turns inner.start 4097 ∧ outer.Turns outer.start 4097 ∧
      startingWith "return shadow / " (statementsWithin [] (shadowFilterLines f)) =
        [("16785408.0;".toList, [])] ∧
      literalValue? "16785408.0".toList = some 16785408 ∧ 4097 * 4097 = 16785409 := by
  have haccepted (text : String) (radius : UInt32)
      (hradius : (RendererConfig.ofToml text).toOption.map (·.shadow.kernelRadius) = some radius) :
      ∃ c, RendererConfig.ofToml text = .ok c ∧ c.shaderOptions.kernelRadius = radius := by
    cases hread : RendererConfig.ofToml text with
    | error e => rw [hread] at hradius; cases hradius
    | ok c =>
      rw [hread] at hradius
      exact ⟨c, rfl, Option.some.inj hradius⟩
  obtain ⟨c, hc, hradius⟩ := haccepted "[shadow]\nkernel_radius = 32768\n" 32768 (by decide +kernel)
  obtain ⟨c', hc', hradius'⟩ :=
    haccepted "[shadow]\nkernel_radius = 2048\n" 2048 (by decide +kernel)
  refine ⟨⟨c, hc, ?_⟩, c', ⟨2048, 16785409, c'.shaderOptions.depthBias, c'.shaderOptions.mapSize⟩,
    ?_⟩
  · rw [ShadowFilter.ofOptions, hradius]
    rfl
  · have hdivisor : floatLiteral (16785409 : UInt32).toFloat32 = "16785408.0" := by decide +kernel
    have hr : floatLiteral (2048 : UInt32).toFloat32 = toString 2048 ++ ".0" := by decide +kernel
    have hvalue := literalValue?_whole 16785408
    obtain ⟨texel, htexel⟩ := startingWith_addition
      ⟨2048, 16785409, c'.shaderOptions.depthBias, c'.shaderOptions.mapSize⟩ hr
    have hreturn := startingWith_return
      ⟨2048, 16785409, c'.shaderOptions.depthBias, c'.shaderOptions.mapSize⟩ hr
    rw [hdivisor] at hreturn
    refine ⟨texel, _, _, hc', ?_, htexel, Loop.turns_radius 2048, Loop.turns_radius 2048, hreturn,
      hvalue, rfl⟩
    rw [ShadowFilter.ofOptions, hradius']
    rfl

end SceneRenderer.Shader
