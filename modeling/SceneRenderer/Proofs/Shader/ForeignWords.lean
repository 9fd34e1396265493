import Mathlib.Tactic.TFAE
import SceneRenderer.Proofs.Shader.Section
import SceneRenderer.Proofs.Shader.Signature

/-!
The identifiers of a text, and words that are no globals. A text splits into its longest runs of
identifier characters; searching it for a pattern with no identifier character on either side finds
the identifiers among these runs and nothing else (`containsIdentifier_tfae`). Its matches do not
overlap, but no run starts inside a match. Everything about `identifiers` follows from
`identifiers_append`: two texts that do not meet inside an identifier keep their identifiers when
they are joined.

The literal parts of shader text are full of identifiers, and none of them may be the text of a
uniform or varying by accident. Comparing each word with each name would take long, so words are
compared by a `fingerprint` that does not depend on the index of a name: a word whose fingerprint is
not among those of the globals is none of them (`foreign_of_fingerprint`).
-/

set_option autoImplicit false
set_option relaxedAutoImplicit false

namespace SceneRenderer.Shader

/-- The longest runs of identifier characters. -/
def identifiers (text : List Char) : List (List Char) :=
  (text.splitOnP fun c ↦ !isIdentifierChar c).filter (!·.isEmpty)

/-- A text that is one identifier. -/
def IsIdentifier (word : List Char) : Prop := word ≠ [] ∧ ∀ c ∈ word, isIdentifierChar c = true

@[simp]
theorem identifiers_nil : identifiers [] = [] := rfl

/-- A text splits at every character that belongs to no identifier. -/
theorem identifiers_append_cons (front back : List Char) {c : Char}
    (hc : isIdentifierChar c = false) :
    identifiers (front ++ c :: back) = identifiers front ++ identifiers back := by
  unfold identifiers
  rw [List.splitOnP_append_cons front back (by simp [hc]), List.filter_append]

theorem identifiers_cons (text : List Char) {c : Char} (hc : isIdentifierChar c = false) :
    identifiers (c :: text) = identifiers text := by
  simpa using identifiers_append_cons [] text hc

theorem identifiers_concat (text : List Char) {c : Char} (hc : isIdentifierChar c = false) :
    identifiers (text ++ [c]) = identifiers text := by
  simpa using identifiers_append_cons text [] hc

theorem identifiers_of_isIdentifier {word : List Char} (hword : IsIdentifier word) :
    identifiers word = [word] := by
  rw [identifiers, List.splitOnP_eq_singleton fun c hc ↦ by simp [hword.2 c hc]]
  simp [hword.1]

/-- One of two neighbouring texts ends the identifiers of the other. -/
def Apart (front back : List Char) : Prop :=
  (∀ c ∈ front.getLast?, isIdentifierChar c = false) ∨
    ∀ c ∈ back.head?, isIdentifierChar c = false

/-- Texts that do not meet inside an identifier keep their identifiers when they are joined. -/
theorem identifiers_append {front back : List Char} (hapart : Apart front back) :
    identifiers (front ++ back) = identifiers front ++ identifiers back := by
  rcases hapart with hfront | hback
  · rcases List.eq_nil_or_concat front with rfl | ⟨init, c, rfl⟩
    · rfl
    · have hc : isIdentifierChar c = false := hfront c (by simp)
      rw [List.concat_eq_append, identifiers_concat init hc, List.append_assoc]
      exact identifiers_append_cons init back hc
  · cases back with
    | nil => simp
    | cons c rest =>
      have hc : isIdentifierChar c = false := hback c rfl
      rw [identifiers_append_cons front rest hc, identifiers_cons rest hc]

theorem isIdentifier_first {c : Char} (hc : isIdentifierChar c = true) (rest : List Char) :
    IsIdentifier (c :: rest.takeWhile isIdentifierChar) :=
  ⟨List.cons_ne_nil _ _,
    List.forall_mem_cons.mpr ⟨hc, fun _ hd ↦ List.mem_takeWhile_imp hd⟩⟩

theorem not_isIdentifierChar_behind (text : List Char) :
    ∀ c ∈ (text.dropWhile isIdentifierChar).head?, isIdentifierChar c = false := by
  intro c hc
  have hstop := List.head?_dropWhile_not isIdentifierChar text
  rwa [hc] at hstop

/-- The identifiers of a text that starts inside one: the run at the front, and the others. -/
theorem identifiers_cons_of_isIdentifierChar {c : Char} (hc : isIdentifierChar c = true)
    (rest : List Char) :
    identifiers (c :: rest) =
      (c :: rest.takeWhile isIdentifierChar) :: identifiers (rest.dropWhile isIdentifierChar) := by
  have hapart : Apart (c :: rest.takeWhile isIdentifierChar)
      (rest.dropWhile isIdentifierChar) := .inr (not_isIdentifierChar_behind rest)
  have hsplit : c :: rest = c :: rest.takeWhile isIdentifierChar ++
      rest.dropWhile isIdentifierChar := by
    rw [List.cons_append, List.takeWhile_append_dropWhile]
  rw [hsplit, identifiers_append hapart, identifiers_of_isIdentifier (isIdentifier_first hc rest)]
  rfl

/-! ### Longest runs -/

/-- An identifier in a text that cannot be made longer by what stands around it. -/
def IsMaximalRun (text word : List Char) : Prop :=
  IsIdentifier word ∧ ∃ front back, text = front ++ word ++ back ∧
    ∀ left right, left <:+ front → right <+: back → IsIdentifier (left ++ word ++ right) →
      left = [] ∧ right = []

/-- An identifier cannot be made longer just if it is cut off on both sides. -/
theorem isMaximalRun_iff {text word : List Char} : IsMaximalRun text word ↔
    IsIdentifier word ∧ ∃ front back, text = front ++ word ++ back ∧
      (∀ c ∈ front.getLast?, isIdentifierChar c = false) ∧
      ∀ c ∈ back.head?, isIdentifierChar c = false := by
  refine and_congr_right fun hword ↦ exists_congr fun front ↦ exists_congr fun back ↦
    and_congr_right fun _ ↦ ⟨fun hmaximal ↦ ⟨fun c hc ↦ ?_, fun c hc ↦ ?_⟩, ?_⟩
  · obtain ⟨init, hinit⟩ := List.getLast?_eq_some_iff.mp hc
    by_contra hjoins
    have hlonger : IsIdentifier ([c] ++ word ++ []) := by
      rw [List.append_nil]
      exact ⟨by simp, List.forall_mem_cons.mpr ⟨by simpa using hjoins, hword.2⟩⟩
    exact List.cons_ne_nil _ _ (hmaximal [c] [] ⟨init, hinit.symm⟩ List.nil_prefix hlonger).1
  · obtain ⟨rest, hrest⟩ := List.head?_eq_some_iff.mp hc
    by_contra hjoins
    have hlonger : IsIdentifier ([] ++ word ++ [c]) :=
      ⟨by simp, List.forall_mem_append.mpr ⟨hword.2, by simpa using hjoins⟩⟩
    exact List.cons_ne_nil _ _ (hmaximal [] [c] List.nil_suffix ⟨rest, hrest.symm⟩ hlonger).2
  · rintro ⟨hfront, hback⟩ left right ⟨init, rfl⟩ ⟨rest, rfl⟩ hlonger
    constructor
    · by_contra hsome
      have hlast := hlonger.2 (left.getLast hsome) (by simp)
      rw [hfront _ (by simp [List.getLast?_eq_some_getLast hsome])] at hlast
      exact Bool.false_ne_true hlast
    · by_contra hsome
      have hfirst := hlonger.2 (right.head hsome) (by simp)
      rw [hback _ (by simp [List.head?_eq_some_head hsome])] at hfirst
      exact Bool.false_ne_true hfirst

/-- A run behind a character of no identifier does not change with what stands before it. -/
theorem IsMaximalRun.append_cons {back word : List Char} (hrun : IsMaximalRun back word)
    (front : List Char) {c : Char} (hc : isIdentifierChar c = false) :
    IsMaximalRun (front ++ c :: back) word := by
  obtain ⟨hword, init, rest, rfl, hfront, hback⟩ := isMaximalRun_iff.mp hrun
  refine isMaximalRun_iff.mpr ⟨hword, front ++ c :: init, rest, by simp, fun d hd ↦ ?_, hback⟩
  cases hlast : init.getLast? with
  | none =>
    obtain rfl : c = d := by simpa [List.getLast?_cons, hlast] using hd
    exact hc
  | some last =>
    obtain rfl : last = d := by simpa [List.getLast?_cons, hlast] using hd
    exact hfront last hlast

/-- Splitting a text gives its longest runs. -/
theorem mem_identifiers_iff {text word : List Char} :
    word ∈ identifiers text ↔ IsMaximalRun text word := by
  constructor
  · intro hword
    induction hlength : text.length using Nat.strong_induction_on generalizing text with
    | _ length ih =>
      cases text with
      | nil => exact absurd hword List.not_mem_nil
      | cons c rest =>
        subst hlength
        cases hc : isIdentifierChar c with
        | false =>
          rw [identifiers_cons rest hc] at hword
          exact (ih _ (Nat.lt_succ_self _) hword rfl).append_cons [] hc
        | true =>
          have hrun := isIdentifier_first hc rest
          have hbehind := not_isIdentifierChar_behind rest
          have hsplit : rest.takeWhile isIdentifierChar ++ rest.dropWhile isIdentifierChar = rest :=
            List.takeWhile_append_dropWhile
          rw [identifiers_cons_of_isIdentifierChar hc, List.mem_cons] at hword
          generalize rest.takeWhile isIdentifierChar = first at *
          generalize rest.dropWhile isIdentifierChar = others at *
          subst hsplit
          rcases hword with rfl | hword
          · exact isMaximalRun_iff.mpr ⟨hrun, [], others, rfl, nofun, hbehind⟩
          · cases others with
            | nil => exact absurd hword List.not_mem_nil
            | cons d others =>
              have hd : isIdentifierChar d = false := hbehind d rfl
              rw [identifiers_cons others hd] at hword
              exact (ih _ (by simp; omega) hword rfl).append_cons (c :: first) hd
  · intro hrun
    obtain ⟨hword, front, back, rfl, hfront, hback⟩ := isMaximalRun_iff.mp hrun
    have hrest : identifiers (word ++ back) = word :: identifiers back := by
      rw [identifiers_append (.inr hback), identifiers_of_isIdentifier hword]
      rfl
    rw [List.append_assoc, identifiers_append (.inl hfront), hrest]
    exact List.mem_append_right _ List.mem_cons_self

/-! ### Searching for an identifier -/

/-- What is left of a text behind the identifier that the character before it is part of. -/
def pastIdentifier (before : Option Char) (text : List Char) : List Char :=
  if before.any isIdentifierChar then text.dropWhile isIdentifierChar else text

/-- An identifier at the front of a text, with no more of it behind, is the first run. -/
theorem isPrefix_first_iff {word rest : List Char} (hword : IsIdentifier word) {c : Char}
    (hc : isIdentifierChar c = true) :
    (word.isPrefixOf (c :: rest) = true ∧
        ((c :: rest).drop word.length).head?.any isIdentifierChar = false) ↔
      word = c :: rest.takeWhile isIdentifierChar := by
  have hrun : (c :: rest).takeWhile isIdentifierChar = c :: rest.takeWhile isIdentifierChar :=
    List.takeWhile_cons_of_pos hc
  rw [← hrun]
  constructor
  · rintro ⟨hstart, hend⟩
    obtain ⟨back, hback⟩ := List.isPrefixOf_iff_prefix.mp hstart
    rw [← hback, List.drop_left] at hend
    rw [← hback, List.takeWhile_append_of_pos hword.2]
    cases back with
    | nil => simp
    | cons d back => simp [show isIdentifierChar d = false by simpa using hend]
  · intro heq
    have hsplit : word ++ (c :: rest).dropWhile isIdentifierChar = c :: rest := by
      rw [heq, List.takeWhile_append_dropWhile]
    refine ⟨List.isPrefixOf_iff_prefix.mpr ⟨_, hsplit⟩, ?_⟩
    rw [← hsplit, List.drop_left]
    simpa [Option.any_eq_false] using not_isIdentifierChar_behind (c :: rest)

/-- The search visits the text character by character. Inside an identifier, which includes all that
it skips, it can find nothing before the identifier ends. -/
theorem occursAlone_iff {word : List Char} (hword : IsIdentifier word) (before : Option Char)
    (skip : Nat) (text : List Char) (hskip : ∀ c ∈ text.take skip, isIdentifierChar c = true)
    (hbefore : 0 < skip → before.any isIdentifierChar = true) :
    occursAlone word before skip text = true ↔ word ∈ identifiers (pastIdentifier before text) := by
  induction text generalizing before skip with
  | nil =>
    have hempty : identifiers (pastIdentifier before []) = [] := by
      unfold pastIdentifier
      split <;> rfl
    rw [hempty]
    cases skip <;> simp [occursAlone, hword.1]
  | cons c rest ih =>
    have hinside (hc : isIdentifierChar c = true) :
        pastIdentifier (some c) rest = rest.dropWhile isIdentifierChar := if_pos hc
    cases skip with
    | succ k =>
      have hc : isIdentifierChar c = true := hskip c (by simp)
      have hrest : ∀ d ∈ rest.take k, isIdentifierChar d = true := fun d hd ↦
        hskip d (by simp [hd])
      rw [occursAlone, ih (some c) k hrest fun _ ↦ hc, hinside hc, pastIdentifier,
        if_pos (hbefore (Nat.succ_pos k)), List.dropWhile_cons_of_pos hc]
    | zero =>
      cases hc : isIdentifierChar c with
      | false =>
        have hstart : word.isPrefixOf (c :: rest) = false := by
          by_contra hstart
          obtain ⟨d, others, rfl⟩ := List.exists_cons_of_ne_nil hword.1
          have hhead : isIdentifierChar d = true := hword.2 d List.mem_cons_self
          simp_all
        have hpast : pastIdentifier before (c :: rest) = c :: rest := by
          unfold pastIdentifier
          split
          · exact List.dropWhile_cons_of_neg (by simp [hc])
          · rfl
        have hoff : pastIdentifier (some c) rest = rest := if_neg (by simp [hc])
        rw [occursAlone, hstart, hpast, identifiers_cons rest hc]
        simpa [hoff] using ih (some c) 0 (by simp) nofun
      | true =>
        have hskipped :
            ∀ d ∈ rest.take (if word.isPrefixOf (c :: rest) then word.length - 1 else 0),
            isIdentifierChar d = true := by
          split
          · rename_i hstart
            obtain ⟨d, others, rfl⟩ := List.exists_cons_of_ne_nil hword.1
            obtain ⟨back, hback⟩ := List.isPrefixOf_iff_prefix.mp hstart
            obtain ⟨rfl, rfl⟩ := List.cons.inj hback
            intro e he
            exact hword.2 e (List.mem_cons_of_mem _ (by simpa using he))
          · simp
        have hlater := ih (some c) _ hskipped fun _ ↦ hc
        rw [hinside hc] at hlater
        rw [occursAlone, Bool.or_eq_true, hlater, pastIdentifier]
        cases hjoined : before.any isIdentifierChar with
        | true => simp [List.dropWhile_cons_of_pos hc]
        | false =>
          rw [if_neg Bool.false_ne_true, identifiers_cons_of_isIdentifierChar hc, List.mem_cons,
            ← isPrefix_first_iff hword hc]
          simp

/-- A text mentions an identifier if it is among the identifiers of the text. -/
theorem containsIdentifier_iff {text identifier : String}
    (hidentifier : IsIdentifier identifier.toList) :
    containsIdentifier text identifier = true ↔
      identifier.toList ∈ identifiers text.toList :=
  occursAlone_iff hidentifier none 0 text.toList (by simp) nofun

/-- A text mentions an identifier if it is among the parts that the text splits into, that is if it
is one of the longest runs of identifier characters in the text. -/
theorem containsIdentifier_tfae {text identifier : String}
    (hidentifier : IsIdentifier identifier.toList) :
    [containsIdentifier text identifier = true,
      identifier.toList ∈ identifiers text.toList,
      IsMaximalRun text.toList identifier.toList].TFAE := by
  tfae_have 1 ↔ 2 := containsIdentifier_iff hidentifier
  tfae_have 2 ↔ 3 := mem_identifiers_iff
  tfae_finish

/-- The first two letters are skipped together, and the third one belongs to the same run. -/
theorem containsIdentifier_tfae_overlapping :
    IsIdentifier "aa".toList ∧ containsIdentifier "éaaa,aaé" "aa" = true ∧
      IsMaximalRun "éaaa,aaé".toList "aa".toList ∧
      containsIdentifier "éaaa,éaaaa" "aa" = false ∧
      ¬ IsMaximalRun "éaaa,éaaaa".toList "aa".toList := by
  have hidentifier : IsIdentifier "aa".toList := ⟨by decide, List.all_eq_true.mp rfl⟩
  have hruns (text : String) :
      containsIdentifier text "aa" = true ↔ IsMaximalRun text.toList "aa".toList :=
    (containsIdentifier_tfae hidentifier).out 0 2
  have hfound : containsIdentifier "éaaa,aaé" "aa" = true := by decide
  have hmissed : containsIdentifier "éaaa,éaaaa" "aa" = false := by decide
  refine ⟨hidentifier, hfound, (hruns _).mp hfound, hmissed, ?_⟩
  rw [← hruns, hmissed]
  exact Bool.false_ne_true

namespace Stage

/-- The text that a stage runs: its definitions and the statements of its main function. -/
def code (s : Stage) : List String := s.definitions.map Definition.source ++ s.statements

/-- Whether an identifier is among the identifiers of the code. -/
def Names (s : Stage) (identifier : String) : Prop :=
  ∃ text ∈ s.code, identifier.toList ∈ identifiers text.toList

theorem mentions_iff (s : Stage) {identifier : String}
    (hidentifier : IsIdentifier identifier.toList) :
    s.mentions identifier = true ↔ s.Names identifier := by
  simp only [mentions, Names, code, Bool.or_eq_true, List.any_eq_true,
    containsIdentifier_iff hidentifier, List.mem_append, List.mem_map]
  constructor
  · rintro (⟨d, hd, hmem⟩ | ⟨line, hline, hmem⟩)
    · exact ⟨d.source, .inl ⟨d, hd, rfl⟩, hmem⟩
    · exact ⟨line, .inr hline, hmem⟩
  · rintro ⟨text, ⟨d, hd, rfl⟩ | hline, hmem⟩
    · exact .inl ⟨d, hd, hmem⟩
    · exact .inr ⟨text, hline, hmem⟩

end Stage

/-! ### Globals -/

namespace Name

/-- The names that a stage may declare: uniforms and varyings, and in the vertex stage what is read
from vertex data. -/
def isGlobal (kind : StageKind) : Name → Bool
  | textureUv _ | texel _ => false
  | vertexInput _ => kind == .vertex
  | _ => true

end Name

/-! ### Names as identifiers -/

theorem isIdentifier_append {front back : List Char} (hfront : IsIdentifier front)
    (hback : ∀ c ∈ back, isIdentifierChar c = true) : IsIdentifier (front ++ back) := by
  refine ⟨by simp [hfront.1], fun c hc ↦ ?_⟩
  rcases List.mem_append.mp hc with hc | hc
  · exact hfront.2 c hc
  · exact hback c hc

theorem isIdentifier_ofList {chars : List Char}
    (h : (!chars.isEmpty && chars.all isIdentifierChar) = true) :
    IsIdentifier (String.ofList chars).toList := by
  rw [String.toList_ofList]
  simpa [IsIdentifier, List.isEmpty_iff] using h

theorem isIdentifierChar_of_isDigit {c : Char} (hc : c.isDigit = true) :
    isIdentifierChar c = true := by
  simp [isIdentifierChar, Char.isAlphanum, hc]

theorem isIdentifier_indexedName {stem : String} (hstem : IsIdentifier stem.toList) (i : UInt32) :
    IsIdentifier (indexedName stem i).toList := by
  rw [indexedName, String.toList_append]
  refine isIdentifier_append hstem fun c hc ↦ isIdentifierChar_of_isDigit ?_
  have hdigits : c ∈ Nat.toDigits 10 i.toNat := by simpa [Nat.toString_eq_repr] using hc
  exact Nat.isDigit_of_mem_toDigits (by decide) (by decide) hdigits

theorem isIdentifier_textureStem (c : TextureChannel) : IsIdentifier c.stem.toList := by
  cases c <;> exact isIdentifier_ofList (by decide)

theorem isIdentifier_fresnelStem (c : FresnelChannel) : IsIdentifier c.stem.toList := by
  cases c <;> exact isIdentifier_ofList (by decide)

theorem isIdentifier_stem_append {stem ending : String} (hstem : IsIdentifier stem.toList)
    (hending : IsIdentifier ending.toList) : IsIdentifier (stem ++ ending).toList := by
  rw [String.toList_append]
  exact isIdentifier_append hstem hending.2

/-- The text of a name is one identifier. -/
theorem Name.isIdentifier_text (n : Name) : IsIdentifier n.text.toList := by
  cases n with
  | vertexInput a => cases a <;> exact isIdentifier_ofList (by decide)
  | textureMap c | textureMatrix c | textureUv c | texel c =>
    exact isIdentifier_stem_append (isIdentifier_textureStem c) (isIdentifier_ofList (by decide))
  | fresnelEdgeBias c | fresnelCenterBias c | fresnelPower c | fresnelEdgeColor c
  | fresnelCenterColor c =>
    exact isIdentifier_stem_append (isIdentifier_fresnelStem c) (isIdentifier_ofList (by decide))
  | lightColor i | lightDir i | lightPos i | lightAttenuation i | lightCutoff i | vLight i
  | vSpotDir i | shadowMap i | shadowViewMatrix i | shadowProjMatrix i | vShadowPos i
  | clipActive i | clipPos i | clipDir i =>
    exact isIdentifier_indexedName (isIdentifier_ofList (by decide)) i
  | _ => exact isIdentifier_ofList (by decide)

/-! ### Fingerprints -/

/-- The characters of a word with the digits at its end replaced by a single zero. -/
def familyChars (word : List Char) : List Char :=
  word.rdropWhile Char.isDigit ++ if word.rtakeWhile Char.isDigit = [] then [] else ['0']

/-- A number that is the same for all names of a family. -/
def fingerprint (word : List Char) : Nat :=
  (familyChars word).foldl (fun sum c ↦ (27 * sum + c.toNat) % 4096) 0

/-- Numbers as the bits of one number, which the kernel looks up at once. -/
def bitSet (numbers : List Nat) : Nat := numbers.foldl (fun set n ↦ set ||| 1 <<< n) 0

/-- The fingerprints of uniforms and varyings. -/
def globalFingerprints : Nat := bitSet
  [57, 185, 219, 302, 330, 354, 396, 401, 428, 507, 529, 609, 698, 772, 833, 870, 901, 946, 984,
    1066, 1125, 1158, 1170, 1196, 1230, 1261, 1310, 1407, 1425, 1426, 1439, 1521, 1586, 1621, 1643,
    1710, 1736, 1765, 1830, 1862, 1864, 1965, 2061, 2095, 2202, 2256, 2315, 2346, 2387, 2425, 2462,
    2467, 2474, 2514, 2566, 2614, 2618, 2638, 2652, 2765, 2925, 2983, 3083, 3085, 3096, 3135, 3142,
    3145, 3217, 3244, 3248, 3269, 3283, 3292, 3307, 3325, 3355, 3423, 3515, 3521, 3554, 3562, 3593,
    3657, 3663, 3729, 3771, 3772, 3797, 3798, 3911, 3926, 3942, 4003, 4016, 4067]

/-- The fingerprints of what is read from vertex data. -/
def vertexFingerprints : Nat := bitSet [1107, 1435, 1761, 3277]

/-- The fingerprints of the names that a stage may declare. -/
def fingerprints : StageKind → Nat
  | .vertex => vertexFingerprints ||| globalFingerprints
  | .fragment => globalFingerprints

theorem fingerprint_ofList {chars : List Char} {table : Nat}
    (h : table.testBit (fingerprint chars) = true) :
    table.testBit (fingerprint (String.ofList chars).toList) = true := by
  rwa [String.toList_ofList]

theorem fingerprint_ofList_append {front back : List Char} {table : Nat}
    (h : table.testBit (fingerprint (front ++ back)) = true) :
    table.testBit (fingerprint (String.ofList front ++ String.ofList back).toList) = true := by
  rwa [String.toList_append, String.toList_ofList, String.toList_ofList]

/-- The fingerprint of an indexed name does not depend on its index. -/
theorem fingerprint_indexedName {stem : List Char} {table : Nat} (i : UInt32)
    (h : (stem.getLast?.all (!·.isDigit) && table.testBit (fingerprint (stem ++ ['0']))) = true) :
    table.testBit (fingerprint (indexedName (String.ofList stem) i).toList) = true := by
  obtain ⟨hstem, htable⟩ := Bool.and_eq_true_iff.mp h
  have hfamily (j : UInt32) : familyChars (indexedName (String.ofList stem) j).toList =
      (indexedName (String.ofList stem) 0).toList :=
    congrArg Prod.fst (splitIndex_indexedName _ j (by rwa [String.toList_ofList]))
  have hzero : (indexedName (String.ofList stem) 0).toList = stem ++ ['0'] := by
    simp [indexedName]
  rwa [fingerprint, hfamily i, ← hfamily 0, ← fingerprint, hzero]

/-- The fingerprints of the globals are listed. -/
theorem testBit_fingerprint {kind : StageKind} {n : Name} (hn : n.isGlobal kind = true) :
    (fingerprints kind).testBit (fingerprint n.text.toList) = true := by
  have hglobal : globalFingerprints.testBit (fingerprint n.text.toList) = true →
      (fingerprints kind).testBit (fingerprint n.text.toList) = true := by
    intro h
    cases kind with
    | vertex => rw [fingerprints, Nat.testBit_or, h, Bool.or_true]
    | fragment => exact h
  cases n with
  | vertexInput a =>
    cases kind with
    | vertex =>
      rw [fingerprints, Nat.testBit_or, Bool.or_eq_true]
      cases a <;> exact .inl (fingerprint_ofList (by decide))
    | fragment => exact absurd hn Bool.false_ne_true
  | textureUv c | texel c => exact absurd hn Bool.false_ne_true
  | textureMap c | textureMatrix c =>
    cases c <;> exact hglobal (fingerprint_ofList_append (by decide))
  | fresnelEdgeBias c | fresnelCenterBias c | fresnelPower c | fresnelEdgeColor c
  | fresnelCenterColor c =>
    cases c <;> exact hglobal (fingerprint_ofList_append (by decide))
  | lightColor i | lightDir i | lightPos i | lightAttenuation i | lightCutoff i | vLight i
  | vSpotDir i | shadowMap i | shadowViewMatrix i | shadowProjMatrix i | vShadowPos i
  | clipActive i | clipPos i | clipDir i =>
    exact hglobal (fingerprint_indexedName i (by decide))
  | _ => exact hglobal (fingerprint_ofList (by decide))

/-- A word that is the text of no name that a stage of this kind may declare. -/
def Foreign (kind : StageKind) (word : List Char) : Prop :=
  ∀ n : Name, n.isGlobal kind = true → n.text.toList ≠ word

theorem foreign_of_fingerprint {kind : StageKind} {word : List Char}
    (hword : (fingerprints kind).testBit (fingerprint word) = false) : Foreign kind word := by
  rintro n hn rfl
  rw [testBit_fingerprint hn] at hword
  exact Bool.false_ne_true hword.symm

end SceneRenderer.Shader
