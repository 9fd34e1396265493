import SceneRenderer.Proofs.Shader.FiniteLiterals
import SceneRenderer.Proofs.Shader.Outlines

/-!
The definitions of a stage under the check of scopes. `PreludeItem.outline` tells of each definition
which structs, functions and macros it uses; the filter over shadow maps, which is written with
numbers, is read like its text without them.
-/

set_option autoImplicit false
set_option relaxedAutoImplicit false

namespace SceneRenderer.Shader

/-! ### Outlines -/

namespace PreludeItem

def isStruct : PreludeItem → Bool
  | materialStruct | incidentLightStruct | reflectedLightStruct | geometryStruct => true
  | _ => false

def usedStructs : PreludeItem → List String
  | lambertLighting | phongLighting | pbrLighting =>
    ["IncidentLight", "Geometry", "Material", "ReflectedLight"]
  | specularGgx => ["IncidentLight", "Geometry"]
  | _ => []

/-- The functions and macros that a definition uses. -/
def usedWords : PreludeItem → List String
  | diffuseLambert | ggxDistribution => ["RECIPROCAL_PI"]
  | lambertLighting | phongLighting => ["saturate", "PI", "BRDF_Diffuse_Lambert"]
  | smithCorrelated => ["EPSILON"]
  | specularGgx => ["saturate", "F_Schlick", "G_GGX_SmithCorrelated", "D_GGX"]
  | pbrLighting => ["saturate", "PI", "BRDF_Diffuse_Lambert", "BRDF_Specular_GGX"]
  | computeShadow _ => ["unpackDepth"]
  | _ => []

def outline (i : PreludeItem) : Outline where
  isType := i.isStruct
  name := i.name.toList
  structs := i.usedStructs.map String.toList
  words := i.usedWords.map String.toList

end PreludeItem

/-- A line that a text keeps when it is split, spelled out. -/
def isPlain (line : List Char) : Bool :=
  !line.isEmpty && line.all fun c ↦ c != '\n' && c != '\r'

theorem plain_of_isPlain {line : String} (h : isPlain line.toList = true) : Plain line := by
  simpa [isPlain, Plain, List.isEmpty_iff] using h

/-- The lines of a definition are plain, and fit the outline. -/
theorem PreludeItem.fits_lines {i : PreludeItem} (hi : ∀ filter, i ≠ .computeShadow filter) :
    ((i.lines.map String.toList).all isPlain && i.outline.fits (i.lines.map String.toList)) =
    true := by
  cases i
  case computeShadow filter => exact absurd rfl (hi filter)
  all_goals
    simp only [outline, PreludeItem.usedStructs, usedWords, PreludeItem.isStruct, PreludeItem.name,
      PreludeItem.lines, functionLines, structLines, blockLines, List.map_cons, List.map_nil,
      List.cons_append, List.nil_append, String.toList_append]
    repeat rw [String.toList_ofList]
    decide +kernel

/-! ### The filter over shadow maps -/

/-- Two lines that every reader takes alike. -/
def SameReading (line line' : String) : Prop :=
  ∀ r : Reader (List Char), r.runLine line = r.runLine line'

theorem SameReading.refl (line : String) : SameReading line line := fun _ ↦ rfl

theorem SameReading.trans {a b c : String} (hab : SameReading a b) (hbc : SameReading b c) :
    SameReading a c := fun r ↦ (hab r).trans (hbc r)

theorem runLines_of_sameReading {lines lines' : List String}
    (hlines : List.Forall₂ SameReading lines lines') (r : Reader (List Char)) :
    r.runLines lines = r.runLines lines' := by
  induction hlines generalizing r with
  | nil => rfl
  | cons hline _ ih => simp only [Reader.runLines, hline r, ih]

/-- A text in front of a number: nothing goes on with it, and it is no directive. -/
def endsBlank (front : List Char) : Bool :=
  decide (scanEnd front = .blank) &&
    match front.dropWhile Text.isBlank with
    | c :: _ => c != '#'
    | [] => false

/-- A text that goes on with a mark behind a number. -/
def startsMark (back : List Char) : Bool :=
  (back.head? == some ';' || back.head? == some ' ') &&
    match (tokens back).head? with
    | some (.mark _) => true
    | _ => false

theorem startsMark_append {back rest : List Char} (hback : startsMark back = true)
    (hblank : scanEnd back = .blank) : startsMark (back ++ rest) = true := by
  have hcut : CutBetween back rest := fun c _ ↦ by rw [hblank]; rfl
  obtain ⟨hhead, hmark⟩ := Bool.and_eq_true_iff.mp hback
  rw [startsMark, List.head?_append_of_ne_nil, hhead, tokens_append hcut,
    List.head?_append_of_ne_nil]
  · exact hmark
  · rintro hnil
    rw [hnil] at hmark
    exact Bool.false_ne_true hmark
  · rintro rfl
    exact Bool.false_ne_true hhead

/-- A literal behind which a mark follows is as good as none. -/
theorem sameReading_literal {literal : List Char} (hliteral : IsLiteral literal)
    (front back : List Char) (hcheck : (endsBlank front && startsMark back) = true)
    {line line' : String} (hline : line.toList = front ++ (literal ++ back))
    (hline' : line'.toList = front ++ back) : SameReading line line' := by
  obtain ⟨hfront, hback⟩ := Bool.and_eq_true_iff.mp hcheck
  obtain ⟨hblank, hcode⟩ := Bool.and_eq_true_iff.mp hfront
  have hblank := of_decide_eq_true hblank
  obtain ⟨hhead, hmark⟩ := Bool.and_eq_true_iff.mp hback
  have hdirective (rest : List Char) : directive? (front ++ rest) = none := by
    rw [directive?, List.dropWhile_append]
    cases hdrop : front.dropWhile Text.isBlank with
    | nil =>
      rw [hdrop] at hcode
      exact absurd hcode Bool.false_ne_true
    | cons c others =>
      rw [hdrop] at hcode
      have hc : c ≠ '#' := by simpa using hcode
      simp [hc]
  have hcut (rest : List Char) : CutBetween front rest := fun c _ ↦ by rw [hblank]; rfl
  have hcut' : CutBetween literal back := by
    obtain ⟨exponent, hnumber⟩ := hliteral.number
    intro c hc
    rw [hnumber]
    rcases Bool.or_eq_true_iff.mp hhead with h | h <;>
    · obtain rfl : c = _ := Option.some.inj (hc.symm.trans (beq_iff_eq.mp h))
      cases exponent <;> rfl
  obtain ⟨c, rest, htokens⟩ : ∃ c rest, tokens back = .mark c :: rest := by
    split at hmark
    · exact ⟨_, List.head?_eq_some_iff.mp ‹_›⟩
    · exact absurd hmark Bool.false_ne_true
  intro r
  rw [Reader.runLine, Reader.runLine, hline, hline', hdirective, hdirective]
  simp only [tokens_append (hcut _), tokens_append hcut', Reader.run_append, htokens]
  rcases hliteral.tokens with hnone | hsign
  · rw [hnone]
    rfl
  · rw [hsign]
    rfl

/-- A literal that stands in a line twice. -/
theorem sameReading_twice {literal : List Char} (hliteral : IsLiteral literal)
    (front middle back : List Char)
    (hcheck : (endsBlank front && startsMark middle && decide (scanEnd middle = .blank) &&
      (endsBlank (front ++ middle) && startsMark back)) = true)
    {line line' : String}
    (hline : line.toList = front ++ (literal ++ (middle ++ (literal ++ back))))
    (hline' : line'.toList = front ++ (middle ++ back)) : SameReading line line' := by
  obtain ⟨hfirst, hsecond⟩ := Bool.and_eq_true_iff.mp hcheck
  obtain ⟨hfirst, hblank⟩ := Bool.and_eq_true_iff.mp hfirst
  obtain ⟨hfront, hmiddle⟩ := Bool.and_eq_true_iff.mp hfirst
  have hrest : startsMark (middle ++ (literal ++ back)) = true :=
    startsMark_append hmiddle (of_decide_eq_true hblank)
  have hone : SameReading line (String.ofList (front ++ (middle ++ (literal ++ back)))) :=
    sameReading_literal hliteral front _ (Bool.and_eq_true_iff.mpr ⟨hfront, hrest⟩) hline
      String.toList_ofList
  refine hone.trans (sameReading_literal hliteral (front ++ middle) back hsecond ?_ ?_)
  · rw [String.toList_ofList, List.append_assoc]
  · rw [hline', List.append_assoc]

/-- The lines of the filter, given its numbers. -/
def filterLines (radius mapSize bias taps : String) : List String :=
  let loop (v : String) :=
    "for (float " ++ v ++ " = -" ++ radius ++ "; " ++ v ++ " <= " ++ radius ++ "; " ++ v ++
      " += 1.0)"
  functionLines "float computeShadow(sampler2D shadowMap, vec4 shadowPosFromLight)" <|
    ["vec3 shadowCoord = shadowPosFromLight.xyz / shadowPosFromLight.w;",
      "float texelSize = 1.0 / " ++ mapSize ++ ";",
      "float shadow = 0.0;"] ++
    functionLines (loop "x") (functionLines (loop "y")
      ["float depth = unpackDepth(texture2D(shadowMap, shadowCoord.xy + vec2(x, y) * texelSize));",
        "shadow += (shadowCoord.z - " ++ bias ++ " > depth) ? 0.0 : 1.0;"]) ++
    ["return shadow / " ++ taps ++ ";"]

theorem fits_filterLines (filter : ShadowFilter) :
    (PreludeItem.outline (.computeShadow filter)).fits
      ((filterLines "" "" "" "").map String.toList) = true := by
  simp only [PreludeItem.outline, PreludeItem.usedStructs, PreludeItem.usedWords,
    PreludeItem.isStruct, PreludeItem.name, filterLines, functionLines, blockLines, List.map_cons,
    List.map_nil, List.cons_append, List.nil_append, String.toList_append]
  repeat rw [String.toList_ofList]
  decide +kernel

/-- The numbers of the filter do not matter for its reading. -/
theorem sameReading_filterLines {radius mapSize bias taps : String}
    (hradius : IsLiteral radius.toList) (hmapSize : IsLiteral mapSize.toList)
    (hbias : IsLiteral bias.toList) (htaps : IsLiteral taps.toList) :
    List.Forall₂ SameReading (filterLines radius mapSize bias taps) (filterLines "" "" "" "") := by
  simp only [filterLines, functionLines, blockLines, List.map_cons, List.map_nil, List.cons_append,
    List.nil_append]
  refine .cons (.refl _) <| .cons (.refl _) <| .cons ?mapSize <| .cons (.refl _) <| .cons ?x <|
    .cons ?y <| .cons (.refl _) <| .cons ?bias <| .cons (.refl _) <| .cons (.refl _) <|
    .cons ?taps <| .cons (.refl _) .nil
  case' mapSize =>
    refine sameReading_literal hmapSize ("    " ++ "float texelSize = 1.0 / ").toList ";".toList
      ?_ ?_ ?_
  case' bias =>
    refine sameReading_literal hbias
      ("    " ++ ("    " ++ ("    " ++ "shadow += (shadowCoord.z - "))).toList
      " > depth) ? 0.0 : 1.0;".toList ?_ ?_ ?_
  case' taps =>
    refine sameReading_literal htaps ("    " ++ "return shadow / ").toList ";".toList
      ?_ ?_ ?_
  case' x =>
    refine sameReading_twice hradius ("    " ++ ("for (float " ++ "x" ++ " = -")).toList
      ("; " ++ "x" ++ " <= ").toList ("; " ++ "x" ++ " += 1.0)" ++ " \x7b").toList
      ?_ ?_ ?_
  case' y =>
    refine sameReading_twice hradius ("    " ++ ("    " ++ ("for (float " ++ "y" ++ " = -"))).toList
      ("; " ++ "y" ++ " <= ").toList ("; " ++ "y" ++ " += 1.0)" ++ " \x7b").toList
      ?_ ?_ ?_
  -- What is left after the equations of the lines are the checks of the texts around the numbers.
  all_goals
    simp only [String.toList_append, List.append_assoc, String.toList_empty, List.nil_append]
  all_goals
    repeat rw [String.toList_ofList]
    decide

theorem plain_filterLines {radius mapSize bias taps : String} (hradius : Plain radius)
    (hmapSize : Plain mapSize) (hbias : Plain bias) (htaps : Plain taps) :
    ∀ line ∈ filterLines radius mapSize bias taps, Plain line := by
  have hloop {v : String} (hv : Plain v) : Plain
      ("for (float " ++ v ++ " = -" ++ radius ++ "; " ++ v ++ " <= " ++ radius ++ "; " ++ v ++
        " += 1.0)") := by
    repeat' apply Plain.append
    all_goals first | assumption | exact plain_ofList (by decide)
  refine plain_functionLines (plain_ofList (by decide)) ?_
  refine List.forall_mem_append.mpr ⟨List.forall_mem_append.mpr ⟨?_, ?_⟩, ?_⟩
  · simp only [List.forall_mem_cons]
    refine ⟨plain_ofList (by decide), .append (.append (plain_ofList (by decide)) hmapSize)
      (plain_ofList (by decide)), plain_ofList (by decide), List.forall_mem_nil _⟩
  · refine plain_functionLines (hloop (plain_ofList (by decide)))
      (plain_functionLines (hloop (plain_ofList (by decide))) ?_)
    simp only [List.forall_mem_cons]
    exact ⟨plain_ofList (by decide), .append (.append (plain_ofList (by decide)) hbias)
      (plain_ofList (by decide)), List.forall_mem_nil _⟩
  · rw [List.forall_mem_singleton]
    exact .append (.append (plain_ofList (by decide)) htaps) (plain_ofList (by decide))

theorem DecimalNumber.positional_ne_nil (d : DecimalNumber) : d.positional.toList ≠ [] := by
  unfold DecimalNumber.positional
  split <;> simp

theorem DecimalNumber.scientific_ne_nil (d : DecimalNumber) : d.scientific.toList ≠ [] := by
  unfold DecimalNumber.scientific
  split
  · rename_i hnone
    exact absurd hnone Nat.toDigits_ne_nil
  · simp

theorem plain_floatLiteral (x : Float32) : Plain (floatLiteral x) := by
  constructor
  · unfold floatLiteral NumberStyle.write
    dsimp only
    split
    · simp [NumberStyle.literal]
    · split
      · simp
      · split
        · simp
        · rw [String.toList_append]
          refine List.append_ne_nil_of_right_ne_nil _ ?_
          split
          · exact DecimalNumber.scientific_ne_nil _
          · exact DecimalNumber.positional_ne_nil _
  · intro c hc
    have hnumeral := numeral_floatLiteral x c hc
    constructor
    · rintro rfl
      exact absurd hnumeral (by decide)
    · rintro rfl
      exact absurd hnumeral (by decide)

/-! ### All definitions -/

theorem PreludeItem.plain_lines (i : PreludeItem) : ∀ line ∈ i.lines, Plain line := by
  by_cases hfilter : ∃ filter, i = .computeShadow filter
  · obtain ⟨filter, rfl⟩ := hfilter
    exact plain_filterLines (plain_floatLiteral _) (plain_floatLiteral _) (plain_floatLiteral _)
      (plain_floatLiteral _)
  · intro line hline
    have hlines := (Bool.and_eq_true_iff.mp (fits_lines fun filter h ↦ hfilter ⟨filter, h⟩)).1
    exact plain_of_isPlain (List.all_eq_true.mp hlines _ (List.mem_map_of_mem hline))

theorem PreludeItem.splitLines_source (i : PreludeItem) : splitLines i.source = i.lines :=
  splitLines_intercalate (by cases i <;> exact List.cons_ne_nil _ _) i.plain_lines

/-- A definition is written with finite numbers. -/
def PreludeItem.IsFinite : PreludeItem → Prop
  | computeShadow filter => filter.bias.isFinite = true
  | _ => True

/-- A definition that finds what its outline lists. -/
theorem AtFile.item {c : Checker} {k : Known} (hc : AtFile c k) {i : PreludeItem} (hi : i.IsFinite)
    (hallows : k.Allows i.outline.effect) :
    ∃ c', Passes c (splitLines i.source) c' ∧ AtFile c' (k.after i.outline.effect) := by
  rw [i.splitLines_source]
  by_cases hfilter : ∃ filter, i = .computeShadow filter
  · obtain ⟨filter, rfl⟩ := hfilter
    obtain ⟨c', hpasses, hc'⟩ := hc.define (fits_filterLines filter) hallows
    refine ⟨c', hpasses.congr (runLines_of_sameReading ?_ c.reader), hc'⟩
    exact sameReading_filterLines (isLiteral_floatLiteral (isFinite_toFloat32 filter.radius))
      (isLiteral_floatLiteral (isFinite_toFloat32 filter.mapSize)) (isLiteral_floatLiteral hi)
      (isLiteral_floatLiteral (isFinite_toFloat32 filter.taps))
  · exact hc.define (Bool.and_eq_true_iff.mp
      (PreludeItem.fits_lines fun filter h ↦ hfilter ⟨filter, h⟩)).2 hallows

end SceneRenderer.Shader
