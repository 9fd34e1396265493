import SceneRenderer.Proofs.Shader.CanonicalKey
import SceneRenderer.Proofs.Shader.ForeignWords

/-!
What a stage names, read off the records that filled it. A line is put together from literal parts
and names; where no literal part contains a global or touches an identifier of its neighbours, the
globals that the line names are the names among its parts (`mem_identifiers_text`), and the globals
that a stage names are those of its lines (`Built.names_iff`). Numbers are such parts: whatever a
number is, the characters it is written with make up no global.
-/

set_option autoImplicit false
set_option relaxedAutoImplicit false

namespace SceneRenderer.Shader

open Shader.Record Name

/-! ### Literal text -/

/-- A text without globals. It is closed at an end where it begins or ends no identifier, whatever
it is joined with. -/
structure InertText (kind : StageKind) (front back : Bool) (text : String) : Prop where
  foreign : ∀ word ∈ identifiers text.toList, Foreign kind word
  front : front = true → ∃ c rest, text.toList = c :: rest ∧ isIdentifierChar c = false
  back : back = true → ∃ rest c, text.toList = rest ++ [c] ∧ isIdentifierChar c = false

/-- The check of a text without globals, on its characters. -/
def isInert (kind : StageKind) (front back : Bool) (text : List Char) : Bool :=
  ((identifiers text).all fun word ↦ !(fingerprints kind).testBit (fingerprint word)) &&
    (!front || text.head?.any (!isIdentifierChar ·)) &&
    (!back || text.getLast?.any (!isIdentifierChar ·))

theorem inertText_ofList {kind : StageKind} {front back : Bool} {chars : List Char}
    (h : isInert kind front back chars = true) :
    InertText kind front back (String.ofList chars) := by
  simp only [isInert, Bool.and_eq_true, Bool.or_eq_true, Bool.not_eq_true', List.all_eq_true] at h
  obtain ⟨⟨hforeign, hfront⟩, hback⟩ := h
  refine ⟨?_, ?_, ?_⟩
  · intro word hword
    rw [String.toList_ofList] at hword
    exact foreign_of_fingerprint (hforeign word hword)
  · rintro rfl
    rw [String.toList_ofList]
    cases chars with
    | nil => simp at hfront
    | cons c rest => exact ⟨c, rest, rfl, by simpa using hfront⟩
  · rintro rfl
    rw [String.toList_ofList]
    rcases List.eq_nil_or_concat chars with rfl | ⟨rest, c, rfl⟩
    · simp at hback
    · exact ⟨rest, c, List.concat_eq_append, by simpa using hback⟩

namespace InertText

variable {kind : StageKind} {front back : Bool} {a b : String}

theorem apart (ha : InertText kind front true a) (text : List Char) : Apart a.toList text := by
  obtain ⟨rest, c, hrest, hc⟩ := ha.back rfl
  refine .inl fun d hd ↦ ?_
  rw [hrest, List.getLast?_concat, Option.mem_some] at hd
  exact hd ▸ hc

/-- A literal that goes on after its first part. -/
theorem append (ha : InertText kind front true a) (hb : InertText kind false back b) :
    InertText kind front back (a ++ b) := by
  refine ⟨?_, ?_, ?_⟩
  · intro word hword
    rw [String.toList_append, identifiers_append (ha.apart _)] at hword
    rcases List.mem_append.mp hword with hword | hword
    · exact ha.foreign word hword
    · exact hb.foreign word hword
  · intro hf
    obtain ⟨c, rest, hrest, hc⟩ := ha.front hf
    exact ⟨c, rest ++ b.toList, by rw [String.toList_append, hrest]; rfl, hc⟩
  · intro hb'
    obtain ⟨rest, c, hrest, hc⟩ := hb.back hb'
    exact ⟨a.toList ++ rest, c, by rw [String.toList_append, hrest, List.append_assoc], hc⟩

/-- Any text without globals between two literals that are closed towards it. -/
theorem insert {text : String} (ha : InertText kind front true a)
    (htext : InertText kind false false text) (hb : InertText kind true back b) :
    InertText kind front back (a ++ text ++ b) := by
  obtain ⟨c, rest, hb', hc⟩ := hb.front rfl
  have hapart : Apart (a ++ text).toList b.toList := by
    refine .inr fun d hd ↦ ?_
    rw [hb', List.head?_cons, Option.mem_some] at hd
    exact hd ▸ hc
  have hfirst := ha.append htext
  refine ⟨?_, ?_, ?_⟩
  · intro word hword
    rw [String.toList_append, identifiers_append hapart] at hword
    rcases List.mem_append.mp hword with hword | hword
    · exact hfirst.foreign word hword
    · exact hb.foreign word hword
  · intro hf
    obtain ⟨d, others, hchars, hd⟩ := hfirst.front hf
    exact ⟨d, others ++ b.toList, by rw [String.toList_append, hchars]; rfl, hd⟩
  · intro hback
    obtain ⟨others, d, hchars, hd⟩ := hb.back hback
    exact ⟨(a ++ text).toList ++ others, d,
      by rw [String.toList_append, hchars, List.append_assoc], hd⟩

end InertText

/-! ### Lines -/

def Piece.name? : Piece → Option Name
  | .literal _ => none
  | .name n => some n

namespace Line

/-- The names among the parts of a line. -/
def names (line : Line) : List Name := line.filterMap Piece.name?

/-- No literal part contains a global, and no two parts meet inside an identifier. The flag tells
whether an identifier may still go on where the line starts. -/
def Inert (kind : StageKind) : Bool → Line → Prop
  | _, [] => True
  | running, .literal s :: rest =>
    ∃ closed, InertText kind running closed s ∧ Inert kind (!closed) rest
  | running, .name _ :: rest => running = false ∧ Inert kind true rest

variable {kind : StageKind} {running : Bool} {line : Line}

theorem text_cons (p : Piece) (rest : Line) : text (p :: rest) = p.text ++ text rest := by
  simp [text, String.join_cons]

/-- A line that may follow an identifier does not start inside one. -/
theorem head?_text (hline : Inert kind true line) :
    ∀ c ∈ (text line).toList.head?, isIdentifierChar c = false := by
  match line, hline with
  | [], _ => simp [text]
  | .literal s :: rest, ⟨_, hs, _⟩ =>
    obtain ⟨c, others, hchars, hc⟩ := hs.front rfl
    intro d hd
    rw [text_cons, Piece.text, String.toList_append, hchars] at hd
    cases hd
    exact hc

/-- The identifiers of an inert line are those of its parts. -/
theorem identifiers_text (hline : Inert kind running line) :
    identifiers (text line).toList = line.flatMap fun p ↦ identifiers p.text.toList := by
  induction line generalizing running with
  | nil => rfl
  | cons p rest ih =>
    rw [text_cons, String.toList_append, List.flatMap_cons]
    cases p with
    | literal s =>
      obtain ⟨closed, hs, hrest⟩ := hline
      rw [← ih hrest]
      refine identifiers_append ?_
      cases closed with
      | true => exact hs.apart _
      | false => exact .inr (head?_text hrest)
    | name n =>
      obtain ⟨_, hrest⟩ := hline
      rw [← ih hrest]
      exact identifiers_append (.inr (head?_text hrest))

/-- The globals among the identifiers of an inert line are those among its parts. -/
theorem mem_identifiers_text (hline : Inert kind running line) {n : Name}
    (hn : n.isGlobal kind = true) :
    n.text.toList ∈ identifiers (text line).toList ↔ n ∈ names line := by
  rw [identifiers_text hline]
  induction line generalizing running with
  | nil => simp [names]
  | cons p rest ih =>
    rw [List.flatMap_cons, List.mem_append]
    cases p with
    | literal s =>
      obtain ⟨_, hs, hrest⟩ := hline
      have hforeign : n.text.toList ∉ identifiers s.toList := fun hmem ↦
        hs.foreign _ hmem n hn rfl
      rw [ih hrest]
      exact or_iff_right hforeign
    | name m =>
      obtain ⟨_, hrest⟩ := hline
      rw [ih hrest, Piece.text, identifiers_of_isIdentifier m.isIdentifier_text,
        List.mem_singleton, String.toList_inj, Name.text_injective.eq_iff]
      simp [names, Piece.name?]

end Line

/-! ### Records -/

namespace Record

/-- The parts of the line that a record adds to the main function. -/
def body : Record → Line
  | statement line | openBlock line => line
  | _ => []

/-- The names among the parts of the line that a record adds. -/
def named (r : Record) : List Name := r.body.names

end Record

/-- The globals that a definition names: its own parameters shadow them. -/
def PreludeItem.named : PreludeItem → List Name
  | .gammaToLinear | .linearToGamma => [gammaFactor]
  | _ => []

/-- A definition names no globals but the ones listed. -/
def PreludeItem.Inert (kind : StageKind) (i : PreludeItem) : Prop :=
  ∀ n : Name, n.isGlobal kind = true → n.text.toList ∈ identifiers i.source.toList → n ∈ i.named

def Record.Inert (kind : StageKind) : Record → Prop
  | define i => i.Inert kind
  | r => r.body.Inert kind false

/-- The names among the parts of the lines that records add to the main function. -/
def bodyNames (records : List Record) : List Name := records.flatMap Record.named

section Records

variable {kind : StageKind} {n : Name}

theorem identifiers_of_forall {text : List Char}
    (htext : ∀ c ∈ text, isIdentifierChar c = false) : identifiers text = [] := by
  induction text with
  | nil => rfl
  | cons c rest ih =>
    rw [identifiers_cons rest (htext c List.mem_cons_self)]
    exact ih fun d hd ↦ htext d (List.mem_cons_of_mem _ hd)

/-- Indentation leaves the identifiers of a line. -/
theorem identifiers_indent (depth : Nat) (line : String) :
    identifiers (indent depth line).toList = identifiers line.toList := by
  have hblank : ∀ c ∈ (String.join (List.replicate depth "    ")).toList,
      isIdentifierChar c = false := by
    induction depth with
    | zero => simp
    | succ depth ih =>
      rw [List.replicate_succ, String.join_cons, String.toList_append]
      intro c hc
      rcases List.mem_append.mp hc with hc | hc
      · have hspace : c = ' ' := by simpa using hc
        rw [hspace]
        decide
      · exact ih c hc
  rw [indent, String.toList_append, identifiers_append, identifiers_of_forall hblank,
    List.nil_append]
  exact .inl fun c hc ↦ hblank c (List.mem_of_getLast? hc)

theorem identifiers_append_brace (header : String) :
    identifiers (header ++ " \x7b").toList = identifiers header.toList := by
  have hbrace : identifiers " \x7b".toList = [] :=
    identifiers_of_forall (by simp [isIdentifierChar])
  rw [String.toList_append, identifiers_append, hbrace, List.append_nil]
  exact .inr (by simp [isIdentifierChar])

/-- The globals that a record names in the lines it adds. -/
theorem mem_statementLines_toCall {r : Record} (hr : r.Inert kind) (hn : n.isGlobal kind = true)
    (depth : Nat) :
    (∃ line ∈ r.toCall.statementLines depth, n.text.toList ∈ identifiers line.toList) ↔
      n ∈ r.named := by
  cases r with
  | statement line =>
    simp only [Record.toCall, Call.statementLines, List.mem_singleton, exists_eq_left,
      identifiers_indent]
    exact Line.mem_identifiers_text hr hn
  | openBlock header =>
    simp only [Record.toCall, Call.statementLines, List.mem_singleton, exists_eq_left,
      identifiers_indent, identifiers_append_brace]
    exact Line.mem_identifiers_text hr hn
  | closeBlock =>
    have hbrace : identifiers "\x7d".toList = [] :=
      identifiers_of_forall (by simp [isIdentifierChar])
    simp only [Record.toCall, Call.statementLines, List.mem_singleton, exists_eq_left,
      identifiers_indent, hbrace]
    exact iff_of_false List.not_mem_nil List.not_mem_nil
  | _ => simp [Record.toCall, Record.named, Record.body, Line.names]

/-- The globals that the main function names are those of its lines. -/
theorem mem_bodyLines_iff {records : List Record} (hrecords : ∀ r ∈ records, r.Inert kind)
    (hn : n.isGlobal kind = true) (depth : Nat) :
    (∃ line ∈ bodyLines depth records, n.text.toList ∈ identifiers line.toList) ↔
      n ∈ bodyNames records := by
  induction records generalizing depth with
  | nil => simp [bodyLines, bodyNames]
  | cons r rest ih =>
    have hfirst := mem_statementLines_toCall (hrecords r List.mem_cons_self) hn depth
    have hrest := ih (fun r hr ↦ hrecords r (List.mem_cons_of_mem _ hr))
      (r.toCall.depthAfter depth)
    have hlines : bodyLines depth (r :: rest) =
        r.toCall.statementLines depth ++ bodyLines (r.toCall.depthAfter depth) rest := rfl
    rw [hlines, bodyNames, List.flatMap_cons, List.mem_append, ← hfirst, ← bodyNames, ← hrest]
    simp only [List.mem_append, or_and_right, exists_or]

/-- The globals that a stage names are those of the lines of its main function, if the main function
passes what the definitions name. -/
theorem Built.names_iff {records : List Record} {s : Stage} (hs : Built records s)
    (hrecords : ∀ r ∈ records, r.Inert kind)
    (hdefinitions : ∀ i, define i ∈ records → ∀ m ∈ i.named, m ∈ bodyNames records)
    (hn : n.isGlobal kind = true) : s.Names n.text ↔ n ∈ bodyNames records := by
  rw [← mem_bodyLines_iff hrecords hn 1, ← hs.statements]
  simp only [Stage.Names, Stage.code, List.mem_append, List.mem_map, or_and_right, exists_or]
  refine or_iff_right_of_imp ?_
  rintro ⟨text, ⟨d, hd, rfl⟩, hmem⟩
  obtain ⟨i, hi, rfl⟩ := hs.gained.definition_mem hd
  have hbody := hdefinitions i hi n (hrecords _ hi n hn hmem)
  rw [← mem_bodyLines_iff hrecords hn 1] at hbody
  rwa [hs.statements]

end Records

/-! ### Numbers -/

variable {kind : StageKind}

/-- Characters that numbers are written with, infinities and undefined numbers included. -/
def isNumeralChar (c : Char) : Bool :=
  c.isDigit || ['.', '-', 'e', 'i', 'n', 'f', 'N', 'a'].contains c

theorem mem_of_mem_identifiers {text word : List Char} (hword : word ∈ identifiers text) :
    ∀ c ∈ word, c ∈ text := by
  obtain ⟨-, front, back, rfl, -⟩ := mem_identifiers_iff.mp hword
  exact fun c hc ↦ List.mem_append_left _ (List.mem_append_right _ hc)

theorem numeral_digits (n : Nat) : ∀ c ∈ Nat.toDigits 10 n, isNumeralChar c = true := by
  intro c hc
  rw [isNumeralChar, Nat.isDigit_of_mem_toDigits (by decide) (by decide) hc, Bool.true_or]

theorem numeral_nat (n : Nat) : ∀ c ∈ (toString n).toList, isNumeralChar c = true := by
  rw [Nat.toString_eq_repr, Nat.toList_repr]
  exact numeral_digits n

theorem numeral_append {front back : String} (hfront : ∀ c ∈ front.toList, isNumeralChar c = true)
    (hback : ∀ c ∈ back.toList, isNumeralChar c = true) :
    ∀ c ∈ (front ++ back).toList, isNumeralChar c = true := by
  rw [String.toList_append]
  exact List.forall_mem_append.mpr ⟨hfront, hback⟩

theorem numeral_int (i : Int) : ∀ c ∈ (toString i).toList, isNumeralChar c = true := by
  cases i with
  | ofNat n => exact numeral_nat n
  | negSucc n => exact numeral_append (by simp [isNumeralChar]) (numeral_nat (n + 1))

theorem numeral_positional (d : DecimalNumber) :
    ∀ c ∈ d.positional.toList, isNumeralChar c = true := by
  have hdigits := numeral_digits d.digits
  have hzeros (n : Nat) : ∀ c ∈ List.replicate n '0', isNumeralChar c = true := by
    intro c hc
    rw [(List.mem_replicate.mp hc).2]
    decide
  unfold DecimalNumber.positional
  split
  · rw [String.toList_ofList, List.forall_mem_append, List.forall_mem_append]
    exact ⟨⟨hdigits, hzeros _⟩, by simp [isNumeralChar]⟩
  · rw [String.toList_ofList, List.forall_mem_append, List.forall_mem_cons]
    have hpadded := List.forall_mem_append.mpr
      ⟨hzeros ((-d.exponent).toNat + 1 - (Nat.toDigits 10 d.digits).length), hdigits⟩
    exact ⟨fun c hc ↦ hpadded c (List.mem_of_mem_take hc), by decide,
      fun c hc ↦ hpadded c (List.mem_of_mem_drop hc)⟩

theorem numeral_scientific (d : DecimalNumber) :
    ∀ c ∈ d.scientific.toList, isNumeralChar c = true := by
  have hdigits := numeral_digits d.digits
  unfold DecimalNumber.scientific
  split
  · simp
  · rename_i first rest heq
    rw [heq, List.forall_mem_cons] at hdigits
    refine numeral_append (numeral_append ?_ (by simp [isNumeralChar])) (numeral_int _)
    rw [String.toList_ofList, List.forall_mem_cons]
    refine ⟨hdigits.1, ?_⟩
    split
    · exact fun c hc ↦ absurd hc List.not_mem_nil
    · exact List.forall_mem_cons.mpr ⟨by decide, hdigits.2⟩

/-- Numbers of any style are written with these characters, if undefined ones are. -/
theorem numeral_write {style : NumberStyle}
    (hundefined : ∀ c ∈ style.undefined.toList, isNumeralChar c = true) (x : Float32) :
    ∀ c ∈ (style.write x).toList, isNumeralChar c = true := by
  have hsign (p : Prop) [Decidable p] :
      ∀ c ∈ (if p then "" else "-").toList, isNumeralChar c = true := by
    split <;> simp [isNumeralChar]
  unfold NumberStyle.write
  dsimp only
  split
  · exact hundefined
  · split
    · exact numeral_append (hsign _) (by simp [isNumeralChar])
    · split
      · exact numeral_append (hsign _) (by simp [isNumeralChar])
      · refine numeral_append (hsign _) ?_
        split
        · exact numeral_scientific _
        · exact numeral_positional _

theorem numeral_floatLiteral (x : Float32) :
    ∀ c ∈ (floatLiteral x).toList, isNumeralChar c = true :=
  numeral_write (by simp [NumberStyle.literal, isNumeralChar]) x

/-- Every global has a character that no number has. -/
theorem exists_not_numeral {n : Name} (hn : n.isGlobal kind = true) :
    ∃ c ∈ n.text.toList, isNumeralChar c = false := by
  have hplain {chars : List Char} (h : (chars.any (!isNumeralChar ·)) = true) :
      ∃ c ∈ (String.ofList chars).toList, isNumeralChar c = false := by
    rw [String.toList_ofList]
    simpa using h
  have hstem {stem : List Char} (ending : String) (h : (stem.any (!isNumeralChar ·)) = true) :
      ∃ c ∈ (String.ofList stem ++ ending).toList, isNumeralChar c = false := by
    obtain ⟨c, hc, hnumeral⟩ := hplain h
    exact ⟨c, by rw [String.toList_append]; exact List.mem_append_left _ hc, hnumeral⟩
  have hending {ending : List Char} (stem : String) (h : (ending.any (!isNumeralChar ·)) = true) :
      ∃ c ∈ (stem ++ String.ofList ending).toList, isNumeralChar c = false := by
    obtain ⟨c, hc, hnumeral⟩ := hplain h
    exact ⟨c, by rw [String.toList_append]; exact List.mem_append_right _ hc, hnumeral⟩
  cases n with
  | vertexInput a => cases a <;> exact hplain (by decide)
  | textureUv c | texel c => exact absurd hn Bool.false_ne_true
  | textureMap c | textureMatrix c | fresnelEdgeBias c | fresnelCenterBias c | fresnelPower c
  | fresnelEdgeColor c | fresnelCenterColor c => exact hending _ (by decide)
  | lightColor i | lightDir i | lightPos i | lightAttenuation i | lightCutoff i | vLight i
  | vSpotDir i | shadowMap i | shadowViewMatrix i | shadowProjMatrix i | vShadowPos i
  | clipActive i | clipPos i | clipDir i => exact hstem _ (by decide)
  | _ => exact hplain (by decide)

/-- A number contains no global. -/
theorem inertText_floatLiteral (x : Float32) : InertText kind false false (floatLiteral x) := by
  refine ⟨?_, nofun, nofun⟩
  rintro word hword n hn rfl
  obtain ⟨c, hc, hnumeral⟩ := exists_not_numeral hn
  rw [numeral_floatLiteral x c (mem_of_mem_identifiers hword c hc)] at hnumeral
  exact Bool.false_ne_true hnumeral.symm

end SceneRenderer.Shader
