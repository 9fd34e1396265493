import SceneRenderer.Proofs.Shader.ForeignWords
import SceneRenderer.Proofs.Shader.ScopeCheck

/-!
The identifiers of a stage before its text is written out. An identifier is a word of literal text
or a name; names do not clash with the words of the language, so that a reader can be run on a line
whose names are left as they are (`run_symbols`).

A reader tells types, keywords and what stands before an identifier; two readers that agree about
these find the same events in the same tokens, whatever the identifiers are (`Reader.Alike.run`).
-/

set_option autoImplicit false
set_option relaxedAutoImplicit false

namespace SceneRenderer.Shader

/-! ### Reading tokens under other identifiers -/

section Renaming

variable {ι κ : Type}

/-- The identifiers among tokens. -/
def identifierTokens (tokens : List (Token ι)) : List ι :=
  tokens.filterMap fun
    | .identifier word => some word
    | .mark _ => none

theorem mem_identifierTokens {tokens : List (Token ι)} {word : ι} :
    word ∈ identifierTokens tokens ↔ .identifier word ∈ tokens := by
  rw [identifierTokens, List.mem_filterMap]
  constructor
  · rintro ⟨t, ht, hword⟩
    cases t with
    | identifier other => rwa [← Option.some.inj hword]
    | mark c => exact absurd hword (Option.some_ne_none word).symm
  · intro hword
    exact ⟨_, hword, rfl⟩

namespace Reader

variable [DecidableEq ι] [DecidableEq κ] {l : Lexicon ι} {L : Lexicon κ} {f : ι → κ}

/-- Two readers take a word for the same, and for no start of a struct. -/
structure Agree (l : Lexicon ι) (L : Lexicon κ) (f : ι → κ) (r : Reader ι) (R : Reader κ)
    (word : ι) : Prop where
  isType : R.isType L (f word) = r.isType l word
  isReserved : L.isReserved (f word) = l.isReserved word
  plain : word ≠ l.structWord
  plain' : f word ≠ L.structWord

/-- Two readers are at the same place. -/
structure Alike (l : Lexicon ι) (L : Lexicon κ) (r : Reader ι) (R : Reader κ) : Prop where
  parens : R.parens = r.parens
  list : R.list = r.list
  lead : R.lead L = r.lead l
  plain : r.lead l ≠ .structWord

variable {r : Reader ι} {R : Reader κ}

theorem Alike.role (h : Alike l L r R) {word : ι} (hword : Agree l L f r R word) :
    R.role L (f word) = r.role l word ∧ r.role l word ≠ .structName := by
  have hplain : R.lead L ≠ .structWord := h.lead ▸ h.plain
  constructor
  · rw [Reader.role, Reader.role, if_neg hplain, if_neg h.plain, hword.isType, hword.isReserved,
      h.lead, h.list, h.parens]
  · rw [Reader.role, if_neg h.plain]
    split_ifs <;> exact Role.noConfusion

/-- Behind a word that both readers take for the same, both are led on in the same way. -/
theorem Agree.lead {word : ι} (hword : Agree l L f r R word)
    (hr : r.previous = some (.identifier word)) (hR : R.previous = some (.identifier (f word))) :
    R.lead L = r.lead l ∧ r.lead l ≠ .structWord := by
  have hplain : r.lead l = if r.isType l word then .type else .other := by
    rw [Reader.lead, hr]
    exact if_neg hword.plain
  have hplain' : R.lead L = if R.isType L (f word) then .type else .other := by
    rw [Reader.lead, hR]
    exact if_neg hword.plain'
  rw [hplain', hplain, hword.isType]
  refine ⟨rfl, ?_⟩
  split_ifs <;> exact Lead.noConfusion

/-- Two readers behind the same mark are alike. -/
theorem alike_mark (l : Lexicon ι) (L : Lexicon κ) (structs : List ι) (structs' : List κ)
    (parens : Nat) (list : Option Nat) (c : Char) :
    Alike l L ⟨structs, parens, list, some (.mark c)⟩ ⟨structs', parens, list, some (.mark c)⟩ := by
  refine ⟨rfl, rfl, rfl, ?_⟩
  rw [Reader.lead]
  dsimp only
  split_ifs <;> exact Lead.noConfusion

/-- One token moves both readers alike, and changes the structs of neither. -/
theorem Alike.step (h : Alike l L r R) {t : Token ι}
    (ht : ∀ word, t = .identifier word → Agree l L f r R word) :
    (R.step L (t.map f)).1 = (r.step l t).1.map (Event.map f) ∧
      Alike l L (r.step l t).2 (R.step L (t.map f)).2 ∧
      (r.step l t).2.structs = r.structs ∧ (R.step L (t.map f)).2.structs = R.structs := by
  cases t with
  | identifier word =>
    have hword := ht word rfl
    obtain ⟨hrole, hname⟩ := h.role hword
    have hnext (next : Reader ι) (next' : Reader κ) (hr : next.structs = r.structs)
        (hR : next'.structs = R.structs) : Agree l L f next next' word := by
      refine ⟨?_, hword.isReserved, hword.plain, hword.plain'⟩
      have htype := hword.isType
      rw [Reader.isType, Reader.isType] at htype ⊢
      rwa [hr, hR]
    have hlead := (hnext { r with previous := some (.identifier word) }
      { R with previous := some (.identifier (f word)) } rfl rfl).lead rfl rfl
    have hlist := (hnext { r with list := some r.parens, previous := some (.identifier word) }
      { R with list := some R.parens, previous := some (.identifier (f word)) } rfl rfl).lead rfl
      rfl
    rw [Token.map, Reader.step, Reader.step, hrole]
    cases hcase : r.role l word with
    | structName => exact absurd hcase hname
    | skipped => exact ⟨rfl, ⟨h.parens, h.list, hlead.1, hlead.2⟩, rfl, rfl⟩
    | read => exact ⟨rfl, ⟨h.parens, h.list, hlead.1, hlead.2⟩, rfl, rfl⟩
    | declared =>
      refine ⟨?_, ⟨h.parens, congrArg some h.parens, hlist.1, hlist.2⟩, rfl, rfl⟩
      simp only [h.parens, Option.map_some]
      split_ifs <;> rfl
  | mark c =>
    rw [Token.map, Reader.step, Reader.step, h.parens, h.list]
    dsimp only
    split_ifs <;> exact ⟨rfl, alike_mark l L _ _ _ _ c, rfl, rfl⟩

/-- Tokens move both readers alike. -/
theorem Alike.run {tokens : List (Token ι)} (h : Alike l L r R)
    (htokens : ∀ word ∈ identifierTokens tokens, Agree l L f r R word) :
    (R.run L (tokens.map (Token.map f))).1 = (r.run l tokens).1.map (Event.map f) ∧
      Alike l L (r.run l tokens).2 (R.run L (tokens.map (Token.map f))).2 ∧
      (r.run l tokens).2.structs = r.structs ∧
      (R.run L (tokens.map (Token.map f))).2.structs = R.structs := by
  induction tokens generalizing r R with
  | nil => exact ⟨rfl, h, rfl, rfl⟩
  | cons t rest ih =>
    obtain ⟨hevent, hnext, hstructs, hstructs'⟩ := h.step (f := f) (t := t) fun word hword ↦
      htokens word (mem_identifierTokens.mpr (hword ▸ List.mem_cons_self))
    have hrest (word : ι) (hword : word ∈ identifierTokens rest) :
        Agree l L f (r.step l t).2 (R.step L (t.map f)).2 word := by
      have hold := htokens word
        (mem_identifierTokens.mpr (List.mem_cons_of_mem _ (mem_identifierTokens.mp hword)))
      refine ⟨?_, hold.isReserved, hold.plain, hold.plain'⟩
      have htype := hold.isType
      rw [Reader.isType, Reader.isType] at htype ⊢
      rwa [hstructs, hstructs']
    obtain ⟨hevents, hlast, hkept, hkept'⟩ := ih hnext hrest
    rw [List.map_cons, Reader.run, Reader.run]
    refine ⟨?_, hlast, hkept.trans hstructs, hkept'.trans hstructs'⟩
    simp only [hevent, hevents, List.map_append]
    cases (r.step l t).1 <;> rfl

end Reader

end Renaming

/-! ### Symbols -/

/-- Equality of words, character by character. -/
def sameWord : List Char → List Char → Bool
  | [], [] => true
  | c :: rest, d :: rest' => Nat.beq c.toNat d.toNat && sameWord rest rest'
  | _, _ => false

theorem sameWord_iff {a b : List Char} : sameWord a b = true ↔ a = b := by
  induction a generalizing b with
  | nil => cases b <;> simp [sameWord]
  | cons c rest ih =>
    cases b with
    | nil => simp [sameWord]
    | cons d rest' =>
      rw [sameWord, Bool.and_eq_true, ih, Nat.beq_eq, Char.toNat_inj, List.cons.injEq]

/-- An identifier in the code of a stage. -/
inductive Symbol
  /-- It stands in literal text. -/
  | word (text : List Char)
  | name (n : Name)

namespace Symbol

instance : DecidableEq Symbol
  | word a, word b => decidable_of_iff (sameWord a b = true) (by rw [sameWord_iff, word.injEq])
  | name n, name m => decidable_of_iff (n = m) (by rw [name.injEq])
  | word _, name _ => isFalse Symbol.noConfusion
  | name _, word _ => isFalse Symbol.noConfusion

instance : Coe String Symbol := ⟨fun s ↦ word s.toList⟩

def text : Symbol → List Char
  | word chars => chars
  | name n => n.text.toList

/-- The identifier with another name in the place of its own. -/
def rename (g : Name → Name) : Symbol → Symbol
  | word chars => word chars
  | name n => name (g n)

end Symbol

/-! ### The words of the language -/

/-- The structs that stages define. -/
def structNames : List String := ["Material", "IncidentLight", "ReflectedLight", "Geometry"]

/-- The characters of the types, which the kernel would be slow to read off their texts. -/
def spelledTypes : { words : List (List Char) // words = glslTypes.map String.toList } := by
  refine ⟨?words, Eq.symm ?spelled⟩
  case spelled =>
    simp only [glslTypes, List.map_cons, List.map_nil]
    repeat rewrite [String.toList_ofList]
    rfl

def spelledStructs : { words : List (List Char) // words = structNames.map String.toList } := by
  refine ⟨?words, Eq.symm ?spelled⟩
  case spelled =>
    simp only [structNames, List.map_cons, List.map_nil]
    repeat rewrite [String.toList_ofList]
    rfl

def spelledReserved : { words : List (List Char) // words = glslReserved.map String.toList } := by
  refine ⟨?words, Eq.symm ?spelled⟩
  case spelled =>
    simp only [glslReserved, List.map_cons, List.map_nil]
    repeat rewrite [String.toList_ofList]
    rfl

/-- A struct that stages define. -/
def isStruct (word : List Char) : Bool := spelledStructs.val.any (sameWord word)

/-- The words of the language, with all structs that stages define. -/
def symbolLexicon : Lexicon Symbol where
  structWord := .word ['s', 't', 'r', 'u', 'c', 't']
  isType
    | .word text => spelledTypes.val.any (sameWord text) || isStruct text
    | .name _ => false
  isReserved
    | .word text => spelledReserved.val.any (sameWord text)
    | .name _ => false

/-! ### Names and the words of the language -/

/-- A letter, and a second character with which no word of the language goes on whose fingerprint is
that of a name. -/
def startsName : List Char → Bool
  | c :: d :: _ => c.isAlpha && !([['i', 'v'], ['c', 'e']].contains [c, d])
  | _ => false

theorem startsName_ofList {chars : List Char} (h : startsName chars = true) :
    startsName (String.ofList chars).toList = true := by
  rwa [String.toList_ofList]

theorem startsName_append {front : String} (h : startsName front.toList = true) (back : String) :
    startsName (front ++ back).toList = true := by
  rw [String.toList_append]
  generalize front.toList = chars at h
  match chars, h with
  | c :: d :: rest, h => exact h

theorem Name.startsName_text (n : Name) : startsName n.text.toList = true := by
  cases n with
  | vertexInput a => cases a <;> exact startsName_ofList (by decide)
  | textureMap c | textureMatrix c | textureUv c | texel c =>
    cases c <;> exact startsName_append (startsName_ofList (by decide)) _
  | fresnelEdgeBias c | fresnelCenterBias c | fresnelPower c | fresnelEdgeColor c
  | fresnelCenterColor c =>
    cases c <;> exact startsName_append (startsName_ofList (by decide)) _
  | lightColor i | lightDir i | lightPos i | lightAttenuation i | lightCutoff i | vLight i
  | vSpotDir i | shadowMap i | shadowViewMatrix i | shadowProjMatrix i | vShadowPos i
  | clipActive i | clipPos i | clipDir i =>
    exact startsName_append (startsName_ofList (by decide)) _
  | _ => exact startsName_ofList (by decide)

theorem Name.isWord_text (n : Name) : IsWord n.text.toList := by
  refine ⟨n.isIdentifier_text, fun c hc ↦ ?_⟩
  have hstart := n.startsName_text
  generalize n.text.toList = chars at hc hstart
  match chars, hstart with
  | d :: e :: rest, hstart =>
    obtain rfl : d = c := Option.some.inj hc
    exact (Bool.and_eq_true_iff.mp hstart).1

theorem spelled_foreign : ∀ word ∈ spelledTypes.val ++ spelledStructs.val ++ spelledReserved.val,
    ((fingerprints .vertex).testBit (fingerprint word) = false ∨ startsName word = false) ∧
      ¬['U', 'V'] <:+ word ∧ ¬['e', 'l'] <:+ word := by
  decide

/-- No name is a word of the language. -/
theorem Name.text_notMem_spelled (n : Name) :
    n.text.toList ∉ spelledTypes.val ++ spelledStructs.val ++ spelledReserved.val := by
  intro hmem
  obtain ⟨hglobal, huv, htexel⟩ := spelled_foreign _ hmem
  rcases hglobal with hprint | hstart
  · cases n with
    | textureUv c =>
      refine huv ⟨c.stem.toList, ?_⟩
      rw [Name.text, String.toList_append, String.toList_ofList]
    | texel c =>
      refine htexel ⟨c.stem.toList ++ ['T', 'e', 'x'], ?_⟩
      rw [Name.text, String.toList_append, String.toList_ofList, List.append_assoc]
      rfl
    | _ => exact foreign_of_fingerprint hprint _ rfl rfl
  · exact absurd n.startsName_text (Bool.eq_false_iff.mp hstart)

/-! ### Reading symbols -/

theorem any_sameWord {words : List (List Char)} {word : List Char} :
    words.any (sameWord word) = true ↔ word ∈ words := by
  rw [List.any_eq_true]
  constructor
  · rintro ⟨other, hother, heq⟩
    rwa [sameWord_iff.mp heq]
  · exact fun hword ↦ ⟨word, hword, sameWord_iff.mpr rfl⟩

theorem isStruct_iff {word : List Char} : isStruct word = true ↔ word ∈ spelledStructs.val :=
  any_sameWord

theorem isReserved_text (w : Symbol) :
    glslLexicon.isReserved w.text = symbolLexicon.isReserved w := by
  rw [Bool.eq_iff_iff, isReserved_glslLexicon, ← spelledReserved.property]
  cases w with
  | word chars => exact any_sameWord.symm
  | name n =>
    refine iff_of_false (fun h ↦ n.text_notMem_spelled (List.mem_append_right _ h)) ?_
    exact Bool.false_ne_true

/-- A reader that knows the structs among some symbols takes these for types just if they are. -/
theorem isType_text {r : Reader (List Char)} (hstructs : ∀ t ∈ r.structs, isStruct t = true)
    {w : Symbol} (hw : ∀ t, w = .word t → isStruct t = true → t ∈ r.structs) :
    r.isType glslLexicon w.text = symbolLexicon.isType w := by
  rw [Bool.eq_iff_iff, Reader.isType_iff, isType_glslLexicon, ← spelledTypes.property]
  cases w with
  | word chars =>
    have htype : symbolLexicon.isType (.word chars) = true ↔
        spelledTypes.val.any (sameWord chars) = true ∨ isStruct chars = true := Bool.or_eq_true_iff
    rw [htype, any_sameWord]
    exact or_congr_right ⟨hstructs chars, hw chars rfl⟩
  | name n =>
    have hforeign := n.text_notMem_spelled
    refine iff_of_false (fun h ↦ hforeign (List.mem_append_left _ ?_)) Bool.false_ne_true
    exact h.elim (List.mem_append_left _) fun h ↦
      List.mem_append_right _ (isStruct_iff.mp (hstructs _ h))

/-- Between two statements. -/
structure Reader.Quiet {ι : Type} [DecidableEq ι] (lexicon : Lexicon ι) (r : Reader ι) : Prop where
  parens : r.parens = 0
  list : r.list = none
  lead : r.lead lexicon = .other

/-- The reader in front of a statement. -/
def Reader.statement : Reader Symbol := ⟨[], 0, none, none⟩

/-- A reader goes through a text as it goes through its symbols. -/
theorem run_symbols {r : Reader (List Char)} (hquiet : r.Quiet glslLexicon)
    (hstructs : ∀ t ∈ r.structs, isStruct t = true) {tokens : List (Token Symbol)}
    (hplain : symbolLexicon.structWord ∉ identifierTokens tokens)
    (hknown : ∀ t, .word t ∈ identifierTokens tokens → isStruct t = true → t ∈ r.structs)
    (hend : (Reader.statement.run symbolLexicon tokens).2.Quiet symbolLexicon) :
    (r.run glslLexicon (tokens.map (Token.map Symbol.text))).1 =
        (Reader.statement.run symbolLexicon tokens).1.map (Event.map Symbol.text) ∧
      (r.run glslLexicon (tokens.map (Token.map Symbol.text))).2.Quiet glslLexicon ∧
      (r.run glslLexicon (tokens.map (Token.map Symbol.text))).2.structs = r.structs := by
  have hstart : Reader.Alike symbolLexicon glslLexicon Reader.statement r :=
    ⟨hquiet.parens, hquiet.list, hquiet.lead, Lead.noConfusion⟩
  have hword : glslLexicon.structWord = (Symbol.word ['s', 't', 'r', 'u', 'c', 't']).text := by
    exact String.toList_ofList
  obtain ⟨hevents, halike, _, hkept⟩ := Reader.Alike.run
    (f := Symbol.text) hstart fun w (hw : w ∈ identifierTokens tokens) ↦ by
      have hne : w ≠ symbolLexicon.structWord := fun h ↦ hplain (h ▸ hw)
      refine ⟨?_, isReserved_text w, hne, fun h ↦ ?_⟩
      · rw [isType_text hstructs fun t ht ↦ hknown t (ht ▸ hw)]
        exact (Bool.or_false _).symm
      · rw [hword] at h
        cases w with
        | word chars => exact hne (congrArg Symbol.word h)
        | name n =>
          have hmem : ['s', 't', 'r', 'u', 'c', 't'] ∈ spelledReserved.val := by decide
          rw [← show n.text.toList = ['s', 't', 'r', 'u', 'c', 't'] from h] at hmem
          exact n.text_notMem_spelled (List.mem_append_right _ hmem)
  exact ⟨hevents, ⟨halike.parens.trans hend.parens, halike.list.trans hend.list,
    halike.lead.trans hend.lead⟩, hkept⟩

/-- Other names lead to the same events about other names. -/
theorem run_rename (g : Name → Name) {tokens : List (Token Symbol)}
    (hplain : symbolLexicon.structWord ∉ identifierTokens tokens)
    (hend : (Reader.statement.run symbolLexicon tokens).2.Quiet symbolLexicon) :
    (Reader.statement.run symbolLexicon (tokens.map (Token.map (Symbol.rename g)))).1 =
        (Reader.statement.run symbolLexicon tokens).1.map (Event.map (Symbol.rename g)) ∧
      (Reader.statement.run symbolLexicon (tokens.map (Token.map (Symbol.rename g)))).2.Quiet
        symbolLexicon := by
  have hstart : Reader.Alike symbolLexicon symbolLexicon Reader.statement Reader.statement :=
    ⟨rfl, rfl, rfl, Lead.noConfusion⟩
  obtain ⟨hevents, halike, _, _⟩ := Reader.Alike.run
    (f := Symbol.rename g) hstart fun w (hw : w ∈ identifierTokens tokens) ↦ by
      have hne : w ≠ symbolLexicon.structWord := fun h ↦ hplain (h ▸ hw)
      cases w with
      | word chars => exact ⟨rfl, rfl, hne, hne⟩
      | name n => exact ⟨rfl, rfl, hne, Symbol.noConfusion⟩
  exact ⟨hevents, halike.parens.trans hend.parens, halike.list.trans hend.list,
    halike.lead.trans hend.lead⟩

end SceneRenderer.Shader
