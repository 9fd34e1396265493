import SceneRenderer.Proofs.Shader.Chunks

/-!
What the records of a stage read and make visible, record by record. `Known` holds what is visible
so far, and a step refuses a record that reads anything else; `Scoped` says of records in a row what
they need to find visible, what they make visible to others, and which locals they declare.

Steps only look identifiers up. So more can be visible than a step needs (`Known.step_mono`), and
names can stand for other names (`Known.step_rename`): records that differ in the index of a light
are checked once.
-/

set_option autoImplicit false
set_option relaxedAutoImplicit false

namespace SceneRenderer.Shader

/-! ### Surveys of lines -/

section Events

variable {ι : Type}

/-- An event of a statement without blocks. -/
def Event.isSimple : Event ι → Bool
  | reads _ | declares _ | ends => true
  | _ => false

def readWords (events : List (Event ι)) : List ι :=
  events.filterMap fun
    | .reads word => some word
    | _ => none

def declaredWords (events : List (Event ι)) : List ι :=
  events.filterMap fun
    | .declares word => some word
    | _ => none

end Events

instance Reader.decidableQuiet {ι : Type} [DecidableEq ι] (lexicon : Lexicon ι) (r : Reader ι) :
    Decidable (r.Quiet lexicon) :=
  decidable_of_iff (r.parens = 0 ∧ r.list = none ∧ r.lead lexicon = .other)
    ⟨fun ⟨hparens, hlist, hlead⟩ ↦ ⟨hparens, hlist, hlead⟩, fun h ↦ ⟨h.parens, h.list, h.lead⟩⟩

/-- The structs that tokens mention. -/
def usedStructs (ts : List (Token Symbol)) : List (List Char) :=
  (identifierTokens ts).filterMap fun
    | .word text => if isStruct text then some text else none
    | .name _ => none

/-- What a statement, or the header of a block, does. -/
structure Survey where
  structs : List (List Char)
  reads : List Symbol
  declares : List Symbol
deriving DecidableEq

/-- The survey of a line that ends where a statement may start, and opens no block and no struct. -/
def survey? (ts : List (Token Symbol)) : Option Survey :=
  match Reader.statement.run symbolLexicon ts with
  | (events, last) =>
    if last.Quiet symbolLexicon ∧ events.all Event.isSimple = true ∧
        symbolLexicon.structWord ∉ identifierTokens ts then
      some ⟨usedStructs ts, readWords events, declaredWords events⟩
    else none

/-- A line starts like code, whatever its indentation. -/
def startsCode : List Chunk → Bool
  | .text (c :: _) :: _ => !Text.isBlank c && c != '#'
  | .name _ :: _ => true
  | _ => false

def surveyLine? (line : List Chunk) : Option Survey :=
  if startsCode line then (scanChunks .blank line).bind survey? else none

/-! ### Requests -/

/-- What a definition is called, and what it uses. -/
structure Outline where
  /-- It is a struct. -/
  isType : Bool
  name : List Char
  structs : List (List Char)
  /-- Functions and macros. -/
  words : List (List Char)

/-- A record with its text spelled out. -/
inductive Request
  | directive (line : List Char)
  | declare (n : Name)
  | define (outline : Outline)
  | statement (line : List Chunk)
  | openBlock (header : List Chunk)
  | closeBlock

def Request.rename (g : Name → Name) : Request → Request
  | directive line => directive line
  | declare n => declare (g n)
  | define outline => define outline
  | statement line => statement (line.map (Chunk.rename g))
  | openBlock header => openBlock (header.map (Chunk.rename g))
  | closeBlock => closeBlock

/-- The macros of a preprocessor line, and nothing of any other line without identifiers. -/
def directiveMacros? (line : List Char) : Option (List Symbol) :=
  match directive? line with
  | some words => some ((macros words).map .word)
  | none =>
    match survey? ((tokens line).map (Token.map .word)) with
    | some ⟨[], [], []⟩ => some []
    | _ => none

/-- What a record needs to find visible, and what it makes visible. -/
structure Effect where
  structs : List (List Char) := []
  /-- What it needs outside the main function. -/
  words : List Symbol := []
  reads : List Symbol := []
  newStructs : List (List Char) := []
  newFile : List Symbol := []
  locals : List Symbol := []
  opens : Nat := 0
  closes : Nat := 0

def Outline.effect (o : Outline) : Effect where
  structs := o.structs
  words := o.words.map .word
  newStructs := if o.isType then [o.name] else []
  newFile := if o.isType then [] else [.word o.name]

def Request.effect? : Request → Option Effect
  | directive line => (directiveMacros? line).map fun newFile ↦ { newFile }
  | declare n => some { newFile := [.name n] }
  | define outline => some outline.effect
  | statement line =>
    (surveyLine? line).map fun v ↦ { structs := v.structs, reads := v.reads, locals := v.declares }
  | openBlock header =>
    (surveyLine? header).bind fun v ↦
      if v.declares = [] then some { structs := v.structs, reads := v.reads, opens := 1 } else none
  | closeBlock => some { closes := 1 }

/-! ### What is visible -/

/-- What is visible in the main function after some records. -/
structure Known where
  structs : List (List Char) := []
  /-- Macros, globals and functions. -/
  file : List Symbol := []
  /-- The locals of the main function, in the order of their declarations. -/
  main : List Symbol := []
  /-- The number of blocks that are open inside the main function. -/
  depth : Nat := 0

namespace Known

/-- An effect finds what it needs. No block inside the main function declares anything. -/
structure Allows (k : Known) (e : Effect) : Prop where
  structs : e.structs ⊆ k.structs
  words : e.words ⊆ k.file
  reads : ∀ w ∈ e.reads, w ∈ k.main ∨ w ∈ k.file
  flat : k.depth = 0 ∨ e.locals = []
  closes : e.closes ≤ k.depth

/-- Words are compared by their characters. -/
local instance lawfulBEq_words : LawfulBEq (List Char) := inferInstance

instance (k : Known) (e : Effect) : Decidable (k.Allows e) :=
  decidable_of_iff
    ((∀ t ∈ e.structs, t ∈ k.structs) ∧ (∀ w ∈ e.words, w ∈ k.file) ∧
      (∀ w ∈ e.reads, w ∈ k.main ∨ w ∈ k.file) ∧ (k.depth = 0 ∨ e.locals = []) ∧
      e.closes ≤ k.depth)
    ⟨fun h ↦ ⟨h.1, h.2.1, h.2.2.1, h.2.2.2.1, h.2.2.2.2⟩,
      fun h ↦ ⟨h.structs, h.words, h.reads, h.flat, h.closes⟩⟩

def after (k : Known) (e : Effect) : Known where
  structs := k.structs ++ e.newStructs
  file := k.file ++ e.newFile
  main := k.main ++ e.locals
  depth := k.depth + e.opens - e.closes

/-- What is visible behind a record that finds what it needs. -/
def step (k : Known) (r : Request) : Option Known :=
  match r.effect? with
  | some e => if k.Allows e then some (k.after e) else none
  | none => none

def run (k : Known) : List Request → Option Known
  | [] => some k
  | r :: rest =>
    match k.step r with
    | some next => next.run rest
    | none => none

variable {k k' K : Known}

theorem step_eq {r : Request} :
    k.step r = some k' ↔ ∃ e, r.effect? = some e ∧ k.Allows e ∧ k.after e = k' := by
  rw [step]
  cases r.effect? with
  | none => simp
  | some e => simp [Option.ite_none_right_eq_some]

theorem run_cons {r : Request} {rest : List Request} :
    k.run (r :: rest) = some k' ↔ ∃ next, k.step r = some next ∧ next.run rest = some k' := by
  rw [run]
  cases k.step r <;> simp

theorem run_append {front back : List Request} :
    k.run (front ++ back) = some k' ↔
      ∃ next, k.run front = some next ∧ next.run back = some k' := by
  induction front generalizing k with
  | nil => simp [run]
  | cons r rest ih =>
    rw [List.cons_append, run_cons]
    simp only [ih, run_cons]
    constructor
    · rintro ⟨next, hnext, last, hlast, hback⟩
      exact ⟨last, ⟨next, hnext, hlast⟩, hback⟩
    · rintro ⟨last, ⟨next, hnext, hlast⟩, hback⟩
      exact ⟨next, hnext, last, hlast, hback⟩

/-! ### More that is visible -/

/-- Everything visible on one side is visible on the other. -/
structure Le (k K : Known) : Prop where
  structs : k.structs ⊆ K.structs
  file : k.file ⊆ K.file
  main : k.main ⊆ K.main

theorem Le.refl (k : Known) : k.Le k :=
  ⟨List.Subset.refl _, List.Subset.refl _, List.Subset.refl _⟩

theorem Le.trans {k l m : Known} (hkl : k.Le l) (hlm : l.Le m) : k.Le m :=
  ⟨List.Subset.trans hkl.structs hlm.structs, List.Subset.trans hkl.file hlm.file,
    List.Subset.trans hkl.main hlm.main⟩

theorem le_after (k : Known) (e : Effect) : k.Le (k.after e) :=
  ⟨List.subset_append_left _ _, List.subset_append_left _ _, List.subset_append_left _ _⟩

theorem Le.after (hle : k.Le K) (e : Effect) : (k.after e).Le (K.after e) := by
  have hboth {α : Type} {a b : List α} (hab : a ⊆ b) (c : List α) : a ++ c ⊆ b ++ c :=
    List.append_subset.mpr ⟨List.subset_append_of_subset_left _ hab, List.subset_append_right _ _⟩
  exact ⟨hboth hle.structs _, hboth hle.file _, hboth hle.main _⟩

theorem Allows.mono {e : Effect} (he : k.Allows e) (hle : k.Le K) (hdepth : k.depth = K.depth) :
    K.Allows e where
  structs := List.Subset.trans he.structs hle.structs
  words := List.Subset.trans he.words hle.file
  reads w hw := (he.reads w hw).imp (fun h ↦ hle.main h) fun h ↦ hle.file h
  flat := hdepth ▸ he.flat
  closes := hdepth ▸ he.closes

/-- Two runs of the same records, of which one sees more than the other. -/
structure Ahead (k k' K K' : Known) : Prop where
  le : k'.Le K'
  depth : k'.depth = K'.depth
  grows : K.Le K'
  locals : ∃ words, k'.main = k.main ++ words ∧ K'.main = K.main ++ words

/-- Records that find what they need also find it where more is visible, and add the same. -/
theorem run_mono {requests : List Request} (hle : k.Le K) (hdepth : k.depth = K.depth)
    (hrun : k.run requests = some k') : ∃ K', K.run requests = some K' ∧ Ahead k k' K K' := by
  induction requests generalizing k K with
  | nil =>
    obtain rfl := Option.some.inj hrun
    exact ⟨K, rfl, hle, hdepth, Le.refl _, [], by simp, by simp⟩
  | cons r rest ih =>
    obtain ⟨next, hnext, hlast⟩ := run_cons.mp hrun
    obtain ⟨e, he, hallows, rfl⟩ := step_eq.mp hnext
    have hdepth' : (k.after e).depth = (K.after e).depth := by rw [after, after, hdepth]
    obtain ⟨K', hK', hahead⟩ := ih (hle.after e) hdepth' hlast
    obtain ⟨words, hwords, hWords⟩ := hahead.locals
    refine ⟨K', run_cons.mpr ⟨K.after e, step_eq.mpr ⟨e, he, hallows.mono hle hdepth, rfl⟩, hK'⟩,
      hahead.le, hahead.depth, (le_after K e).trans hahead.grows, e.locals ++ words, ?_, ?_⟩
    · rw [hwords, after, List.append_assoc]
    · rw [hWords, after, List.append_assoc]

end Known

/-! ### Other names -/

section Rename

variable (g : Name → Name)

def Survey.rename (v : Survey) : Survey :=
  ⟨v.structs, v.reads.map (Symbol.rename g), v.declares.map (Symbol.rename g)⟩

def Effect.rename (e : Effect) : Effect where
  structs := e.structs
  words := e.words.map (Symbol.rename g)
  reads := e.reads.map (Symbol.rename g)
  newStructs := e.newStructs
  newFile := e.newFile.map (Symbol.rename g)
  locals := e.locals.map (Symbol.rename g)
  opens := e.opens
  closes := e.closes

/-- What is visible under other names. -/
def Known.rename (k : Known) : Known :=
  { k with file := k.file.map (Symbol.rename g), main := k.main.map (Symbol.rename g) }

theorem identifierTokens_map {ι κ : Type} (f : ι → κ) (ts : List (Token ι)) :
    identifierTokens (ts.map (Token.map f)) = (identifierTokens ts).map f := by
  induction ts with
  | nil => rfl
  | cons t rest ih =>
    cases t with
    | identifier word => exact congrArg (f word :: ·) ih
    | mark c => exact ih

theorem usedStructs_rename (ts : List (Token Symbol)) :
    usedStructs (ts.map (Token.map (Symbol.rename g))) = usedStructs ts := by
  rw [usedStructs, identifierTokens_map, List.filterMap_map, usedStructs]
  refine List.filterMap_congr fun w _ ↦ ?_
  cases w <;> rfl

theorem readWords_map {ι κ : Type} (f : ι → κ) (events : List (Event ι)) :
    readWords (events.map (Event.map f)) = (readWords events).map f := by
  rw [readWords, List.filterMap_map, readWords, List.map_filterMap]
  refine List.filterMap_congr fun e _ ↦ ?_
  cases e <;> rfl

theorem declaredWords_map {ι κ : Type} (f : ι → κ) (events : List (Event ι)) :
    declaredWords (events.map (Event.map f)) = (declaredWords events).map f := by
  rw [declaredWords, List.filterMap_map, declaredWords, List.map_filterMap]
  refine List.filterMap_congr fun e _ ↦ ?_
  cases e <;> rfl

theorem all_isSimple_map {ι κ : Type} (f : ι → κ) (events : List (Event ι)) :
    (events.map (Event.map f)).all Event.isSimple = events.all Event.isSimple := by
  rw [List.all_map]
  refine List.all_congr rfl fun e ↦ ?_
  cases e <;> rfl

theorem survey?_eq {ts : List (Token Symbol)} {v : Survey} :
    survey? ts = some v ↔
      (Reader.statement.run symbolLexicon ts).2.Quiet symbolLexicon ∧
        (Reader.statement.run symbolLexicon ts).1.all Event.isSimple = true ∧
        symbolLexicon.structWord ∉ identifierTokens ts ∧
        ⟨usedStructs ts, readWords (Reader.statement.run symbolLexicon ts).1,
          declaredWords (Reader.statement.run symbolLexicon ts).1⟩ = v := by
  rw [survey?]
  rcases Reader.statement.run symbolLexicon ts with ⟨events, last⟩
  simp only [Option.ite_none_right_eq_some, Option.some.injEq, and_assoc]

theorem survey?_rename {ts : List (Token Symbol)} {v : Survey} (hv : survey? ts = some v) :
    survey? (ts.map (Token.map (Symbol.rename g))) = some (v.rename g) := by
  obtain ⟨hquiet, hsimple, hplain, rfl⟩ := survey?_eq.mp hv
  obtain ⟨hevents, hquiet'⟩ := run_rename g hplain hquiet
  refine survey?_eq.mpr ⟨hquiet', ?_, ?_, ?_⟩
  · rw [hevents, all_isSimple_map, hsimple]
  · rw [identifierTokens_map]
    intro hmem
    obtain ⟨w, hw, heq⟩ := List.mem_map.mp hmem
    cases w with
    | word text => exact hplain (heq ▸ hw)
    | name n => exact Symbol.noConfusion heq
  · rw [Survey.rename, hevents, usedStructs_rename, readWords_map, declaredWords_map]

theorem surveyLine?_rename {line : List Chunk} {v : Survey} (hv : surveyLine? line = some v) :
    surveyLine? (line.map (Chunk.rename g)) = some (v.rename g) := by
  rw [surveyLine?, Option.ite_none_right_eq_some] at hv
  obtain ⟨hstarts, hv⟩ := hv
  obtain ⟨ts, hts, hv⟩ := Option.bind_eq_some_iff.mp hv
  have hstarts' : startsCode (line.map (Chunk.rename g)) = true := by
    match line, hstarts with
    | .text (c :: _) :: _, h => exact h
    | .name _ :: _, _ => rfl
  rw [surveyLine?, if_pos hstarts', scanChunks_rename, hts]
  exact survey?_rename g hv

theorem effect?_rename {r : Request} {e : Effect} (he : r.effect? = some e) :
    (r.rename g).effect? = some (e.rename g) := by
  have hwords (words : List (List Char)) :
      (words.map Symbol.word).map (Symbol.rename g) = words.map Symbol.word := by
    rw [List.map_map]
    rfl
  cases r with
  | directive line =>
    obtain ⟨newFile, hfile, rfl⟩ := Option.map_eq_some_iff.mp he
    have hkept : newFile.map (Symbol.rename g) = newFile := by
      rw [directiveMacros?] at hfile
      split at hfile
      · rw [← Option.some.inj hfile, hwords]
      · split at hfile
        · rw [← Option.some.inj hfile]
          rfl
        · exact absurd hfile (Option.some_ne_none _).symm
    rw [Request.rename, he, Effect.rename, hkept]
    rfl
  | declare n =>
    obtain rfl := Option.some.inj he
    rfl
  | define outline =>
    obtain rfl := Option.some.inj he
    rw [Request.rename, he, Effect.rename, Outline.effect, hwords]
    split_ifs <;> rfl
  | statement line =>
    obtain ⟨v, hv, rfl⟩ := Option.map_eq_some_iff.mp he
    rw [Request.rename, Request.effect?, surveyLine?_rename g hv]
    rfl
  | openBlock header =>
    obtain ⟨v, hv, he⟩ := Option.bind_eq_some_iff.mp he
    obtain ⟨hnone, he⟩ := Option.ite_none_right_eq_some.mp he
    obtain rfl := Option.some.inj he
    have hnone' : (v.rename g).declares = [] := by rw [Survey.rename, hnone]; rfl
    rw [Request.rename, Request.effect?, surveyLine?_rename g hv]
    exact if_pos hnone'
  | closeBlock =>
    obtain rfl := Option.some.inj he
    rfl

variable {k k' : Known}

theorem Known.Allows.rename {e : Effect} (he : k.Allows e) : (k.rename g).Allows (e.rename g) where
  structs := he.structs
  words := List.map_subset _ he.words
  reads w hw := by
    obtain ⟨v, hv, rfl⟩ := List.mem_map.mp hw
    exact (he.reads v hv).imp (fun h ↦ List.mem_map_of_mem h) fun h ↦ List.mem_map_of_mem h
  flat := he.flat.imp_right fun h ↦ by rw [Effect.rename, h]; rfl
  closes := he.closes

theorem Known.after_rename (k : Known) (e : Effect) :
    (k.after e).rename g = (k.rename g).after (e.rename g) := by
  simp only [after, Known.rename, Effect.rename, List.map_append]

/-- Records find under other names what they find under their own. -/
theorem Known.run_rename {requests : List Request} (hrun : k.run requests = some k') :
    (k.rename g).run (requests.map (Request.rename g)) = some (k'.rename g) := by
  induction requests generalizing k with
  | nil =>
    obtain rfl := Option.some.inj hrun
    rfl
  | cons r rest ih =>
    obtain ⟨next, hnext, hlast⟩ := run_cons.mp hrun
    obtain ⟨e, he, hallows, rfl⟩ := step_eq.mp hnext
    refine run_cons.mpr ⟨_, step_eq.mpr ⟨_, effect?_rename g he, hallows.rename g, rfl⟩, ?_⟩
    rw [← after_rename]
    exact ih hlast

end Rename

end SceneRenderer.Shader
