import SceneRenderer.Proofs.Shader.Scoped

/-!
What statements assign and read. A statement is read as tokens. It assigns the place before its
equals sign, a variable or a field of one, and reads all other places; one that scales a place reads
it. Code that reads no place before it has assigned it (`AssignedFirst`) makes nothing of what was
there before.

All this depends on marks and on which words are the same, so that it carries over from symbols to
text and from one index of names to all others.
-/

set_option autoImplicit false
set_option relaxedAutoImplicit false

namespace SceneRenderer.Shader

/-! ### Places -/

section Statements

variable {ι κ : Type}

/-- The fields that are taken of what is in front of some tokens, and the tokens behind them. -/
def takeFields : List (Token ι) → List ι × List (Token ι)
  | .mark c :: .identifier word :: rest =>
    if c = '.' then ((takeFields rest).1.cons word, (takeFields rest).2)
    else ([], .mark c :: .identifier word :: rest)
  | rest => ([], rest)

/-- The place that a statement assigns, which is a variable or a field of one, and the value. -/
def assignment? : List (Token ι) → Option (List ι × List (Token ι))
  | .identifier word :: rest =>
    match takeFields rest with
    | (fields, .mark c :: value) => if c = '=' then some (word :: fields, value) else none
    | _ => none
  | _ => none

/-- The places among tokens. -/
def places (afterPoint : Bool) : List (Token ι) → List (List ι)
  | [] => []
  | .mark c :: rest => places (c == '.') rest
  | .identifier word :: rest =>
    if afterPoint then places false rest else (word :: (takeFields rest).1) :: places false rest

/-- The places that a statement reads. To scale a place is to read it. -/
def placesRead (line : List (Token ι)) : List (List ι) :=
  match assignment? line with
  | some (_, value) => places false value
  | none => places false line

/-- A statement assigns a place, or something that the place is a part of. -/
def Assigns (place : List ι) (line : List (Token ι)) : Prop :=
  ∃ whole value, assignment? line = some (whole, value) ∧ whole <+: place

/-- A statement reads a place, a part of it or something that it is a part of. -/
def Reads (place : List ι) (line : List (Token ι)) : Prop :=
  ∃ other ∈ placesRead line, other <+: place ∨ place <+: other

/-- Each line that reads a place has a line before it that assigns the place. -/
def AssignedFirst (place : List ι) (lines : List (List (Token ι))) : Prop :=
  ∀ front line back, lines = front ++ line :: back → Reads place line →
    ∃ earlier ∈ front, Assigns place earlier

section Calls

variable [DecidableEq ι]

/-- How often a function is called. -/
def calls (function : ι) : List (Token ι) → Nat
  | [] => 0
  | .mark _ :: rest => calls function rest
  | .identifier word :: rest =>
    (if word = function ∧ rest.head? = some (.mark '(') then 1 else 0) + calls function rest

def callsOf (function : ι) (lines : List (List (Token ι))) : Nat := (lines.map (calls function)).sum

end Calls

/-! ### Statements with other words in them -/

section Map

variable (f : ι → κ)

theorem takeFields_map (line : List (Token ι)) :
    takeFields (line.map (Token.map f)) =
      ((takeFields line).1.map f, (takeFields line).2.map (Token.map f)) := by
  fun_induction takeFields line with
  | case1 word rest ih => simp [Token.map, takeFields, ih]
  | case2 c word rest hc => simp [Token.map, takeFields, hc]
  | case3 rest hrest =>
    rcases rest with _ | ⟨_ | c, _ | ⟨word | _, rest⟩⟩
    case cons.mark.cons.identifier => exact absurd rfl (hrest c word rest)
    all_goals rfl

theorem assignment?_map (line : List (Token ι)) :
    assignment? (line.map (Token.map f)) =
      (assignment? line).map (Prod.map (List.map f) (List.map (Token.map f))) := by
  rcases line with _ | ⟨word | _, rest⟩
  · rfl
  · rw [List.map_cons, Token.map, assignment?, assignment?, takeFields_map]
    rcases takeFields rest with ⟨fields, _ | ⟨_ | c, value⟩⟩
    · rfl
    · rfl
    · by_cases hc : c = '=' <;> simp [Token.map, hc]
  · rfl

theorem places_map (afterPoint : Bool) (line : List (Token ι)) :
    places afterPoint (line.map (Token.map f)) = (places afterPoint line).map (List.map f) := by
  fun_induction places afterPoint line with
  | case1 => rfl
  | case2 _ c rest ih => exact ih
  | case3 word rest ih => simpa [Token.map, places] using ih
  | case4 _ word rest hpoint ih => simp [Token.map, places, hpoint, ih, takeFields_map]

theorem placesRead_map (line : List (Token ι)) :
    placesRead (line.map (Token.map f)) = (placesRead line).map (List.map f) := by
  rw [placesRead, placesRead, assignment?_map]
  rcases assignment? line with _ | ⟨place, value⟩
  · exact places_map f false line
  · exact places_map f false value

/-- The words of a place stand in the line. -/
theorem mem_of_mem_takeFields {line : List (Token ι)} {word : ι}
    (hword : word ∈ (takeFields line).1) : .identifier word ∈ line := by
  fun_induction takeFields line with
  | case1 first rest ih =>
    rcases List.mem_cons.mp hword with rfl | hword
    · simp
    · simp [ih hword]
  | case2 => exact absurd hword List.not_mem_nil
  | case3 => exact absurd hword List.not_mem_nil

theorem suffix_takeFields (line : List (Token ι)) : (takeFields line).2 <:+ line := by
  fun_induction takeFields line with
  | case1 word rest ih =>
    exact ih.trans ((List.suffix_cons _ _).trans (List.suffix_cons _ _))
  | case2 => exact List.suffix_refl _
  | case3 => exact List.suffix_refl _

theorem mem_of_mem_places {afterPoint : Bool} {line : List (Token ι)} {place : List ι} {word : ι}
    (hplace : place ∈ places afterPoint line) (hword : word ∈ place) : .identifier word ∈ line := by
  fun_induction places afterPoint line with
  | case1 => exact absurd hplace List.not_mem_nil
  | case2 _ c rest ih => exact List.mem_cons_of_mem _ (ih hplace)
  | case3 first rest ih => exact List.mem_cons_of_mem _ (ih hplace)
  | case4 _ first rest _ ih =>
    rcases List.mem_cons.mp hplace with rfl | hplace
    · rcases List.mem_cons.mp hword with rfl | hword
      · exact List.mem_cons_self
      · exact List.mem_cons_of_mem _ (mem_of_mem_takeFields hword)
    · exact List.mem_cons_of_mem _ (ih hplace)

/-- The value that a statement assigns stands at its end. -/
theorem suffix_of_assignment? {line value : List (Token ι)} {place : List ι}
    (h : assignment? line = some (place, value)) : value <:+ line := by
  rcases line with _ | ⟨word | _, rest⟩
  · cases h
  · rw [assignment?] at h
    split at h
    · rename_i fields c value' heq
      split at h
      · cases h
        have htail := suffix_takeFields rest
        rw [heq] at htail
        exact ((List.suffix_cons _ _).trans htail).trans (List.suffix_cons _ _)
      · cases h
    · cases h
  · cases h

theorem mem_of_mem_placesRead {line : List (Token ι)} {place : List ι} {word : ι}
    (hplace : place ∈ placesRead line) (hword : word ∈ place) : .identifier word ∈ line := by
  rw [placesRead] at hplace
  split at hplace
  · rename_i hassignment
    exact (suffix_of_assignment? hassignment).mem (mem_of_mem_places hplace hword)
  · exact mem_of_mem_places hplace hword

/-- A map takes no word of some code for another one of some words. -/
def TellsApart (words : List ι) (code : List (List (Token ι))) : Prop :=
  ∀ line ∈ code, ∀ word, .identifier word ∈ line → ∀ other ∈ words, f word = f other → word = other

variable {f} {code : List (List (Token ι))} {words : List ι}

theorem TellsApart.mono {words' : List ι} (h : TellsApart f words code) (hsub : words' ⊆ words) :
    TellsApart f words' code :=
  fun line hline word hword other hother ↦ h line hline word hword other (hsub hother)

theorem isPrefix_of_map {p q : List ι} (hinj : ∀ a ∈ p, ∀ b ∈ q, f a = f b → a = b)
    (h : p.map f <+: q.map f) : p <+: q := by
  induction p generalizing q with
  | nil => exact List.nil_prefix
  | cons a p ih =>
    cases q with
    | nil => exact absurd (List.prefix_nil.mp h) (List.cons_ne_nil _ _)
    | cons b q =>
      obtain ⟨hab, hrest⟩ := List.cons_prefix_cons.mp h
      obtain rfl := hinj a List.mem_cons_self b List.mem_cons_self hab
      refine List.cons_prefix_cons.mpr ⟨rfl, ih (fun c hc d hd ↦ ?_) hrest⟩
      exact hinj c (List.mem_cons_of_mem _ hc) d (List.mem_cons_of_mem _ hd)

theorem AssignedFirst.map {place : List ι} (h : AssignedFirst place code)
    (hf : TellsApart f place code) :
    AssignedFirst (place.map f) (code.map (List.map (Token.map f))) := by
  intro front line back hcode hreads
  obtain ⟨front, rest, rfl, rfl, hrest⟩ := List.map_eq_append_iff.mp hcode
  obtain ⟨line, back, rfl, rfl, rfl⟩ := List.map_eq_cons_iff.mp hrest
  obtain ⟨mapped, hmapped, hoverlap⟩ := hreads
  rw [placesRead_map] at hmapped
  obtain ⟨other, hother, rfl⟩ := List.mem_map.mp hmapped
  have hwords (a : ι) (ha : a ∈ other) (b : ι) (hb : b ∈ place) (hab : f a = f b) : a = b :=
    hf line (by simp) a (mem_of_mem_placesRead hother ha) b hb hab
  obtain ⟨earlier, hearlier, whole, value, hassign, hwhole⟩ := h front line back rfl
    ⟨other, hother, hoverlap.imp (isPrefix_of_map hwords)
      (isPrefix_of_map fun b hb a ha hab ↦ (hwords a ha b hb hab.symm).symm)⟩
  have hassigned : assignment? (earlier.map (Token.map f)) =
      some (whole.map f, value.map (Token.map f)) := by
    rw [assignment?_map, hassign]
    rfl
  exact ⟨_, List.mem_map_of_mem hearlier, _, _, hassigned, hwhole.map f⟩

section Calls

variable [DecidableEq ι] [DecidableEq κ]

theorem calls_map {function : ι} {line : List (Token ι)}
    (hf : ∀ word, .identifier word ∈ line → f word = f function → word = function) :
    calls (f function) (line.map (Token.map f)) = calls function line := by
  induction line with
  | nil => rfl
  | cons t rest ih =>
    have hrest := ih fun word hword ↦ hf word (List.mem_cons_of_mem _ hword)
    cases t with
    | mark c => exact hrest
    | identifier word =>
      have hword : f word = f function ↔ word = function :=
        ⟨hf word List.mem_cons_self, congrArg f⟩
      have hhead : (rest.map (Token.map f)).head? = some (.mark '(') ↔
          rest.head? = some (.mark '(') := by
        rcases rest with _ | ⟨_ | _, _⟩ <;> simp [Token.map]
      rw [List.map_cons, Token.map, calls, calls, hrest]
      simp only [hword, hhead]

theorem callsOf_map {function : ι} (hf : TellsApart f [function] code) :
    callsOf (f function) (code.map (List.map (Token.map f))) = callsOf function code := by
  rw [callsOf, callsOf, List.map_map]
  refine congrArg List.sum (List.map_congr_left fun line hline ↦ calls_map fun word hword ↦ ?_)
  exact hf line hline word hword function List.mem_cons_self

end Calls

end Map

/-! ### Checking statements -/

section Check

variable [DecidableEq ι]

def assigns (place : List ι) (line : List (Token ι)) : Bool :=
  (assignment? line).any fun assignment ↦ assignment.1.isPrefixOf place

def reads (place : List ι) (line : List (Token ι)) : Bool :=
  (placesRead line).any fun other ↦ other.isPrefixOf place || place.isPrefixOf other

/-- Looks for a line that reads a place, up to the first line that assigns it. -/
def assignedFirst (place : List ι) : List (List (Token ι)) → Bool
  | [] => true
  | line :: rest => !reads place line && (assigns place line || assignedFirst place rest)

theorem assigns_iff {place : List ι} {line : List (Token ι)} :
    assigns place line = true ↔ Assigns place line := by
  simp [assigns, Assigns, Option.any_eq_true]

theorem reads_iff {place : List ι} {line : List (Token ι)} :
    reads place line = true ↔ Reads place line := by
  simp [reads, Reads]

theorem AssignedFirst.of_assignedFirst {place : List ι} {code : List (List (Token ι))}
    (h : assignedFirst place code = true) : AssignedFirst place code := by
  induction code with
  | nil =>
    intro front line back hcode _
    simp at hcode
  | cons first rest ih =>
    simp only [assignedFirst, Bool.and_eq_true, Bool.not_eq_true', Bool.or_eq_true] at h
    obtain ⟨hunread, hassigned⟩ := h
    intro front line back hcode hreads
    cases front with
    | nil =>
      obtain ⟨rfl, rfl⟩ := List.cons.inj hcode
      exact absurd (reads_iff.mpr hreads) (Bool.eq_false_iff.mp hunread)
    | cons head front =>
      obtain ⟨rfl, hrest⟩ := List.cons.inj hcode
      rcases hassigned with hassigns | hlater
      · exact ⟨first, List.mem_cons_self, assigns_iff.mp hassigns⟩
      · obtain ⟨earlier, hearlier, hassigns⟩ := ih hlater front line back hrest hreads
        exact ⟨earlier, List.mem_cons_of_mem _ hearlier, hassigns⟩

end Check

end Statements

/-! ### The statements of requests -/

/-- The statements among requests without blocks, each of them as its symbols. -/
def statementSymbols : List Request → Option (List (List (Token Symbol)))
  | [] => some []
  | .statement line :: rest =>
    (scanChunks .blank line).bind fun symbols ↦ (statementSymbols rest).map (symbols :: ·)
  | .openBlock _ :: _ | .closeBlock :: _ => none
  | .directive _ :: rest | .declare _ :: rest | .define _ :: rest => statementSymbols rest

theorem statementSymbols_rename (g : Name → Name) (requests : List Request) :
    statementSymbols (requests.map (Request.rename g)) =
      (statementSymbols requests).map (List.map (List.map (Token.map (Symbol.rename g)))) := by
  induction requests with
  | nil => rfl
  | cons r rest ih =>
    cases r with
    | directive line | declare n | define outline => exact ih
    | openBlock header | closeBlock => rfl
    | statement line =>
      rw [List.map_cons, Request.rename, statementSymbols, statementSymbols, scanChunks_rename, ih]
      cases scanChunks .blank line <;> cases statementSymbols rest <;> rfl

theorem statementSymbols_append (front back : List Request) :
    statementSymbols (front ++ back) =
      (statementSymbols front).bind fun code ↦ (statementSymbols back).map (code ++ ·) := by
  induction front with
  | nil => simp [statementSymbols]
  | cons r rest ih =>
    cases r with
    | directive line | declare n | define outline => exact ih
    | openBlock header | closeBlock => rfl
    | statement line =>
      rw [List.cons_append, statementSymbols, statementSymbols, ih]
      cases scanChunks .blank line <;> cases statementSymbols rest <;>
        cases statementSymbols back <;> rfl

/-- The symbols of statements are the tokens of the lines of the main function. -/
theorem map_tokens_bodyLines {records : List Record} {code : List (List (Token Symbol))}
    (hcode : statementSymbols (records.map Record.request) = some code) (depth : Nat) :
    ((bodyLines depth records).map fun line ↦ tokens line.toList) =
      code.map (List.map (Token.map Symbol.text)) := by
  induction records generalizing code with
  | nil => rw [← Option.some.inj hcode]; rfl
  | cons r rest ih =>
    cases r with
    | directive line | declare qualifier type n | define item => exact ih hcode
    | openBlock header => exact absurd hcode nofun
    | closeBlock => exact absurd hcode nofun
    | statement line =>
      obtain ⟨symbols, hsymbols, hrest⟩ := Option.bind_eq_some_iff.mp hcode
      obtain ⟨others, hothers, rfl⟩ := Option.map_eq_some_iff.mp hrest
      have hlines : bodyLines depth (.statement line :: rest) =
          indent depth line.text :: bodyLines depth rest := rfl
      rw [hlines, List.map_cons, List.map_cons, ih hothers, tokens_indent, ← lineChars_chunk,
        tokens_of_scanChunks hsymbols]

end SceneRenderer.Shader
