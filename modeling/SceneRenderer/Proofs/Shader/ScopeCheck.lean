import SceneRenderer.Proofs.Shader.Tokens
import SceneRenderer.Text.Basic

/-!
A check of scopes over the lines of a stage. Scopes follow braces: parameters and the variables of a
loop header belong to the block that opens after them, members after a point are skipped, and of the
preprocessor lines only definitions of macros name anything.

The check has two parts. A reader tells from the tokens what happens to which identifier, and the
scopes tell what an identifier that is read can refer to. `WellScoped` says that every identifier
that is read is visible where it is read and that no block declares an identifier twice; then
`undeclaredIdentifiers` finds nothing.
-/

set_option autoImplicit false
set_option relaxedAutoImplicit false

namespace SceneRenderer.Shader

/-- What happens to identifiers. -/
inductive Event (ι : Type)
  | reads (word : ι)
  | declares (word : ι)
  /-- The declaration of something that belongs to the next block. -/
  | takes (word : ι)
  | opens
  | closes
  /-- The end of a statement. -/
  | ends
  /-- The definition of a macro. -/
  | defines (word : ι)
deriving DecidableEq

def Event.map {ι κ : Type} (f : ι → κ) : Event ι → Event κ
  | reads word => reads (f word)
  | declares word => declares (f word)
  | takes word => takes (f word)
  | opens => opens
  | closes => closes
  | ends => ends
  | defines word => defines (f word)

/-! ### Reading tokens -/

/-- The words of the language. -/
structure Lexicon (ι : Type) where
  structWord : ι
  isType : ι → Bool
  /-- Keywords and what is built in. -/
  isReserved : ι → Bool

structure Reader (ι : Type) where
  /-- The types that are defined so far. -/
  structs : List ι
  parens : Nat
  /-- The depth in parentheses at which a comma continues a list of declarations. -/
  list : Option Nat
  previous : Option (Token ι)

/-- What stands right before an identifier. -/
inductive Lead
  | structWord
  | point
  | type
  | comma
  | other
deriving DecidableEq

/-- What an identifier is in its place. -/
inductive Role
  | structName
  /-- A keyword, a type or a member. -/
  | skipped
  | declared
  | read
deriving DecidableEq

namespace Reader

variable {ι : Type} [DecidableEq ι] (lexicon : Lexicon ι) (r : Reader ι)

def isType (word : ι) : Bool := lexicon.isType word || decide (word ∈ r.structs)

def lead : Lead :=
  match r.previous with
  | some (.identifier word) =>
    if word = lexicon.structWord then .structWord
    else if r.isType lexicon word then .type
    else .other
  | some (.mark c) => if c = '.' then .point else if c = ',' then .comma else .other
  | none => .other

def role (word : ι) : Role :=
  if r.lead lexicon = .structWord then .structName
  else if r.lead lexicon = .point || r.isType lexicon word || lexicon.isReserved word then .skipped
  else if r.lead lexicon = .type || r.lead lexicon = .comma && r.list = some r.parens then .declared
  else .read

/-- What a token makes happen, and the reader behind it. -/
def step : Token ι → Option (Event ι) × Reader ι
  | .identifier word =>
    let next := { r with previous := some (.identifier word) }
    match r.role lexicon word with
    | .structName => (none, { next with structs := word :: r.structs })
    | .skipped => (none, next)
    | .declared =>
      (some (if r.parens = 0 then .declares word else .takes word),
        { next with list := some r.parens })
    | .read => (some (.reads word), next)
  | .mark c =>
    let next := { r with previous := some (.mark c) }
    if c = '(' then (none, { next with parens := r.parens + 1 })
    else if c = ')' then
      (none, { next with parens := r.parens - 1, list := r.list.filter (· ≤ r.parens - 1) })
    else if c = ';' then (if r.parens = 0 then some .ends else none, { next with list := none })
    else if c = '\x7b' then (some .opens, { next with list := none })
    else if c = '\x7d' then (some .closes, next)
    else (none, next)

def run : Reader ι → List (Token ι) → List (Event ι) × Reader ι
  | r, [] => ([], r)
  | r, t :: rest =>
    match r.step lexicon t with
    | (event, next) =>
      match next.run rest with
      | (events, last) => (event.toList ++ events, last)

variable {lexicon r} in
theorem isType_iff {word : ι} :
    r.isType lexicon word = true ↔ lexicon.isType word = true ∨ word ∈ r.structs := by
  rw [isType, Bool.or_eq_true, decide_eq_true_iff]

end Reader

/-! ### Scopes -/

structure Scopes (ι : Type) where
  file : List ι
  /-- The open blocks, the innermost first. -/
  blocks : List (List ι)
  /-- What belongs to the next block. -/
  pending : List ι
deriving DecidableEq

namespace Scopes

variable {ι : Type}

def empty : Scopes ι := ⟨[], [], []⟩

/-- An identifier refers to something. -/
def Sees (s : Scopes ι) (word : ι) : Prop :=
  word ∈ s.pending ∨ word ∈ s.file ∨ ∃ block ∈ s.blocks, word ∈ block

instance [DecidableEq ι] (s : Scopes ι) (word : ι) : Decidable (s.Sees word) :=
  inferInstanceAs (Decidable (_ ∨ _))

def after (s : Scopes ι) : Event ι → Scopes ι
  | .declares word =>
    match s.blocks with
    | [] => { s with file := word :: s.file }
    | block :: outer => { s with blocks := (word :: block) :: outer }
  | .takes word => { s with pending := word :: s.pending }
  | .opens => { s with blocks := s.pending :: s.blocks, pending := [] }
  | .closes => { s with blocks := s.blocks.tail }
  | .ends => { s with pending := [] }
  | .defines word => { s with file := word :: s.file }
  | .reads _ => s

def afterAll (s : Scopes ι) (events : List (Event ι)) : Scopes ι := events.foldl after s

/-- The identifiers that are read where they refer to nothing, once each. -/
def undeclared [DecidableEq ι] (s : Scopes ι) (found : List ι) : List (Event ι) → List ι
  | [] => found
  | .reads word :: rest =>
    s.undeclared (if s.Sees word ∨ word ∈ found then found else found ++ [word]) rest
  | e :: rest => (s.after e).undeclared found rest

/-- An identifier is read where it refers to something, or declared where its block does not have it
yet. -/
def Allows (s : Scopes ι) : Event ι → Prop
  | .reads word => s.Sees word
  | .declares word => ∀ block ∈ s.blocks.head?, word ∉ block
  | _ => True

def AllowsAll (s : Scopes ι) : List (Event ι) → Prop
  | [] => True
  | e :: rest => s.Allows e ∧ (s.after e).AllowsAll rest

end Scopes

/-! ### The check -/

def glslTypes : List String :=
  ["void", "bool", "int", "float", "vec2", "vec3", "vec4", "bvec2", "bvec3", "bvec4", "ivec2",
    "ivec3", "ivec4", "mat2", "mat3", "mat4", "sampler2D", "samplerCube"]

/-- Keywords and what is built in. -/
def glslReserved : List String :=
  ["attribute", "uniform", "varying", "const", "in", "out", "inout", "precision", "highp",
    "mediump", "lowp", "struct", "if", "else", "for", "while", "do", "return", "discard", "break",
    "continue", "true", "false",
    "gl_Position", "gl_PointSize", "gl_FragColor", "gl_FragCoord", "gl_PointCoord",
    "gl_FrontFacing",
    "radians", "degrees", "sin", "cos", "tan", "asin", "acos", "atan", "pow", "exp", "log", "exp2",
    "log2", "sqrt", "inversesqrt", "abs", "sign", "floor", "ceil", "fract", "mod", "min", "max",
    "clamp", "mix", "step", "smoothstep", "length", "distance", "dot", "cross", "normalize",
    "faceforward", "reflect", "refract", "matrixCompMult", "lessThan", "lessThanEqual",
    "greaterThan", "greaterThanEqual", "equal", "notEqual", "any", "all", "not", "texture2D",
    "texture2DProj", "textureCube", "dFdx", "dFdy", "fwidth"]

def glslLexicon : Lexicon (List Char) where
  structWord := "struct".toList
  isType word := decide (word ∈ glslTypes.map String.toList)
  isReserved word := decide (word ∈ glslReserved.map String.toList)

theorem isType_glslLexicon {word : List Char} :
    glslLexicon.isType word = true ↔ word ∈ glslTypes.map String.toList :=
  decide_eq_true_iff

theorem isReserved_glslLexicon {word : List Char} :
    glslLexicon.isReserved word = true ↔ word ∈ glslReserved.map String.toList :=
  decide_eq_true_iff

/-- The words of a preprocessor line. -/
def directive? (line : List Char) : Option (List (List Char)) :=
  match line.dropWhile Text.isBlank with
  | '#' :: rest => some (identifiers rest)
  | _ => none

/-- What a preprocessor line defines. -/
def macros : List (List Char) → List (List Char)
  | keyword :: name :: _ => if keyword = "define".toList then [name] else []
  | _ => []

namespace Reader

/-- The reader at the start of a stage. -/
def start : Reader (List Char) := ⟨[], 0, none, none⟩

def runLine (r : Reader (List Char)) (line : String) :
    List (Event (List Char)) × Reader (List Char) :=
  match directive? line.toList with
  | some words => ((macros words).map .defines, { r with previous := none })
  | none => r.run glslLexicon (tokens line.toList)

def runLines : Reader (List Char) → List String → List (Event (List Char)) × Reader (List Char)
  | r, [] => ([], r)
  | r, line :: rest =>
    match r.runLine line with
    | (events, next) =>
      match next.runLines rest with
      | (more, last) => (events ++ more, last)

end Reader

/-- The identifiers that lines read outside the scope that declares them. -/
def undeclaredIdentifiers (lines : List String) : List String :=
  (Scopes.empty.undeclared [] (Reader.start.runLines lines).1).map String.ofList

/-- Every identifier that the lines read is visible there: it is a macro or a global, a struct or a
function of an earlier line, or a parameter or a local of an enclosing block. No block declares an
identifier twice. -/
def WellScoped (lines : List String) : Prop :=
  Scopes.empty.AllowsAll (Reader.start.runLines lines).1

namespace Scopes

variable {ι : Type} {s : Scopes ι}

theorem AllowsAll.undeclared_eq [DecidableEq ι] {events : List (Event ι)}
    (hevents : s.AllowsAll events) (found : List ι) : s.undeclared found events = found := by
  induction events generalizing s with
  | nil => rfl
  | cons e rest ih =>
    cases e with
    | reads word =>
      have hsees : s.Sees word := hevents.1
      rw [undeclared, if_pos (Or.inl hsees)]
      exact ih hevents.2
    | _ => exact ih hevents.2

theorem allowsAll_append {front back : List (Event ι)} :
    s.AllowsAll (front ++ back) ↔ s.AllowsAll front ∧ (s.afterAll front).AllowsAll back := by
  induction front generalizing s with
  | nil => simp [AllowsAll, afterAll]
  | cons e rest ih =>
    rw [List.cons_append, AllowsAll, AllowsAll, ih, and_assoc]
    rfl

theorem afterAll_append (front back : List (Event ι)) :
    s.afterAll (front ++ back) = (s.afterAll front).afterAll back :=
  List.foldl_append

end Scopes

theorem WellScoped.undeclaredIdentifiers_eq {lines : List String} (hlines : WellScoped lines) :
    undeclaredIdentifiers lines = [] := by
  rw [undeclaredIdentifiers, hlines.undeclared_eq []]
  rfl

/-! ### Lines in a row -/

/-- The check between two lines. -/
structure Checker where
  reader : Reader (List Char)
  scopes : Scopes (List Char)

/-- The check finds nothing in some lines, and goes on behind them. -/
structure Passes (c : Checker) (lines : List String) (c' : Checker) : Prop where
  allows : c.scopes.AllowsAll (c.reader.runLines lines).1
  reader : (c.reader.runLines lines).2 = c'.reader
  scopes : c.scopes.afterAll (c.reader.runLines lines).1 = c'.scopes

theorem Reader.runLines_append (r : Reader (List Char)) (front back : List String) :
    r.runLines (front ++ back) =
      ((r.runLines front).1 ++ ((r.runLines front).2.runLines back).1,
        ((r.runLines front).2.runLines back).2) := by
  induction front generalizing r with
  | nil => rfl
  | cons line rest ih =>
    rw [List.cons_append, runLines, runLines]
    simp only [ih, List.append_assoc]

namespace Passes

variable {c c' c'' : Checker} {lines front back : List String}

theorem nil (c : Checker) : Passes c [] c := ⟨trivial, rfl, rfl⟩

theorem append (hfront : Passes c front c') (hback : Passes c' back c'') :
    Passes c (front ++ back) c'' where
  allows := by
    rw [Reader.runLines_append, Scopes.allowsAll_append, hfront.scopes, hfront.reader]
    exact ⟨hfront.allows, hback.allows⟩
  reader := by
    rw [Reader.runLines_append, hfront.reader]
    exact hback.reader
  scopes := by
    rw [Reader.runLines_append, Scopes.afterAll_append, hfront.scopes, hfront.reader]
    exact hback.scopes

theorem congr {lines' : List String} (hlines : Passes c lines' c')
    (hreading : c.reader.runLines lines = c.reader.runLines lines') : Passes c lines c' :=
  ⟨hreading ▸ hlines.allows, hreading ▸ hlines.reader, hreading ▸ hlines.scopes⟩

theorem wellScoped (hlines : Passes ⟨.start, .empty⟩ lines c) : WellScoped lines := hlines.allows

end Passes

end SceneRenderer.Shader
