import SceneRenderer.Proofs.Shader.Symbols
import SceneRenderer.Shader.Record

/-!
Lines as the symbols they are made of. The parts of a line are read one by one, names as they are;
as long as no part runs into the next one, these are the tokens of its text
(`tokens_of_scanChunks`). A survey keeps what a line reads and what it declares.
-/

set_option autoImplicit false
set_option relaxedAutoImplicit false

namespace SceneRenderer.Shader

/-- A part of a line, its text spelled out. -/
inductive Chunk
  | text (chars : List Char)
  | name (n : Name)

def Piece.chunk : Piece → Chunk
  | literal s => .text s.toList
  | name n => .name n

namespace Chunk

def chars : Chunk → List Char
  | text chars => chars
  | name n => n.text.toList

def rename (g : Name → Name) : Chunk → Chunk
  | text chars => text chars
  | name n => name (g n)

end Chunk

/-- The characters of a line. -/
def lineChars (line : List Chunk) : List Char := line.flatMap Chunk.chars

theorem lineChars_chunk (line : Line) : lineChars (line.map Piece.chunk) = line.text.toList := by
  induction line with
  | nil => rfl
  | cons piece rest ih =>
    have hchars : piece.chunk.chars = piece.text.toList := by cases piece <;> rfl
    have htext : Line.text (piece :: rest) = piece.text ++ Line.text rest := String.join_cons
    rw [List.map_cons, lineChars, List.flatMap_cons, ← lineChars, ih, hchars, htext,
      String.toList_append]

/-- The symbols of a line that goes on from some state, if no part of it runs into the next one. -/
def scanChunks : ScanState → List Chunk → Option (List (Token Symbol))
  | _, [] => some []
  | s, .text chars :: rest =>
    if chars.head?.any fun c ↦ s.cuts c then
      match scan .blank chars with
      | (complete, last) =>
        (scanChunks last rest).map fun more ↦
          (complete ++ last.flush).map (Token.map .word) ++ more
    else none
  | s, .name n :: rest =>
    if s = .blank ∨ s = .point then
      (scanChunks (.word []) rest).map fun more ↦ .identifier (.name n) :: more
    else none

theorem map_text_map_word (ts : List (Token (List Char))) :
    (ts.map (Token.map Symbol.word)).map (Token.map Symbol.text) = ts := by
  rw [List.map_map, List.map_congr_left (g := id), List.map_id]
  intro t _
  cases t <;> rfl

theorem tokens_append_of_scanChunks {s : ScanState} {line : List Chunk} {ts : List (Token Symbol)}
    (hline : scanChunks s line = some ts) {front : List Char}
    (hfront : ∀ c, (scanEnd front).cuts c = s.cuts c) :
    tokens (front ++ lineChars line) = tokens front ++ ts.map (Token.map Symbol.text) := by
  induction line generalizing s ts front with
  | nil =>
    obtain rfl : [] = ts := Option.some.inj hline
    rw [lineChars, List.flatMap_nil, List.append_nil, List.map_nil, List.append_nil]
  | cons chunk rest ih =>
    rw [lineChars, List.flatMap_cons, ← lineChars]
    cases chunk with
    | text chars =>
      rw [scanChunks] at hline
      split_ifs at hline with hcut
      obtain ⟨c, hc, hcuts⟩ := (Option.any_eq_true _ _).mp hcut
      have hbetween : CutBetween front (chars ++ lineChars rest) := by
        intro d hd
        rw [List.head?_append, hc] at hd
        rw [← Option.some.inj hd, hfront, hcuts]
      obtain ⟨more, hmore, rfl⟩ := Option.map_eq_some_iff.mp hline
      rw [Chunk.chars, tokens_append hbetween, ih hmore fun _ ↦ rfl, List.map_append,
        map_text_map_word]
      rfl
    | name n =>
      rw [scanChunks] at hline
      split_ifs at hline with hcut
      have hbetween : CutBetween front (n.text.toList ++ lineChars rest) := by
        intro d hd
        obtain ⟨c, others, hchars⟩ := List.exists_cons_of_ne_nil n.isIdentifier_text.1
        rw [hchars, List.cons_append, List.head?_cons] at hd
        rw [← Option.some.inj hd, hfront]
        exact (n.isWord_text.cuts_iff.mpr hcut) c (by rw [hchars]; rfl)
      obtain ⟨more, hmore, rfl⟩ := Option.map_eq_some_iff.mp hline
      rw [Chunk.chars, tokens_append hbetween,
        ih hmore fun c ↦ by rw [n.isWord_text.scanEnd_eq]; rfl, n.isWord_text.tokens_eq]
      rfl

/-- The symbols of a line are its tokens. -/
theorem tokens_of_scanChunks {line : List Chunk} {ts : List (Token Symbol)}
    (hline : scanChunks .blank line = some ts) :
    tokens (lineChars line) = ts.map (Token.map Symbol.text) :=
  @tokens_append_of_scanChunks _ _ _ hline [] fun _ ↦ rfl

theorem scanChunks_rename (g : Name → Name) (s : ScanState) (line : List Chunk) :
    scanChunks s (line.map (Chunk.rename g)) =
      (scanChunks s line).map (List.map (Token.map (Symbol.rename g))) := by
  induction line generalizing s with
  | nil => rfl
  | cons chunk rest ih =>
    cases chunk with
    | text chars =>
      rw [List.map_cons, Chunk.rename, scanChunks, scanChunks]
      have hwords (ts : List (Token (List Char))) :
          (ts.map (Token.map Symbol.word)).map (Token.map (Symbol.rename g)) =
            ts.map (Token.map Symbol.word) := by
        rw [List.map_map]
        refine List.map_congr_left fun t _ ↦ ?_
        cases t <;> rfl
      split_ifs
      · rcases scan .blank chars with ⟨complete, last⟩
        simp only [ih, Option.map_map, Function.comp_def, List.map_append, hwords]
      · rfl
    | name n =>
      rw [List.map_cons, Chunk.rename, scanChunks, scanChunks]
      split_ifs
      · rw [ih, Option.map_map, Option.map_map]
        rfl
      · rfl

end SceneRenderer.Shader
