import SceneRenderer.Proofs.Toml.Documents
import SceneRenderer.Proofs.Toml.Words

/-!
What is relied on of a library for documents (`Library.Documented`): records of plain values have a
text, in which the values of a record stand before the tables nested in it, what is absent is left
out, and every value is read as what was written. Which numbers are read so is up to the library;
`Library.plain` reads those back that are their own text narrowed from double precision
(`documented_plain`).
-/

set_option autoImplicit false
set_option relaxedAutoImplicit false

namespace SceneRenderer.Toml

/-! ### What a library promises -/

/-- The value has a text without escapes, and if it is a number, one that is read back. -/
def Scalar.Writable (exact : Float32 → Prop) : Scalar → Prop
  | number x => exact x
  | choice name => ∀ c ∈ name.toList, isPlainChar c = true
  | _ => True

/-- Values under distinct plain keys. -/
structure WritableEntries (exact : Float32 → Prop) (fields : List (String × Scalar)) : Prop where
  names : (fields.map Prod.fst).Nodup
  plain : ∀ f ∈ fields, IsPlainKey f.1
  values : ∀ f ∈ fields, f.2.Writable exact

/-- A record under distinct plain keys, with plain values in it and in its tables. -/
structure Writable (exact : Float32 → Prop) (fields : List (String × Field)) : Prop where
  names : (fields.map Prod.fst).Nodup
  plain : ∀ f ∈ fields, IsPlainKey f.1
  values : ∀ f ∈ singles fields, f.2.Writable exact
  tables : ∀ t ∈ subtables fields, WritableEntries exact t.2

/-- What the documentation of a library says about records; the numbers that are `exact` are written
so that they are read back. -/
structure Library.Documented (t : Library) (exact : Float32 → Prop) : Prop where
  /-- Such a record can be written. -/
  writes : ∀ {fields}, Writable exact fields → ∃ text, t.write fields = some text
  /-- The lines of its text are entries for the values that are present, and then the tables, each
  under its header. -/
  reads : ∀ {fields text}, Writable exact fields → t.write fields = some text →
    ∃ s : Sheet, t.lines? text = some s.lines ∧ s.Represents fields

/-- A record that is written can be read, and every field of it is found. -/
theorem Library.Documented.exists_written {t : Library} {exact : Float32 → Prop}
    (ht : t.Documented exact) {fields : List (String × Field)} (hfields : Writable exact fields) :
    ∃ (text : String) (s : Sheet), t.write fields = some text ∧
      t.parse? text = some (.table .header s.entries) ∧ s.Represents fields := by
  obtain ⟨text, htext⟩ := ht.writes hfields
  obtain ⟨s, hlines, hs⟩ := ht.reads hfields htext
  refine ⟨text, s, htext, ?_, hs⟩
  rw [Library.parse?, hlines, Option.bind_some]
  exact hs.ofLines?_lines hfields.names fun f hf ↦ (hfields.tables f hf).names

/-! ### Values of the plain library -/

theorem denotes_flag (b : Bool) : Denotes (if b then "true" else "false") (.bool b) := by
  cases b <;> exact denotes_word (by simp [isWordChar]) rfl

namespace Scalar

/-- What the text of a value denotes. -/
def value : Scalar → Toml
  | bool b => .bool b
  | word n => .integer n.toNat
  | number x => numberValue x
  | choice name => .string name

variable {x : Scalar} (hx : x.Writable ReadsBack)

include hx

theorem denotes_text : Toml.Denotes x.text x.value := by
  cases x with
  | bool b => exact denotes_flag b
  | word n => exact denotes_nat (n.toNat_lt.trans (by decide))
  | number x => exact ReadsBack.denotes hx
  | choice name => exact denotes_string hx

theorem denotes_value : x.Denotes x.value := by
  cases x with
  | number x => exact hx
  | _ => rfl

end Scalar

/-! ### Lines of the plain library -/

def valueEntry (f : String × Scalar) : String × Toml := (f.1, f.2.value)

/-- The lines of some values. -/
def entryBlock (fields : List (String × Scalar)) : Block :=
  fields.map fun f ↦
    (f.1.toList ++ ' ' :: '=' :: ' ' :: (f.2.text.toList ++ ['\n']), .ofEntry (valueEntry f))

def tableBlock (t : String × List (String × Scalar)) : Block :=
  ('[' :: (t.1.toList ++ [']', '\n']), .header false [t.1]) :: entryBlock t.2

theorem chars_entryBlock (fields : List (String × Scalar)) :
    (entryBlock fields).chars = (String.join (fields.map entryText)).toList := by
  simp [Block.chars, entryBlock, entryText, List.flatMap_map]

theorem chars_tableBlock (t : String × List (String × Scalar)) :
    (tableBlock t).chars = (tableText t).toList := by
  have hentries := chars_entryBlock t.2
  rw [Block.chars] at hentries
  simp [Block.chars, tableBlock, tableText, hentries]

theorem isLine_entryBlock {fields : List (String × Scalar)}
    (hplain : ∀ f ∈ fields, IsPlainKey f.1) (hvalues : ∀ f ∈ fields, f.2.Writable ReadsBack) :
    ∀ l ∈ entryBlock fields, IsLine l.1 l.2 := by
  intro l hl
  obtain ⟨f, hf, rfl⟩ := List.mem_map.mp hl
  exact isLine_entry (hplain f hf) (Scalar.denotes_text (hvalues f hf))

theorem isLine_tableBlock {t : String × List (String × Scalar)} (hname : IsPlainKey t.1)
    (ht : WritableEntries ReadsBack t.2) : ∀ l ∈ tableBlock t, IsLine l.1 l.2 :=
  List.forall_mem_cons.mpr ⟨isLine_header hname, isLine_entryBlock ht.plain ht.values⟩

/-- The lines of a record: its values, if there are any, and its tables. -/
def recordBlocks (fields : List (String × Field)) : List Block :=
  (if (singles fields).isEmpty then [] else [entryBlock (singles fields)]) ++
    (subtables fields).map tableBlock

def plainSheet (fields : List (String × Field)) : Sheet :=
  ⟨(singles fields).map valueEntry,
    (subtables fields).map fun t ↦ (t.1, t.2.map valueEntry)⟩

theorem toList_recordText (fields : List (String × Field)) :
    (recordText fields).toList = ['\n'].intercalate ((recordBlocks fields).map Block.chars) := by
  have htables : ((subtables fields).map tableText).map String.toList =
      ((subtables fields).map tableBlock).map Block.chars := by
    rw [List.map_map, List.map_map]
    exact List.map_congr_left fun t _ ↦ (chars_tableBlock t).symm
  rw [recordText, recordBlocks, String.toList_intercalate, List.map_append, List.map_append,
    htables, List.isEmpty_map]
  split
  · rfl
  · rw [List.map_singleton, List.map_singleton, chars_entryBlock]
    rfl

theorem lines_recordBlocks (fields : List (String × Field)) :
    (recordBlocks fields).flatMap Block.lines = (plainSheet fields).lines := by
  have htables : ((subtables fields).map tableBlock).flatMap Block.lines =
      (plainSheet fields).tables.flatMap Line.ofTable := by
    rw [plainSheet, List.flatMap_map, List.flatMap_map]
    exact List.flatMap_congr fun t _ ↦ by
      simp [Block.lines, tableBlock, entryBlock, Line.ofTable]
  rw [recordBlocks, List.flatMap_append, htables, Sheet.lines]
  congr 1
  split
  · rename_i hnone
    rw [plainSheet, List.isEmpty_iff.mp hnone]
    rfl
  · simp [Block.lines, entryBlock, plainSheet]

theorem isLine_recordBlocks {fields : List (String × Field)} (hfields : Writable ReadsBack fields) :
    ∀ b ∈ recordBlocks fields, ∀ l ∈ b, IsLine l.1 l.2 := by
  have hname {name : String} (hmem : name ∈ (singles fields).map Prod.fst ++
      (subtables fields).map Prod.fst) : IsPlainKey name := by
    obtain ⟨f, hf, rfl⟩ := List.mem_map.mp (mem_names_of_mem hmem)
    exact hfields.plain f hf
  intro b hb
  rcases List.mem_append.mp hb with htop | htables
  · split at htop
    · exact absurd htop List.not_mem_nil
    · obtain rfl := List.mem_singleton.mp htop
      exact isLine_entryBlock
        (fun f hf ↦ hname (List.mem_append_left _ (List.mem_map_of_mem hf))) hfields.values
  · obtain ⟨t, ht, rfl⟩ := List.mem_map.mp htables
    exact isLine_tableBlock (hname (List.mem_append_right _ (List.mem_map_of_mem ht)))
      (hfields.tables t ht)

theorem entriesFor_valueEntry {fields : List (String × Scalar)}
    (hvalues : ∀ f ∈ fields, f.2.Writable ReadsBack) :
    EntriesFor fields (fields.map valueEntry) := by
  rw [EntriesFor, List.forall₂_map_right_iff, List.forall₂_same]
  exact fun f hf ↦ ⟨rfl, Scalar.denotes_value (hvalues f hf)⟩

theorem represents_plainSheet {fields : List (String × Field)}
    (hfields : Writable ReadsBack fields) : (plainSheet fields).Represents fields where
  top := entriesFor_valueEntry hfields.values
  tables := by
    rw [plainSheet, List.forall₂_map_right_iff, List.forall₂_same]
    exact fun t ht ↦ ⟨rfl, entriesFor_valueEntry (hfields.tables t ht).values⟩

theorem documented_plain : Library.plain.Documented ReadsBack where
  writes _ := ⟨_, rfl⟩
  reads hfields htext := by
    obtain rfl := Option.some.inj htext
    refine ⟨plainSheet _, ?_, represents_plainSheet hfields⟩
    rw [← lines_recordBlocks]
    exact documentLines?_eq (isLine_recordBlocks hfields) (toList_recordText _)

end SceneRenderer.Toml
