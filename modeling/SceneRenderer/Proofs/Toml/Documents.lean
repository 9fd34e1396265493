import Mathlib.Data.List.Forall2
import Mathlib.Data.List.Nodup
import SceneRenderer.Json.Codec
import SceneRenderer.Toml.Record

/-!
The table that lines denote. An entry is added to the table of the last header and a header begins a
new table, so that a sheet of entries with tables behind them denotes the table that it spells out
(`Sheet.ofLines?_lines`). In a sheet that represents a record, every field of the record is found
under its name, in whatever order the type has its fields (`Sheet.Represents.found`).
-/

set_option autoImplicit false
set_option relaxedAutoImplicit false

namespace SceneRenderer.Toml

open Codec

/-! ### Tables -/

/-- A change under a key that comes behind some entries leaves those as they are. -/
theorem updateEntry_append {front back : List (String × Toml)} {key : String}
    (hkey : key ∉ front.map Prod.fst) (change : Option Toml → Option Toml) :
    updateEntry (front ++ back) key change = (updateEntry back key change).map (front ++ ·) := by
  induction front with
  | nil => exact Option.map_id'.symm
  | cons e rest ih =>
    obtain ⟨k, v⟩ := e
    rw [List.map_cons, List.mem_cons, not_or] at hkey
    rw [List.cons_append, updateEntry, if_neg (Ne.symm hkey.1), ih hkey.2, Option.map_map]
    rfl

/-- A key without an entry gets one behind the others. -/
theorem updateEntry_new {entries : List (String × Toml)} {key : String}
    (hkey : key ∉ entries.map Prod.fst) (change : Option Toml → Option Toml) :
    updateEntry entries key change = (change none).map fun v ↦ entries ++ [(key, v)] := by
  have hupdate : updateEntry (entries ++ []) key change = _ := updateEntry_append hkey change
  rwa [List.append_nil, updateEntry, Option.map_map] at hupdate

/-- Where the table of a header lies in a document: changing the document under the header changes
that table. -/
def Places (header : List String) (place : List (String × Toml) → List (String × Toml)) : Prop :=
  ∀ (change : List (String × Toml) → Option (List (String × Toml))) (inner changed),
    change inner = some changed → atHeader change header (place inner) = some (place changed)

theorem places_root : Places [] id := fun _ _ _ h ↦ h

/-- The last table of a document under a header of one part. -/
theorem places_table {front : List (String × Toml)} {key : String}
    (hkey : key ∉ front.map Prod.fst) :
    Places [key] fun inner ↦ front ++ [(key, .table .header inner)] := by
  intro change inner changed hchange
  rw [atHeader, updateEntry_append hkey, updateEntry, if_pos rfl]
  simp only [atHeader, hchange, Option.map_some]

/-! ### Sheets -/

/-- A document of entries and, behind them, tables of entries. -/
structure Sheet where
  top : List (String × Toml)
  tables : List (String × List (String × Toml))

def Line.ofEntry (e : String × Toml) : Line := .entry [e.1] e.2

/-- A table under its header. -/
def Line.ofTable (t : String × List (String × Toml)) : List Line :=
  .header false [t.1] :: t.2.map ofEntry

def tableEntry (t : String × List (String × Toml)) : String × Toml := (t.1, .table .header t.2)

namespace Sheet

def lines (s : Sheet) : List Line := s.top.map .ofEntry ++ s.tables.flatMap Line.ofTable

/-- The entries of the table that the document denotes. -/
def entries (s : Sheet) : List (String × Toml) := s.top ++ s.tables.map tableEntry

end Sheet

/-- Entries under new keys, one step each: by induction on the entries, each of them comes behind
those before it, in the table of the last header. -/
theorem foldlM_entries {header : List String}
    {place : List (String × Toml) → List (String × Toml)} (hplace : Places header place)
    {entries : List (String × Toml)} (inner : List (String × Toml))
    (hnew : (inner.map Prod.fst ++ entries.map Prod.fst).Nodup) :
    (entries.map Line.ofEntry).foldlM Document.add ⟨place inner, header⟩ =
      some ⟨place (inner ++ entries), header⟩ := by
  induction entries generalizing inner with
  | nil => rw [List.append_nil]; rfl
  | cons e more ih =>
    have hkey : e.1 ∉ inner.map Prod.fst := fun hmem ↦
      (List.nodup_append.mp hnew).2.2 _ hmem _ List.mem_cons_self rfl
    have hinsert : insertKey [e.1] e.2 inner = some (inner ++ [e]) := updateEntry_new hkey _
    have hadd : Document.add ⟨place inner, header⟩ (.ofEntry e) =
        some ⟨place (inner ++ [e]), header⟩ := by
      rw [Line.ofEntry, Document.add, hplace _ _ _ hinsert, Option.map_some]
    have hnew' : ((inner ++ [e]).map Prod.fst ++ more.map Prod.fst).Nodup := by
      rwa [List.map_append, List.append_assoc]
    rw [List.map_cons, List.foldlM_cons, hadd]
    exact (ih _ hnew').trans (by rw [List.append_assoc]; rfl)

/-- Tables under new names, whatever the header before them. -/
theorem foldlM_tables {tables : List (String × List (String × Toml))}
    (hinner : ∀ t ∈ tables, (t.2.map Prod.fst).Nodup) (d : Document)
    (hnew : (d.root.map Prod.fst ++ tables.map Prod.fst).Nodup) :
    ∃ header, (tables.flatMap Line.ofTable).foldlM Document.add d =
      some ⟨d.root ++ tables.map tableEntry, header⟩ := by
  induction tables generalizing d with
  | nil => exact ⟨d.header, by rw [List.map_nil, List.append_nil]; rfl⟩
  | cons t more ih =>
    have hname : t.1 ∉ d.root.map Prod.fst := fun hmem ↦
      (List.nodup_append.mp hnew).2.2 _ hmem _ List.mem_cons_self rfl
    have hopen : atHeader (openTable t.1) [] d.root =
        some (d.root ++ [(t.1, .table .header [])]) := updateEntry_new hname _
    have hheader : d.add (.header false [t.1]) =
        some ⟨d.root ++ [(t.1, .table .header [])], [t.1]⟩ := by
      rw [Document.add, List.reverse_singleton]
      dsimp only
      rw [List.reverse_nil, if_neg Bool.false_ne_true, hopen, Option.map_some]
    have hentries := foldlM_entries (places_table hname) [] (hinner t List.mem_cons_self)
    have hnew' : ((d.root ++ [tableEntry t]).map Prod.fst ++ more.map Prod.fst).Nodup := by
      rwa [List.map_append, List.append_assoc]
    obtain ⟨header, hmore⟩ := ih (fun t' ht' ↦ hinner t' (List.mem_cons_of_mem _ ht'))
      ⟨d.root ++ [tableEntry t], [t.1]⟩ hnew'
    refine ⟨header, ?_⟩
    rw [List.flatMap_cons, List.foldlM_append, Line.ofTable, List.foldlM_cons, hheader]
    dsimp only [bind, Option.bind]
    rw [hentries]
    exact hmore.trans (by rw [List.append_assoc]; rfl)

theorem Sheet.ofLines?_lines {s : Sheet}
    (hkeys : (s.top.map Prod.fst ++ s.tables.map Prod.fst).Nodup)
    (hinner : ∀ t ∈ s.tables, (t.2.map Prod.fst).Nodup) :
    ofLines? s.lines = some (.table .header s.entries) := by
  have htop := foldlM_entries places_root [] (List.nodup_append.mp hkeys).1
  obtain ⟨header, htables⟩ := foldlM_tables hinner ⟨s.top, []⟩ hkeys
  have hlines : s.lines.foldlM Document.add .empty = some ⟨s.entries, header⟩ := by
    rw [Sheet.lines, List.foldlM_append]
    exact (congrArg (Option.bind · _) htop).trans htables
  rw [ofLines?, hlines, Option.map_some]

/-! ### Records -/

/-- The value stands in a document for what a record handed over. A number is what it narrows to. -/
def Scalar.Denotes : Scalar → Toml → Prop
  | bool b, v => v = .bool b
  | word n, v => v = .integer n.toNat
  | number x, v => v.scalar?.bind read = some x
  | choice name, v => v = .string name

/-- Both have the same name, and what they have under it is related. -/
def Keyed {α β : Type} (R : α → β → Prop) (f : String × α) (e : String × β) : Prop :=
  e.1 = f.1 ∧ R f.2 e.2

/-- Entries for the fields, in order. -/
def EntriesFor : List (String × Scalar) → List (String × Toml) → Prop :=
  List.Forall₂ (Keyed Scalar.Denotes)

/-- The document has the single values of the record that are present and, as tables behind these,
the records in it, each with the values that are present. -/
structure Sheet.Represents (s : Sheet) (fields : List (String × Field)) : Prop where
  top : EntriesFor (singles fields) s.top
  tables : List.Forall₂ (Keyed EntriesFor) (subtables fields) s.tables

/-- What is found for a field of a record. -/
def Field.Found : Field → Option Toml → Prop
  | single none, found => found = none
  | single (some x), found => ∃ v, found = some v ∧ x.Denotes v
  | record inner, found =>
    ∃ entries, found = some (.table .header entries) ∧ EntriesFor (present inner) entries

section Keyed

variable {α β : Type} {R : α → β → Prop} {fields : List (String × α)} {entries : List (String × β)}

theorem keys_eq_of_keyed (h : List.Forall₂ (Keyed R) fields entries) :
    entries.map Prod.fst = fields.map Prod.fst := by
  induction h with
  | nil => rfl
  | cons hkeyed _ ih => rw [List.map_cons, List.map_cons, hkeyed.1, ih]

theorem lookup_eq_none {name : String} (hname : name ∉ entries.map Prod.fst) :
    entries.lookup name = none := by
  rw [List.lookup_eq_none_iff]
  intro e he
  rw [bne_iff_ne]
  rintro rfl
  exact hname (List.mem_map_of_mem he)

theorem exists_lookup_of_keyed (h : List.Forall₂ (Keyed R) fields entries)
    (hnames : (fields.map Prod.fst).Nodup) {name : String} {x : α} (hfield : (name, x) ∈ fields) :
    ∃ v, entries.lookup name = some v ∧ R x v := by
  induction h with
  | nil => exact absurd hfield List.not_mem_nil
  | @cons f e fields entries hkeyed _ ih =>
    obtain ⟨hhead, hnames⟩ := List.nodup_cons.mp hnames
    obtain ⟨key, v⟩ := e
    obtain ⟨rfl, hv⟩ := hkeyed
    rcases List.mem_cons.mp hfield with rfl | hmem
    · exact ⟨v, List.lookup_cons_self, hv⟩
    · have hne : (name == f.1) = false := by
        rw [beq_eq_false_iff_ne]
        rintro rfl
        exact hhead (List.mem_map.mpr ⟨_, hmem, rfl⟩)
      obtain ⟨w, hw⟩ := ih hnames hmem
      exact ⟨w, by rw [List.lookup_cons, hne]; exact hw.1, hw.2⟩

end Keyed

theorem nodup_keys_of_keyed {fields : List (String × List (String × Scalar))}
    {tables : List (String × List (String × Toml))}
    (h : List.Forall₂ (Keyed EntriesFor) fields tables)
    (hnames : ∀ f ∈ fields, (f.2.map Prod.fst).Nodup) :
    ∀ t ∈ tables, (t.2.map Prod.fst).Nodup := by
  induction h with
  | nil => exact List.forall_mem_nil _
  | cons hkeyed _ ih =>
    obtain ⟨hhead, hmore⟩ := List.forall_mem_cons.mp hnames
    exact List.forall_mem_cons.mpr ⟨by rwa [keys_eq_of_keyed hkeyed.2], ih hmore⟩

section Names

variable {fields : List (String × Field)}

theorem mem_singles {name : String} {x : Scalar} :
    (name, x) ∈ singles fields ↔ (name, .single (some x)) ∈ fields := by
  rw [singles, List.mem_filterMap]
  constructor
  · rintro ⟨⟨key, field⟩, hmem, hfield⟩
    split at hfield
    · rename_i heq
      cases heq
      cases hfield
      exact hmem
    · cases hfield
  · exact fun hmem ↦ ⟨_, hmem, rfl⟩

theorem mem_subtables {name : String} {inner : List (String × Scalar)} :
    (name, inner) ∈ subtables fields ↔
      ∃ whole, present whole = inner ∧ (name, .record whole) ∈ fields := by
  rw [subtables, List.mem_filterMap]
  constructor
  · rintro ⟨⟨key, field⟩, hmem, hfield⟩
    split at hfield
    · rename_i heq
      cases heq
      cases hfield
      exact ⟨_, rfl, hmem⟩
    · cases hfield
  · rintro ⟨whole, rfl, hmem⟩
    exact ⟨_, hmem, rfl⟩

theorem mem_names_of_mem {name : String}
    (hname : name ∈ (singles fields).map Prod.fst ++ (subtables fields).map Prod.fst) :
    name ∈ fields.map Prod.fst := by
  rcases List.mem_append.mp hname with hmem | hmem
  · obtain ⟨⟨key, x⟩, hx, rfl⟩ := List.mem_map.mp hmem
    exact List.mem_map_of_mem (mem_singles.mp hx)
  · obtain ⟨⟨key, inner⟩, hinner, rfl⟩ := List.mem_map.mp hmem
    obtain ⟨whole, -, hwhole⟩ := mem_subtables.mp hinner
    exact List.mem_map_of_mem hwhole

theorem nodup_names (hnames : (fields.map Prod.fst).Nodup) :
    ((singles fields).map Prod.fst ++ (subtables fields).map Prod.fst).Nodup := by
  induction fields with
  | nil => exact List.nodup_nil
  | cons f more ih =>
    obtain ⟨hhead, hmore⟩ := List.nodup_cons.mp hnames
    have ih := ih hmore
    have hnew : f.1 ∉ (singles more).map Prod.fst ++ (subtables more).map Prod.fst :=
      fun hmem ↦ hhead (mem_names_of_mem hmem)
    obtain ⟨name, field⟩ := f
    match field with
    | .single none => exact ih
    | .single (some x) => exact List.nodup_cons.mpr ⟨hnew, ih⟩
    | .record inner => exact List.nodup_middle.mpr (List.nodup_cons.mpr ⟨hnew, ih⟩)

end Names

namespace Sheet.Represents

variable {s : Sheet} {fields : List (String × Field)} (hs : s.Represents fields)

include hs

theorem keys_eq : s.top.map Prod.fst ++ s.tables.map Prod.fst =
    (singles fields).map Prod.fst ++ (subtables fields).map Prod.fst := by
  rw [keys_eq_of_keyed hs.top, keys_eq_of_keyed hs.tables]

theorem tableEntries : List.Forall₂ (Keyed fun inner v ↦
    ∃ entries, v = .table .header entries ∧ EntriesFor inner entries) (subtables fields)
    (s.tables.map tableEntry) :=
  List.forall₂_map_right_iff.mpr (hs.tables.imp fun _ t ht ↦ ⟨ht.1, t.2, rfl, ht.2⟩)

section Distinct

variable (hnames : (fields.map Prod.fst).Nodup)

include hnames

/-- Every field of the record is found under its name, and one that is absent is not found. -/
theorem found {name : String} {field : Field} (hfield : (name, field) ∈ fields) :
    field.Found (s.entries.lookup name) := by
  have hunique {other : Field} (hother : (name, other) ∈ fields) : other = field :=
    congrArg Prod.snd (List.inj_on_of_nodup_map hnames hother hfield rfl)
  have hdistinct := nodup_names hnames
  have htop (hnone : ∀ x, field ≠ .single (some x)) : s.top.lookup name = none := by
    refine lookup_eq_none ?_
    rw [keys_eq_of_keyed hs.top, List.mem_map]
    rintro ⟨⟨key, x⟩, hx, rfl⟩
    exact hnone x (hunique (mem_singles.mp hx)).symm
  rw [entries, List.lookup_append]
  match field with
  | .single none =>
    rw [htop fun x ↦ by simp, Option.none_or]
    refine lookup_eq_none ?_
    rw [keys_eq_of_keyed hs.tableEntries, List.mem_map]
    rintro ⟨⟨key, inner⟩, hinner, rfl⟩
    obtain ⟨whole, -, hwhole⟩ := mem_subtables.mp hinner
    cases hunique hwhole
  | .single (some x) =>
    obtain ⟨v, hv, hdenotes⟩ := exists_lookup_of_keyed hs.top
      (List.nodup_append.mp hdistinct).1 (mem_singles.mpr hfield)
    exact ⟨v, by rw [hv, Option.some_or], hdenotes⟩
  | .record inner =>
    obtain ⟨_, hv, entries, rfl, hentries⟩ := exists_lookup_of_keyed hs.tableEntries
      (List.nodup_append.mp hdistinct).2.1 (mem_subtables.mpr ⟨inner, rfl, hfield⟩)
    exact ⟨entries, by rw [htop fun x ↦ by simp, Option.none_or, hv], hentries⟩

/-- The lines of the document denote a table in which every field is found. -/
theorem ofLines?_lines (hinner : ∀ f ∈ subtables fields, (f.2.map Prod.fst).Nodup) :
    ofLines? s.lines = some (.table .header s.entries) := by
  refine Sheet.ofLines?_lines ?_ (nodup_keys_of_keyed hs.tables hinner)
  rw [hs.keys_eq]
  exact nodup_names hnames

end Distinct

/-- The entries have no names but those of the record, so that the table is read field by field. -/
theorem exists_fields (hnames : (fields.map Prod.fst).Nodup) (origin : TableOrigin) :
    ∃ found, (Toml.table origin s.entries).fields? (fields.map Prod.fst) = some found ∧
      List.Forall₂ (fun f v ↦ f.2.Found v) fields found := by
  have hkeys : s.entries.map Prod.fst =
      (singles fields).map Prod.fst ++ (subtables fields).map Prod.fst := by
    rw [entries, List.map_append, keys_eq_of_keyed hs.top, keys_eq_of_keyed hs.tableEntries]
  have hknown : (s.entries.filter fun e ↦ !(fields.map Prod.fst).contains e.1) = [] := by
    rw [List.filter_eq_nil_iff]
    intro e he
    have hmem : e.1 ∈ fields.map Prod.fst :=
      mem_names_of_mem (hkeys ▸ List.mem_map_of_mem he)
    rw [List.contains_iff_mem.mpr hmem]
    exact Bool.false_ne_true
  refine ⟨fields.map fun f ↦ s.entries.lookup f.1, ?_, ?_⟩
  · rw [fields?, hknown, List.map_map]
    rfl
  · rw [List.forall₂_map_right_iff, List.forall₂_same]
    exact fun f hf ↦ hs.found hnames hf

end Sheet.Represents

/-- A table of single values is read like a document without further tables. -/
theorem EntriesFor.exists_fields {fields : List (String × Option Scalar)}
    {entries : List (String × Toml)} (h : EntriesFor (present fields) entries)
    (hnames : (fields.map Prod.fst).Nodup) (origin : TableOrigin) :
    ∃ found, (Toml.table origin entries).fields? (fields.map Prod.fst) = some found ∧
      List.Forall₂ (fun f v ↦ (Field.single f.2).Found v) fields found := by
  have hsingles : singles (fields.map fun f ↦ (f.1, Field.single f.2)) = present fields := by
    rw [singles, present, List.filterMap_map]
    refine List.filterMap_congr fun f _ ↦ ?_
    obtain ⟨name, _ | x⟩ := f <;> rfl
  have hsubtables : subtables (fields.map fun f ↦ (f.1, Field.single f.2)) = [] := by
    rw [subtables, List.filterMap_map, List.filterMap_eq_nil_iff]
    exact fun f _ ↦ rfl
  have hsheet : (Sheet.mk entries []).Represents (fields.map fun f ↦ (f.1, Field.single f.2)) :=
    ⟨by rwa [hsingles], by rw [hsubtables]; exact .nil⟩
  have hmap : (fields.map fun f ↦ (f.1, Field.single f.2)).map Prod.fst = fields.map Prod.fst := by
    rw [List.map_map]
    rfl
  obtain ⟨found, hread, hfound⟩ := hsheet.exists_fields (by rwa [hmap]) origin
  rw [hmap, Sheet.entries, List.map_nil, List.append_nil] at hread
  rw [List.forall₂_map_left_iff] at hfound
  exact ⟨found, hread, hfound⟩

end SceneRenderer.Toml
