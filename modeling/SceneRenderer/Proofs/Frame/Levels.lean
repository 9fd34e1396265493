import Mathlib.Tactic.ByContra
import SceneRenderer.Frame.Draw
import SceneRenderer.Proofs.Frame.GpuState
import SceneRenderer.Proofs.Shader.Identifier

/-!
The registers that a draw sets fall into levels: what the program and the material are given, the
transform, and the geometry. A list of commands that stays on one level leaves the registers of the
others as they are, as long as the program has a place of its own for each uniform.
-/

set_option autoImplicit false
set_option relaxedAutoImplicit false

namespace SceneRenderer

open Shader

inductive Level
  /-- Set for the whole program or for a material. -/
  | shared
  | transform
  | geometry
deriving DecidableEq

/-- The level at which a uniform is set. -/
def Shader.Name.level : Name → Level
  | .modelMatrix | .modelNormalMatrix => .transform
  | .positionsDecodeMatrix | .uvDecodeMatrix => .geometry
  | _ => .shared

/-- What a command of a draw sets, whatever it puts there. -/
inductive Slot
  | program
  | uniform (name : Name)
  | texture (unit : UInt32) (target : TextureTarget)
  | attributeSlot (slot : UInt32)
  | indexBuffer
deriving DecidableEq

namespace Slot

def level : Slot → Level
  | .program | .texture .. => .shared
  | .uniform name => name.level
  | .attributeSlot _ | .indexBuffer => .geometry

/-- Whether a slot is set through a register of a program. -/
def covers (b : ProgramBindings) : Slot → Register → Bool
  | .program, .program => true
  | .uniform name, .uniform location => b.uniform? name.text == some location
  | .texture unit _, .unit u => u == unit
  | .texture unit target, .texture u t => u == unit && t == target
  | .attributeSlot slot, .attributeSlot s => s == slot
  | .indexBuffer, .indexBuffer => true
  | _, _ => false

end Slot

/-- The level of a register that every program has. -/
def Register.level? : Register → Option Level
  | program | unit _ | texture .. => some .shared
  | attributeSlot _ | indexBuffer => some .geometry
  | uniform _ => none

def Upload.slot : Upload → Slot
  | uniform name _ => .uniform name
  | texture unit target _ => .texture unit target

namespace ProgramBindings

variable (b : ProgramBindings)

/-- Each uniform has a place of its own. -/
def Distinct : Prop :=
  ∀ n n' location, b.uniform? n = some location → b.uniform? n' = some location → n = n'

/-- Commands set registers of one level only. -/
def SetsOnly (l : Level) (commands : List Command) : Prop :=
  ∀ r, effect commands r ≠ none → ∃ slot : Slot, slot.level = l ∧ slot.covers b r

variable {b}

/-- A register that is no uniform tells the level of its slots. -/
theorem level_of_covers {s : Slot} {r : Register} {l : Level} (hr : r.level? = some l)
    (hs : s.covers b r) : s.level = l := by
  have hlevel : some s.level = r.level? := by
    cases r with
    | program =>
      cases s with
      | program => rfl
      | _ => exact absurd hs nofun
    | uniform location => exact absurd hr nofun
    | unit u =>
      cases s with
      | texture unit target => rfl
      | _ => exact absurd hs nofun
    | texture u t =>
      cases s with
      | texture unit target => rfl
      | _ => exact absurd hs nofun
    | attributeSlot slot =>
      cases s with
      | attributeSlot slot' => rfl
      | _ => exact absurd hs nofun
    | indexBuffer =>
      cases s with
      | indexBuffer => rfl
      | _ => exact absurd hs nofun
  exact Option.some.inj (hlevel.trans hr)

theorem exists_name_of_covers {s : Slot} {location : UniformLocation}
    (hs : s.covers b (.uniform location)) :
    ∃ name, s = .uniform name ∧ b.uniform? name.text = some location := by
  cases s with
  | uniform name => exact ⟨name, rfl, beq_iff_eq.mp hs⟩
  | _ => exact absurd hs nofun

/-- A register has one level at most. -/
theorem level_unique (hb : b.Distinct) {s t : Slot} {r : Register} (hs : s.covers b r)
    (ht : t.covers b r) : s.level = t.level := by
  cases hr : r.level? with
  | some l => rw [level_of_covers hr hs, level_of_covers hr ht]
  | none =>
    cases r with
    | uniform location =>
      obtain ⟨name, rfl, hname⟩ := exists_name_of_covers hs
      obtain ⟨name', rfl, hname'⟩ := exists_name_of_covers ht
      rw [Name.text_injective (hb _ _ location hname hname')]
    | _ => exact absurd hr nofun

/-- Commands of different levels set different registers. -/
theorem SetsOnly.apart {l l' : Level} {commands other : List Command}
    (hcommands : b.SetsOnly l commands) (hother : b.SetsOnly l' other) (hb : b.Distinct)
    (hl : l ≠ l') (r : Register) (hset : effect commands r ≠ none) : effect other r = none := by
  by_contra hboth
  obtain ⟨s, hs, hcovers⟩ := hcommands r hset
  obtain ⟨t, ht, hcovers'⟩ := hother r hboth
  exact hl (by rw [← hs, ← ht, level_unique hb hcovers hcovers'])

theorem SetsOnly.append {l : Level} {commands rest : List Command}
    (hcommands : b.SetsOnly l commands) (hrest : b.SetsOnly l rest) :
    b.SetsOnly l (commands ++ rest) := by
  intro r hset
  rw [effect_append] at hset
  by_cases hr : effect rest r = none
  · rw [hr, Option.none_or] at hset
    exact hcommands r hset
  · exact hrest r hr

/-- An upload sets what its slot covers. -/
theorem isSome_effect_upload (upload : Upload) (r : Register) :
    (effect (b.upload upload) r).isSome = upload.slot.covers b r := by
  cases upload with
  | uniform name value =>
    show (effect (b.set name.text value) r).isSome = (Slot.uniform name).covers b r
    unfold set
    cases hlocation : b.uniform? name.text with
    | none =>
      cases r with
      | uniform l =>
        show false = (b.uniform? name.text == some l)
        rw [hlocation]
        rfl
      | _ => rfl
    | some location =>
      cases r with
      | uniform l =>
        show (if l = location then some (Binding.value value) else none).isSome =
          (b.uniform? name.text == some l)
        rw [Bool.eq_iff_iff, Option.isSome_ite, beq_iff_eq, hlocation, Option.some.injEq, eq_comm]
      | _ => rfl
  | texture unit target texture =>
    cases r with
    | unit u =>
      show (if u = unit then some (Binding.texture target texture) else none).isSome = (u == unit)
      rw [Bool.eq_iff_iff, Option.isSome_ite, beq_iff_eq]
    | texture u t =>
      show (if u = unit ∧ t = target then some (Binding.texture target texture) else none).isSome =
        (u == unit && t == target)
      rw [Bool.eq_iff_iff, Option.isSome_ite, Bool.and_eq_true_iff, beq_iff_eq, beq_iff_eq]
    | _ => rfl

theorem isSome_effect_uploadAll (uploads : List Upload) (r : Register) :
    (effect (b.uploadAll uploads) r).isSome = (uploads.map Upload.slot).any (·.covers b r) := by
  induction uploads with
  | nil => rfl
  | cons upload rest ih =>
    show (effect (b.upload upload ++ b.uploadAll rest) r).isSome = _
    rw [effect_append, Option.isSome_or, ih, isSome_effect_upload, List.map_cons, List.any_cons,
      Bool.or_comm]

/-- Uploads to the same slots set the same registers. -/
theorem effect_eq_none_iff {uploads uploads' : List Upload}
    (hslots : uploads.map Upload.slot = uploads'.map Upload.slot) (r : Register) :
    effect (b.uploadAll uploads) r = none ↔ effect (b.uploadAll uploads') r = none := by
  rw [← Option.not_isSome_iff_eq_none, ← Option.not_isSome_iff_eq_none, isSome_effect_uploadAll,
    isSome_effect_uploadAll, hslots]

theorem setsOnly_uploadAll {l : Level} {uploads : List Upload}
    (hlevel : ∀ upload ∈ uploads, upload.slot.level = l) : b.SetsOnly l (b.uploadAll uploads) := by
  intro r hset
  rw [← Option.isSome_iff_ne_none, isSome_effect_uploadAll, List.any_eq_true] at hset
  obtain ⟨slot, hslot, hcovers⟩ := hset
  obtain ⟨upload, hupload, rfl⟩ := List.mem_map.mp hslot
  exact ⟨upload.slot, hlevel upload hupload, hcovers⟩

/-- Uploads only set what draws read. -/
theorem isSetting_uploadAll (uploads : List Upload) : ∀ c ∈ b.uploadAll uploads, c.isSetting := by
  intro c hc
  obtain ⟨upload, _, hupload⟩ := List.mem_flatMap.mp hc
  cases upload with
  | uniform name value =>
    change c ∈ b.set name.text value at hupload
    unfold set at hupload
    split at hupload
    · rw [List.mem_singleton.mp hupload]
      rfl
    · exact absurd hupload List.not_mem_nil
  | texture unit target texture =>
    rw [List.mem_singleton.mp hupload]
    rfl

theorem setUniform_mem_uploadAll {uploads : List Upload} {n : Name} {value : UniformValue}
    (hupload : .uniform n value ∈ uploads) {location : UniformLocation}
    (hlocation : b.uniform? n.text = some location) :
    .setUniform location value ∈ b.uploadAll uploads := by
  refine List.mem_flatMap.mpr ⟨_, hupload, ?_⟩
  show _ ∈ b.set n.text value
  rw [set, hlocation]
  exact List.mem_singleton_self _

/-- Uploads draw nothing. -/
theorem isDraw_uploadAll (uploads : List Upload) :
    ∀ c ∈ b.uploadAll uploads, c.isDraw = false :=
  fun c hc ↦ Command.isDraw_of_isSetting (isSetting_uploadAll uploads c hc)

end ProgramBindings

/-! ### The levels of what is uploaded -/

theorem level_samplerUploads (unit : UInt32) (target : TextureTarget) (texture : Option TextureId)
    {name : Name} (hname : name.level = .shared) :
    ∀ upload ∈ samplerUploads unit target texture name, upload.slot.level = .shared := by
  cases texture <;> simpa [samplerUploads, Upload.slot, Slot.level] using hname

theorem mem_inUnits {α : Type} {uploads : UInt32 → α → List Upload × UInt32} {p : Upload → Prop}
    {items : List α} (hitems : ∀ unit, ∀ a ∈ items, ∀ upload ∈ (uploads unit a).1, p upload) :
    ∀ unit, ∀ upload ∈ (inUnits uploads unit items).1, p upload := by
  induction items with
  | nil => intro unit upload hupload; exact absurd hupload List.not_mem_nil
  | cons a rest ih =>
    intro unit upload hupload
    rcases List.mem_append.mp hupload with hnow | hlater
    · exact hitems unit a List.mem_cons_self upload hnow
    · exact ih (fun unit a ha ↦ hitems unit a (List.mem_cons_of_mem _ ha)) _ upload hlater

theorem level_lightUploads (i : UInt32) (light : Light) :
    ∀ upload ∈ lightUploads i light, upload.slot.level = .shared := by
  unfold lightUploads
  cases light.shape <;> simp [Upload.slot, Slot.level, Name.level]

theorem FrameGlobals.level_slotUploads (g : FrameGlobals) (unit : UInt32) (slot : LightSlot) :
    ∀ upload ∈ (g.slotUploads unit slot).1, upload.slot.level = .shared := by
  unfold slotUploads
  split
  · exact fun upload hupload ↦ absurd hupload List.not_mem_nil
  · split
    · intro upload hupload
      rcases List.mem_append.mp hupload with hlight | hsampler
      · rcases List.mem_append.mp hlight with hlight | hmatrices
        · exact level_lightUploads _ _ upload hlight
        · simp only [List.mem_cons, List.not_mem_nil, or_false] at hmatrices
          rcases hmatrices with rfl | rfl <;> rfl
      · exact level_samplerUploads _ _ _ rfl upload hsampler
    · exact level_lightUploads _ _

theorem FrameGlobals.level_environmentMaps (g : FrameGlobals) (c : Features) :
    ∀ map ∈ g.environmentMaps c, map.2.level = .shared := by
  unfold environmentMaps
  cases c.hasLightMap <;> cases c.hasReflectionMap <;> simp [Name.level]

theorem FrameGlobals.level_clipUploads (g : FrameGlobals) (c : Features) :
    ∀ upload ∈ g.clipUploads c, upload.slot.level = .shared := by
  intro upload hupload
  obtain ⟨p, _, hp⟩ := List.mem_flatMap.mp hupload
  simp only [List.mem_cons, List.not_mem_nil, or_false] at hp
  rcases hp with rfl | rfl | rfl <;> rfl

theorem FrameGlobals.level_uploads (g : FrameGlobals) (c : Features) :
    ∀ upload ∈ (g.uploads c).1, upload.slot.level = .shared := by
  intro upload hupload
  rcases List.mem_append.mp hupload with hupload | hclips
  · rcases List.mem_append.mp hupload with hupload | hmaps
    · rcases List.mem_append.mp hupload with hframe | hslots
      · simp only [List.mem_cons, List.not_mem_nil, or_false] at hframe
        rcases hframe with rfl | rfl | rfl | rfl | rfl <;> rfl
      · exact mem_inUnits (fun unit slot _ ↦ g.level_slotUploads unit slot) _ upload hslots
    · exact mem_inUnits (fun unit map hmap ↦
        level_samplerUploads unit .cube map.1 (g.level_environmentMaps c map hmap)) _ upload hmaps
  · exact g.level_clipUploads c upload hclips

theorem Material.level_textureUploads (m : Material) (channels : List TextureChannel)
    (units : TextureUnits) :
    ∀ upload ∈ (m.textureUploads units channels).1, upload.slot.level = .shared := by
  induction channels generalizing units with
  | nil => exact fun upload hupload ↦ absurd hupload List.not_mem_nil
  | cons channel rest ih =>
    unfold textureUploads
    cases m.texture channel with
    | none => exact ih units
    | some t =>
      intro upload hupload
      rcases List.mem_append.mp hupload with hnow | hlater
      · rcases List.mem_append.mp hnow with hsampler | hmatrix
        · exact level_samplerUploads _ _ _ rfl upload hsampler
        · obtain ⟨matrix, _, rfl⟩ := List.mem_map.mp hmatrix
          rfl
      · exact ih _ upload hlater

theorem Surface.level_uploads (s : Surface) :
    ∀ upload ∈ s.uploads, upload.slot.level = .shared := by
  cases s <;> simp [Surface.uploads, Upload.slot, Slot.level, Name.level]

theorem Material.level_uploads (m : Material) (c : Features) (units : TextureUnits) :
    ∀ upload ∈ (m.uploads c units).1, upload.slot.level = .shared := by
  intro upload hupload
  rcases List.mem_append.mp hupload with hupload | htextures
  · rcases List.mem_append.mp hupload with hupload | hblends
    · rcases List.mem_append.mp hupload with hown | hsurface
      · simp only [List.mem_cons, List.not_mem_nil, or_false] at hown
        rcases hown with rfl | rfl <;> rfl
      · exact m.surface.level_uploads upload hsurface
    · obtain ⟨channel, _, hchannel⟩ := List.mem_flatMap.mp hblends
      split at hchannel
      · simp only [Fresnel.uploads, List.mem_cons, List.not_mem_nil, or_false] at hchannel
        rcases hchannel with rfl | rfl | rfl | rfl | rfl <;> rfl
      · exact absurd hchannel List.not_mem_nil
  · exact m.level_textureUploads _ _ upload htextures

theorem Transform.level_uploads (t : Transform Float32) (hasNormals : Bool) :
    ∀ upload ∈ t.uploads hasNormals, upload.slot.level = .transform := by
  cases hasNormals <;> simp [Transform.uploads, Upload.slot, Slot.level, Name.level]

/-! ### Geometries -/

namespace ProgramBindings

variable {b : ProgramBindings}

theorem setsOnly_of_mem {l : Level} {commands : List Command}
    (hcommands : ∀ c ∈ commands, ∀ r, (c.binding r).isSome →
      ∃ slot : Slot, slot.level = l ∧ slot.covers b r) : b.SetsOnly l commands := by
  intro r hset
  obtain ⟨c, hc, hbinding⟩ := exists_of_isSome_effect (Option.isSome_iff_ne_none.mpr hset)
  exact hcommands c hc r hbinding

theorem covers_bindAttribute {buffer : BufferId} {layout : AttributeLayout} {r : Register}
    (hset : ((Command.bindAttribute buffer layout).binding r).isSome) :
    (Slot.attributeSlot layout.slot).covers b r := by
  cases r with
  | attributeSlot slot => exact beq_iff_eq.mpr (Option.isSome_ite.mp hset)
  | _ => exact absurd hset nofun

theorem covers_disableAttribute {slot : UInt32} {r : Register}
    (hset : ((Command.disableAttribute slot).binding r).isSome) :
    (Slot.attributeSlot slot).covers b r := by
  cases r with
  | attributeSlot s => exact beq_iff_eq.mpr (Option.isSome_ite.mp hset)
  | _ => exact absurd hset nofun

theorem covers_bindIndexBuffer {buffer : BufferId} {r : Register}
    (hset : ((Command.bindIndexBuffer buffer).binding r).isSome) :
    Slot.indexBuffer.covers b r := by
  cases r with
  | indexBuffer => rfl
  | _ => exact absurd hset nofun

end ProgramBindings

theorem GeometryBuffers.setsOnly_bind (buffers : GeometryBuffers) (b : ProgramBindings) :
    b.SetsOnly .geometry (buffers.bind b) := by
  refine ProgramBindings.setsOnly_of_mem fun c hc r hset ↦ ?_
  rcases List.mem_append.mp hc with hc | hc
  · obtain ⟨a, _, rfl⟩ := List.mem_map.mp hc
    unfold bindAttribute at hset
    split at hset
    · exact ⟨_, rfl, ProgramBindings.covers_bindAttribute hset⟩
    · exact ⟨_, rfl, ProgramBindings.covers_disableAttribute hset⟩
  · obtain ⟨i, _, rfl⟩ := List.mem_map.mp hc
    exact ⟨_, rfl, ProgramBindings.covers_bindIndexBuffer hset⟩

theorem setsOnly_bindGeometry (b : ProgramBindings) (buffers : GeometryBuffers) :
    b.SetsOnly .geometry (bindGeometry b buffers) := by
  refine (buffers.setsOnly_bind b).append (ProgramBindings.setsOnly_uploadAll ?_)
  intro upload hupload
  rcases List.mem_append.mp hupload with hupload | hupload
  · obtain ⟨m, _, rfl⟩ := List.mem_map.mp hupload
    rfl
  · obtain ⟨m, _, rfl⟩ := List.mem_map.mp hupload
    rfl

/-- Binding a geometry only sets what draws read. -/
theorem isSetting_bindGeometry (b : ProgramBindings) (buffers : GeometryBuffers) :
    ∀ c ∈ bindGeometry b buffers, c.isSetting := by
  intro c hc
  rcases List.mem_append.mp hc with hc | hc
  · rcases List.mem_append.mp hc with hc | hc
    · obtain ⟨a, _, rfl⟩ := List.mem_map.mp hc
      unfold GeometryBuffers.bindAttribute
      split <;> rfl
    · obtain ⟨i, _, rfl⟩ := List.mem_map.mp hc
      rfl
  · exact ProgramBindings.isSetting_uploadAll _ c hc

/-- Binding a geometry draws nothing. -/
theorem isDraw_bindGeometry (b : ProgramBindings) (buffers : GeometryBuffers) :
    ∀ c ∈ bindGeometry b buffers, c.isDraw = false :=
  fun c hc ↦ Command.isDraw_of_isSetting (isSetting_bindGeometry b buffers c hc)

theorem GeometryBuffers.isDraw_draw (buffers : GeometryBuffers) : buffers.draw.isDraw := by
  unfold draw
  split <;> rfl

end SceneRenderer
