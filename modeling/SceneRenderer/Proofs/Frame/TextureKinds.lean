import Mathlib.Algebra.GroupWithZero.Nat
import Mathlib.Logic.Function.Basic
import SceneRenderer.Proofs.Frame.MaterialShape
import SceneRenderer.Proofs.Frame.UploadTypes

/-!
The units of samplers, and the kinds of the textures on them. What a program shares with others
takes units in turn, from the first one on; what a material adds takes those that are left. Among
the uploads only textures and samplers concern units, and these are listed here: a sampler under its
unit, behind the texture that it stands for.

No sampler is pointed at a unit on which there is a texture of another kind: what a program shares
with others takes units that nothing was bound to, and a material binds its textures right before it
points samplers at them.
-/

set_option autoImplicit false
set_option relaxedAutoImplicit false

namespace SceneRenderer

open Shader

/-- A sampler of a program, and the texture that it stands for if there is one. -/
structure SamplerUse where
  name : Name
  target : TextureTarget
  texture : Option TextureId

namespace SamplerUse

def uploads (s : SamplerUse) (unit : UInt32) : List Upload :=
  samplerUploads unit s.target s.texture s.name

end SamplerUse

/-- What samplers upload that take units in turn from the given one on. -/
def samplersFrom (unit : UInt32) : List SamplerUse → List Upload
  | [] => []
  | s :: rest => s.uploads unit ++ samplersFrom (unit + 1) rest

theorem samplersFrom_append (unit : UInt32) (front back : List SamplerUse) :
    samplersFrom unit (front ++ back) =
      samplersFrom unit front ++ samplersFrom (unit + UInt32.ofNat front.length) back := by
  induction front generalizing unit with
  | nil => simp [samplersFrom]
  | cons s rest ih =>
    rw [List.cons_append, samplersFrom, samplersFrom, ih, List.append_assoc, List.length_cons,
      Nat.add_comm rest.length, UInt32.ofNat_add, ← UInt32.add_assoc]
    rfl

/-! ### Uploads that concern units -/

/-- The textures and samplers among uploads. -/
def onUnits (uploads : List Upload) : List Upload := uploads.filter (!·.isPlain)

@[simp]
theorem onUnits_append (front back : List Upload) :
    onUnits (front ++ back) = onUnits front ++ onUnits back :=
  List.filter_append ..

theorem onUnits_cons (upload : Upload) (rest : List Upload) :
    onUnits (upload :: rest) =
      if upload.isPlain then onUnits rest else upload :: onUnits rest := by
  cases hplain : upload.isPlain <;> simp [onUnits, hplain]

theorem onUnits_eq_nil {uploads : List Upload} (hplain : ∀ upload ∈ uploads, upload.isPlain) :
    onUnits uploads = [] := by
  refine List.filter_eq_nil_iff.mpr fun upload hupload ↦ ?_
  simp [hplain upload hupload]

@[simp]
theorem onUnits_samplerUploads (unit : UInt32) (target : TextureTarget)
    (texture : Option TextureId) (name : Name) :
    onUnits (samplerUploads unit target texture name) =
        samplerUploads unit target texture name := by
  cases texture <;> rfl

/-- Items that take a unit each for their sampler, if they have one. -/
theorem onUnits_inUnits {α : Type} (uploads : UInt32 → α → List Upload × UInt32)
    (sampler? : α → Option SamplerUse)
    (hitem : ∀ unit a, onUnits (uploads unit a).1 = samplersFrom unit (sampler? a).toList ∧
      (uploads unit a).2 = unit + UInt32.ofNat (sampler? a).toList.length)
    (items : List α) (unit : UInt32) :
    onUnits (inUnits uploads unit items).1 = samplersFrom unit (items.filterMap sampler?) ∧
      (inUnits uploads unit items).2 =
        unit + UInt32.ofNat (items.filterMap sampler?).length := by
  induction items generalizing unit with
  | nil => exact ⟨rfl, by simp [inUnits]⟩
  | cons a rest ih =>
    obtain ⟨hnow, hunit⟩ := hitem unit a
    obtain ⟨hlater, hlast⟩ := ih (uploads unit a).2
    have hsplit : (a :: rest).filterMap sampler? =
        (sampler? a).toList ++ rest.filterMap sampler? := by
      cases hsampler : sampler? a <;> simp [hsampler]
    rw [hsplit, samplersFrom_append, List.length_append, UInt32.ofNat_add, ← UInt32.add_assoc,
      ← hunit]
    exact ⟨(onUnits_append _ _).trans (by rw [hnow, hlater]), hlast⟩

/-! ### What programs share -/

theorem isPlain_lightUploads (i : UInt32) (light : Light) :
    ∀ upload ∈ lightUploads i light, upload.isPlain := by
  unfold lightUploads
  cases light.shape <;> simp [Upload.isPlain]

namespace FrameGlobals

variable (g : FrameGlobals) (c : Features)

/-- The shadow map that a slot reads. -/
def slotSampler? (slot : LightSlot) : Option SamplerUse :=
  if (g.lights[slot.index.toNat]?).isSome && slot.castsShadow then
    some ⟨.shadowMap slot.index, .plane, g.shadowMap? slot.index⟩
  else none

/-- The samplers of what a program shares, in the order of their units. -/
def samplers : List SamplerUse :=
  c.lightSlots.filterMap g.slotSampler? ++
    (g.environmentMaps c).map fun map ↦ ⟨map.2, .cube, map.1⟩

theorem onUnits_slotUploads (unit : UInt32) (slot : LightSlot) :
    onUnits (g.slotUploads unit slot).1 = samplersFrom unit (g.slotSampler? slot).toList ∧
      (g.slotUploads unit slot).2 = unit + UInt32.ofNat (g.slotSampler? slot).toList.length := by
  unfold slotUploads slotSampler?
  cases g.lights[slot.index.toNat]? with
  | none => simp [onUnits, samplersFrom]
  | some light =>
    cases slot.castsShadow with
    | false => simp [onUnits_eq_nil (isPlain_lightUploads _ _), samplersFrom]
    | true =>
      simp [onUnits_eq_nil (isPlain_lightUploads _ _), onUnits_cons, Upload.isPlain, samplersFrom,
        SamplerUse.uploads]

/-- What a program shares takes the first units. -/
theorem onUnits_uploads :
    onUnits (g.uploads c).1 = samplersFrom 0 (g.samplers c) ∧
      (g.uploads c).2 = UInt32.ofNat (g.samplers c).length := by
  obtain ⟨hslots, hunit⟩ := onUnits_inUnits _ _ g.onUnits_slotUploads c.lightSlots 0
  obtain ⟨hmaps, hlast⟩ := onUnits_inUnits
    (fun unit map ↦ (samplerUploads unit .cube map.1 map.2, unit + 1))
    (fun map : Option TextureId × Name ↦ some ⟨map.2, .cube, map.1⟩)
    (fun unit map ↦ ⟨by simp [samplersFrom, SamplerUse.uploads], rfl⟩) (g.environmentMaps c)
    (inUnits g.slotUploads 0 c.lightSlots).2
  have hclips : onUnits (g.clipUploads c) = [] := by
    refine onUnits_eq_nil (List.forall_mem_flatMap.mpr fun p _ ↦ ?_)
    simp [Upload.isPlain]
  have hall : (g.environmentMaps c).filterMap (fun map ↦
      some (⟨map.2, .cube, map.1⟩ : SamplerUse)) =
        (g.environmentMaps c).map fun map ↦ ⟨map.2, .cube, map.1⟩ :=
    congrFun List.filterMap_eq_map _
  rw [hall] at hmaps hlast
  unfold uploads samplers
  dsimp only
  constructor
  · rw [onUnits_append, onUnits_append, onUnits_append, hslots, hmaps, hclips, hunit,
      samplersFrom_append, List.append_nil]
    rfl
  · rw [hlast, hunit, List.length_append, UInt32.ofNat_add, UInt32.zero_add]

end FrameGlobals

/-! ### Materials -/

namespace Material

variable (m : Material)

/-- The samplers of the textures on some channels. -/
def samplers (channels : List TextureChannel) : List SamplerUse :=
  channels.filterMap fun channel ↦ (m.texture channel).map fun t ↦
    ⟨.textureMap channel, .plane, some t.texture⟩

end Material

/-! ### The kinds of textures on units -/

/-- What a command leaves on each unit, as far as its kind goes. -/
abbrev UnitKinds := UInt32 → Option TextureTarget

namespace Upload

/-- The kinds on units after an upload. -/
def bindKind (k : UnitKinds) : Upload → UnitKinds
  | texture unit target _ => Function.update k unit (some target)
  | uniform .. => k

/-- A sampler finds no texture of another kind on its unit. -/
def FindsKind (k : UnitKinds) : Upload → Prop
  | uniform name (.sampler unit) => ∀ target, k unit = some target → name.Samples target
  | _ => True

end Upload

/-- Samplers find no textures of other kinds, each after the uploads before it. -/
def FindKinds (k : UnitKinds) : List Upload → Prop
  | [] => True
  | upload :: rest => upload.FindsKind k ∧ FindKinds (upload.bindKind k) rest

theorem findKinds_append (k : UnitKinds) (front back : List Upload) :
    FindKinds k (front ++ back) ↔
      FindKinds k front ∧ FindKinds (front.foldl Upload.bindKind k) back := by
  induction front generalizing k with
  | nil => exact (iff_of_eq (true_and _)).symm
  | cons upload rest ih => exact (and_congr_right fun _ ↦ ih _).trans and_assoc.symm

/-- Only what concerns units matters. -/
theorem findKinds_of_onUnits {k : UnitKinds} {uploads : List Upload}
    (hkinds : FindKinds k (onUnits uploads)) : FindKinds k uploads := by
  induction uploads generalizing k with
  | nil => exact trivial
  | cons upload rest ih =>
    by_cases hplain : upload.isPlain
    · have hrest : onUnits (upload :: rest) = onUnits rest := by rw [onUnits_cons, if_pos hplain]
      rw [hrest] at hkinds
      cases upload with
      | texture unit target texture => exact absurd hplain nofun
      | uniform name value =>
        refine ⟨?_, ih hkinds⟩
        cases value with
        | sampler unit => exact absurd hplain nofun
        | _ => exact trivial
    · have hrest : onUnits (upload :: rest) = upload :: onUnits rest := by
        rw [onUnits_cons, if_neg hplain]
      rw [hrest] at hkinds
      exact ⟨hkinds.1, ih hkinds.2⟩

theorem findKinds_of_plain {uploads : List Upload} (hplain : ∀ upload ∈ uploads, upload.isPlain)
    (k : UnitKinds) : FindKinds k uploads :=
  findKinds_of_onUnits (by rw [onUnits_eq_nil hplain]; exact trivial)

/-- A sampler with a texture finds that texture. -/
theorem findKinds_uploads {k : UnitKinds} {s : SamplerUse} (hs : s.name.Samples s.target)
    {unit : UInt32} (hfree : s.texture = none → k unit = none) : FindKinds k (s.uploads unit) := by
  obtain ⟨name, target, texture⟩ := s
  cases texture with
  | none =>
    refine ⟨fun target' hkind ↦ ?_, trivial⟩
    rw [hfree rfl] at hkind
    exact absurd hkind nofun
  | some t =>
    refine ⟨trivial, fun target' hkind ↦ ?_, trivial⟩
    have hown : Function.update k unit (some target) unit = some target' := hkind
    rw [Function.update_self, Option.some_inj] at hown
    rwa [← hown]

/-- Samplers that take free units in turn. -/
theorem findKinds_samplersFrom {samplers : List SamplerUse}
    (hsamplers : ∀ s ∈ samplers, s.name.Samples s.target) {k : UnitKinds} {unit : UInt32}
    (hfree : ∀ u, unit.toNat ≤ u.toNat → k u = none)
    (hroom : unit.toNat + samplers.length < 2 ^ 32) : FindKinds k (samplersFrom unit samplers) := by
  induction samplers generalizing k unit with
  | nil => exact trivial
  | cons s rest ih =>
    rw [List.length_cons] at hroom
    have hnext : (unit + 1).toNat = unit.toNat + 1 := by
      rw [UInt32.toNat_add]
      exact Nat.mod_eq_of_lt (by change unit.toNat + 1 < 2 ^ 32; omega)
    refine (findKinds_append _ _ _).mpr ⟨findKinds_uploads (hsamplers s List.mem_cons_self)
      fun _ ↦ hfree unit (Nat.le_refl _), ?_⟩
    refine ih (fun s hs ↦ hsamplers s (List.mem_cons_of_mem _ hs)) (fun u hu ↦ ?_) (by omega)
    have hne : u ≠ unit := by
      rintro rfl
      omega
    have hbefore : k u = none := hfree u (by omega)
    obtain ⟨name, target, texture⟩ := s
    cases texture with
    | none => exact hbefore
    | some t => exact (Function.update_of_ne hne _ _).trans hbefore

namespace FrameGlobals

variable (g : FrameGlobals) (c : Features)

theorem samples_samplers : ∀ s ∈ g.samplers c, s.name.Samples s.target := by
  refine List.forall_mem_append.mpr ⟨fun s hs ↦ ?_, fun s hs ↦ ?_⟩
  · obtain ⟨slot, _, hslot⟩ := List.mem_filterMap.mp hs
    unfold slotSampler? at hslot
    obtain ⟨_, hs⟩ := Option.ite_none_right_eq_some.mp hslot
    cases hs
    exact samples_shadowMap _
  · obtain ⟨map, hmap, rfl⟩ := List.mem_map.mp hs
    exact g.samples_environmentMaps c map hmap

theorem length_samplers_le : (g.samplers c).length ≤ c.lightSlots.length + 2 := by
  have hmaps : (g.environmentMaps c).length ≤ 2 := by
    unfold environmentMaps
    cases c.hasLightMap <;> cases c.hasReflectionMap <;> simp
  rw [samplers, List.length_append, List.length_map]
  exact Nat.add_le_add (List.length_filterMap_le _ _) hmaps

theorem findKinds_uploads (hslots : c.lightSlots.length + 2 < 2 ^ 32) {k : UnitKinds}
    (hfree : ∀ u, k u = none) : FindKinds k (g.uploads c).1 := by
  refine findKinds_of_onUnits ?_
  rw [(g.onUnits_uploads c).1]
  refine findKinds_samplersFrom (g.samples_samplers c) (fun u _ ↦ hfree u) ?_
  rw [UInt32.toNat_zero, Nat.zero_add]
  exact Nat.lt_of_le_of_lt (g.length_samplers_le c) hslots

end FrameGlobals

namespace Material

/-- A material binds its own textures, whatever is on their units. -/
theorem findKinds_textureUploads (m : Material) (channels : List TextureChannel)
    (units : TextureUnits) (k : UnitKinds) :
    FindKinds k (m.textureUploads units channels).1 := by
  induction channels generalizing units k with
  | nil => exact trivial
  | cons channel rest ih =>
    unfold textureUploads
    cases m.texture channel with
    | none => exact ih units k
    | some t =>
      refine (findKinds_append _ _ _).mpr ⟨(findKinds_append _ _ _).mpr ⟨?_, ?_⟩, ih _ _⟩
      · exact SceneRenderer.findKinds_uploads (s := ⟨.textureMap channel, .plane, some t.texture⟩)
          (samples_textureMap channel) (by simp)
      · exact findKinds_of_plain (by cases t.matrix <;> simp [Upload.isPlain]) _

/-- Besides its textures, a material uploads nothing that concerns units. -/
theorem isPlain_values (m : Material) (c : Features) :
    ∀ upload ∈ [.uniform .materialAlphaModeCutoff
          (.vec4 (Reflectance.alphaModeCutoff m.alphaMode m.alphaCutoff)),
        .uniform .pointSize (.float m.pointSize)] ++ m.surface.uploads ++
        c.fresnel.toList.flatMap m.blendUploads, upload.isPlain := by
  simp only [List.forall_mem_append]
  refine ⟨⟨by simp [Upload.isPlain], ?_⟩, List.forall_mem_flatMap.mpr fun channel _ ↦ ?_⟩
  · cases m.surface <;> simp [Surface.uploads, Upload.isPlain]
  · unfold blendUploads
    split <;> simp [Fresnel.uploads, Upload.isPlain]

theorem findKinds_uploads (m : Material) (c : Features) (units : TextureUnits) (k : UnitKinds) :
    FindKinds k (m.uploads c units).1 :=
  (findKinds_append _ _ _).mpr
    ⟨findKinds_of_plain (m.isPlain_values c) k, m.findKinds_textureUploads _ _ _⟩

end Material

theorem Transform.findKinds_uploads (t : Transform Float32) (hasNormals : Bool) (k : UnitKinds) :
    FindKinds k (t.uploads hasNormals) := by
  refine findKinds_of_plain ?_ k
  unfold Transform.uploads
  cases hasNormals <;> simp [Upload.isPlain]

end SceneRenderer
