import SceneRenderer.Proofs.Frame.SharedSetup
import SceneRenderer.Proofs.Frame.TextureKinds
import SceneRenderer.Proofs.Frame.UnitCycle

/-!
Where the samplers of a draw point. The samplers of a program and those of a material are one list,
and as long as the list is no longer than the device has units, each of them has the unit of its
position in the list: what the program shares takes the first ones, and the material goes on from
there without coming round. So no two samplers have one unit, and what was bound to a unit last is
the texture of its sampler.

The main statement is `ReadyDraw.Placed.sampled`.
-/

set_option autoImplicit false
set_option relaxedAutoImplicit false

namespace SceneRenderer

open Shader

/-! ### Samplers by their units -/

theorem succ_unit (unit : UInt32) (i : Nat) :
    unit + 1 + UInt32.ofNat i = unit + UInt32.ofNat (i + 1) := by
  rw [Nat.add_comm i, UInt32.ofNat_add, ← UInt32.add_assoc]
  rfl

theorem mem_samplersFrom {upload : Upload} {unit : UInt32} {samplers : List SamplerUse} :
    upload ∈ samplersFrom unit samplers ↔
      ∃ (i : Nat) (s : SamplerUse), samplers[i]? = some s ∧
        upload ∈ s.uploads (unit + UInt32.ofNat i) := by
  induction samplers generalizing unit with
  | nil => simp [samplersFrom]
  | cons first rest ih =>
    rw [samplersFrom, List.mem_append, ih]
    constructor
    · rintro (hfirst | ⟨i, s, hs, hupload⟩)
      · exact ⟨0, first, rfl, by simpa using hfirst⟩
      · exact ⟨i + 1, s, hs, succ_unit unit i ▸ hupload⟩
    · rintro ⟨_ | i, s, hs, hupload⟩
      · cases hs
        exact .inl (by simpa using hupload)
      · exact .inr ⟨i, s, hs, (succ_unit unit i).symm ▸ hupload⟩

theorem SamplerUse.mem_uploads_uniform {s : SamplerUse} {unit : UInt32} {n : Name}
    {value : UniformValue} :
    Upload.uniform n value ∈ s.uploads unit ↔ n = s.name ∧ value = .sampler unit := by
  unfold uploads samplerUploads
  cases s.texture <;> simp

namespace ProgramBindings

variable {b : ProgramBindings}

theorem effect_uploadAll_append (front back : List Upload) (r : Register) :
    effect (b.uploadAll (front ++ back)) r =
      (effect (b.uploadAll back) r).or (effect (b.uploadAll front) r) := by
  rw [uploadAll, List.flatMap_append]
  exact effect_append _ _ _

/-- Setting a uniform binds no texture. -/
theorem effect_uniform_unit (n : Name) (value : UniformValue) (unit : UInt32) :
    effect (b.uploadAll [.uniform n value]) (.unit unit) = none := by
  rw [← Option.not_isSome_iff_eq_none, isSome_effect_uploadAll]
  exact Bool.false_ne_true

/-- Only what concerns units binds textures to them. -/
theorem effect_onUnits (uploads : List Upload) (unit : UInt32) :
    effect (b.uploadAll (onUnits uploads)) (.unit unit) =
      effect (b.uploadAll uploads) (.unit unit) := by
  induction uploads with
  | nil => rfl
  | cons upload rest ih =>
    rw [onUnits_cons]
    split
    · rename_i hplain
      cases upload with
      | texture => cases hplain
      | uniform n value =>
        rw [ih, ← List.singleton_append, effect_uploadAll_append,
          effect_uniform_unit, Option.or_none]
    · rw [← List.singleton_append, ← List.singleton_append (l := rest), effect_uploadAll_append,
        effect_uploadAll_append, ih]

/-- Units that no sampler has are left alone. -/
theorem effect_samplersFrom_eq_none {unit u : UInt32} {samplers : List SamplerUse}
    (hother : ∀ i, i < samplers.length → u ≠ unit + UInt32.ofNat i) :
    effect (b.uploadAll (samplersFrom unit samplers)) (.unit u) = none := by
  rw [← Option.not_isSome_iff_eq_none, isSome_effect_uploadAll, List.any_map]
  simp only [Bool.not_eq_true, List.any_eq_false]
  intro upload hupload
  obtain ⟨i, s, hs, hmem⟩ := mem_samplersFrom.mp hupload
  have hunit := hother i (List.getElem?_eq_some_iff.mp hs).1
  obtain ⟨name, target, texture⟩ := s
  cases texture with
  | none =>
    rw [List.mem_singleton.mp hmem]
    rfl
  | some t =>
    rcases List.mem_pair.mp hmem with rfl | rfl
    · exact beq_false_of_ne hunit
    · rfl

/-- The unit of a sampler holds its texture. -/
theorem effect_samplersFrom {unit : UInt32} {samplers : List SamplerUse} {i : Nat} {s : SamplerUse}
    {t : TextureId} (hs : samplers[i]? = some s) (ht : s.texture = some t)
    (hroom : samplers.length ≤ UInt32.size) :
    effect (b.uploadAll (samplersFrom unit samplers)) (.unit (unit + UInt32.ofNat i)) =
      some (.texture s.target t) := by
  induction samplers generalizing unit i with
  | nil => cases hs
  | cons first rest ih =>
    rw [List.length_cons] at hroom
    have hsplit (r : Register) : effect (b.uploadAll (samplersFrom unit (first :: rest))) r =
        (effect (b.uploadAll (samplersFrom (unit + 1) rest)) r).or
          (effect (b.uploadAll (first.uploads unit)) r) := by
      rw [samplersFrom, effect_uploadAll_append]
    cases i with
    | zero =>
      obtain rfl : first = s := Option.some.inj hs
      have hlater : effect (b.uploadAll (samplersFrom (unit + 1) rest))
          (.unit (unit + UInt32.ofNat 0)) = none := by
        refine effect_samplersFrom_eq_none fun j hj heq ↦ ?_
        rw [succ_unit, UInt32.add_right_inj] at heq
        have hzero := congrArg UInt32.toNat heq
        rw [UInt32.toNat_ofNat_of_lt' (by decide), UInt32.toNat_ofNat_of_lt' (by omega)] at hzero
        cases hzero
      obtain ⟨name, target, texture⟩ := first
      obtain rfl : texture = some t := ht
      rw [hsplit, hlater, Option.none_or]
      show effect (b.uploadAll ([.texture unit target t] ++ [.uniform name (.sampler unit)]))
        (.unit (unit + 0)) = _
      rw [effect_uploadAll_append, effect_uniform_unit, Option.none_or, UInt32.add_zero]
      exact if_pos rfl
    | succ j =>
      rw [hsplit, ← succ_unit, ih (i := j) hs (by omega), Option.some_or]

end ProgramBindings

/-! ### Units of materials -/

namespace TextureUnits

theorem base_new {base limit : UInt32} (hbase : base < limit) :
    (new base limit).base = base ∧ (new base limit).span.toNat = limit.toNat - base.toNat := by
  have hone : max limit 1 = limit := by
    show (if limit ≤ 1 then 1 else limit) = limit
    split <;> grind
  have hpred : (limit - 1).toNat = limit.toNat - 1 := UInt32.toNat_sub_of_le _ _ (by grind)
  have hmin : min base (limit - 1) = base := by
    show (if base ≤ limit - 1 then base else limit - 1) = base
    rw [if_pos]
    rw [UInt32.lt_iff_toNat_lt] at hbase
    rw [UInt32.le_iff_toNat_le]
    omega
  have hown : (new base limit).base = base := by
    show min base (max limit 1 - 1) = base
    rw [hone, hmin]
  refine ⟨hown, ?_⟩
  rw [toNat_span, hown]
  exact congrArg (·.toNat - base.toNat) hone

end TextureUnits

namespace Material

variable (m : Material)

/-- As long as there is room, a material takes its units in turn. -/
theorem onUnits_textureUploads {units : TextureUnits} {channels : List TextureChannel}
    (hroom : units.handed.toNat + (m.samplers channels).length ≤ units.span.toNat) :
    onUnits (m.textureUploads units channels).1 =
      samplersFrom (units.base + units.handed) (m.samplers channels) := by
  induction channels generalizing units with
  | nil => rfl
  | cons channel rest ih =>
    unfold samplers at hroom ih ⊢
    unfold textureUploads
    cases htexture : m.texture channel with
    | none =>
      simp only [List.filterMap_cons, htexture, Option.map_none] at hroom ⊢
      exact ih hroom
    | some t =>
      simp only [List.filterMap_cons, htexture, Option.map_some, List.length_cons] at hroom ⊢
      have hfull : units.handed.toNat < units.span.toNat := by omega
      have hunit : units.next.1 = units.base + units.handed := by
        show units.base + units.handed % units.span = _
        rw [UInt32.mod_eq_of_lt (UInt32.lt_iff_toNat_lt.mpr hfull)]
      have hhanded : (units.handed + 1).toNat = units.handed.toNat + 1 := by
        rw [UInt32.toNat_add]
        exact Nat.mod_eq_of_lt (Nat.lt_of_le_of_lt hfull units.span.toNat_lt)
      have hmatrix : onUnits (t.matrix.toList.map fun matrix ↦
          Upload.uniform (.textureMatrix channel) (.mat4 matrix)) = [] :=
        onUnits_eq_nil (by cases t.matrix <;> simp [Upload.isPlain])
      have hnext : units.next.2.handed.toNat + (m.samplers rest).length ≤
          units.next.2.span.toNat := by
        show (units.handed + 1).toNat + _ ≤ units.span.toNat
        unfold samplers
        omega
      have hlater := ih hnext
      rw [onUnits_append, onUnits_append, onUnits_samplerUploads, hmatrix, List.append_nil, hlater,
        hunit, samplersFrom]
      show _ ++ samplersFrom (units.base + (units.handed + 1)) _ = _
      rw [← UInt32.add_assoc]
      rfl

/-- Besides its textures, a material uploads nothing that concerns units. -/
theorem onUnits_uploads (c : Features) (units : TextureUnits) :
    onUnits (m.uploads c units).1 =
      onUnits (m.textureUploads units.reset (c.sampledTextures.map (·.1))).1 := by
  have hplain := m.isPlain_values c
  rw [uploads_fst, onUnits_append, onUnits_eq_nil hplain, List.nil_append]

theorem length_samplers_le (channels : List TextureChannel) :
    (m.samplers channels).length ≤ channels.length :=
  List.length_filterMap_le _ _

theorem samples_samplers (channels : List TextureChannel) :
    ∀ s ∈ m.samplers channels, s.name.Samples s.target := by
  intro s hs
  obtain ⟨channel, _, hchannel⟩ := List.mem_filterMap.mp hs
  obtain ⟨t, _, rfl⟩ := Option.map_eq_some_iff.mp hchannel
  exact samples_textureMap channel

end Material

/-! ### A draw -/

namespace ReadyDraw

variable {maxTextureUnits : UInt32} {g : FrameGlobals} {d : ReadyDraw} {state : GpuState}

variable (g) in
/-- The samplers of a draw: those of the program, and then those of the material. -/
def samplers (d : ReadyDraw) : List SamplerUse :=
  g.samplers d.features ++ d.material.samplers (d.features.sampledTextures.map (·.1))

theorem samples_samplers : ∀ s ∈ d.samplers g, s.name.Samples s.target :=
  List.forall_mem_append.mpr ⟨g.samples_samplers _, d.material.samples_samplers _⟩

variable (maxTextureUnits g) in
/-- What the program and the material of a draw upload. -/
def sharedUploads (d : ReadyDraw) : List Upload :=
  (g.uploads d.features).1 ++ (d.material.uploads d.features (d.units maxTextureUnits g)).1

/-- Samplers that fit have the units of their positions. -/
theorem onUnits_sharedUploads (hroom : (d.samplers g).length ≤ maxTextureUnits.toNat) :
    onUnits (d.sharedUploads maxTextureUnits g) = samplersFrom 0 (d.samplers g) := by
  obtain ⟨hshared, hbase⟩ := g.onUnits_uploads d.features
  unfold samplers at hroom ⊢
  rw [List.length_append] at hroom
  have hsize : maxTextureUnits.toNat < UInt32.size := maxTextureUnits.toNat_lt
  rw [sharedUploads, onUnits_append, hshared, Material.onUnits_uploads, samplersFrom_append,
    UInt32.zero_add]
  congr 1
  -- Without textures nothing is said of the first unit, which may lie behind the last one.
  cases hnone : d.material.samplers (d.features.sampledTextures.map (·.1)) with
  | nil =>
    rw [d.material.onUnits_textureUploads (by rw [hnone]; exact Nat.zero_le _), hnone]
    rfl
  | cons first rest =>
    rw [hnone, List.length_cons] at hroom
    have hlt : (g.uploads d.features).2 < maxTextureUnits := by
      rw [hbase, UInt32.lt_iff_toNat_lt, UInt32.toNat_ofNat_of_lt' (by omega)]
      omega
    obtain ⟨hfirst, hspan⟩ := TextureUnits.base_new hlt
    rw [d.material.onUnits_textureUploads, hnone]
    · congr 1
      show (d.units maxTextureUnits g).base + 0 = _
      rw [UInt32.add_zero]
      exact hfirst.trans hbase
    · show 0 + _ ≤ (d.units maxTextureUnits g).span.toNat
      rw [hnone, show (d.units maxTextureUnits g).span.toNat = _ from hspan, hbase,
        UInt32.toNat_ofNat_of_lt' (by omega), List.length_cons]
      omega

theorem bindShared_eq : d.bindProgram g ++ d.bindMaterial maxTextureUnits g =
    .useProgram d.program.id ::
      d.program.bindings.uploadAll (d.sharedUploads maxTextureUnits g) := by
  rw [ProgramBindings.uploadAll, sharedUploads, List.flatMap_append]
  rfl

/-- A draw whose program is in place uses it. -/
theorem Placed.program (hplaced : d.Placed maxTextureUnits g state) :
    state .program = some (.program d.program.id) := by
  unfold Placed at hplaced
  rw [bindShared_eq] at hplaced
  exact GpuState.program_of_after hplaced

theorem isTyped_sharedUploads : ∀ upload ∈ d.sharedUploads maxTextureUnits g, upload.IsTyped :=
  List.forall_mem_append.mpr ⟨g.isTyped_uploads _, d.material.isTyped_uploads _ _⟩

/-- The only values of samplers are units. -/
theorem eq_sampler_of_isTyped {n : Name} {target : TextureTarget} (hn : n.Samples target)
    {value : UniformValue} (htyped : (Upload.uniform n value).IsTyped) :
    ∃ unit, value = .sampler unit := by
  obtain ⟨type, htype, htarget⟩ := hn
  obtain ⟨type', htype', hvalue⟩ := htyped
  rw [htype] at htype'
  cases htype'
  have hsampler : type = .sampler2D ∨ type = .samplerCube := by
    cases type with
    | sampler2D => exact .inl rfl
    | samplerCube => exact .inr rfl
    | _ => cases htarget
  rcases hsampler with rfl | rfl <;> cases value with
    | sampler unit => exact ⟨unit, rfl⟩
    | _ => exact absurd hvalue Bool.false_ne_true

/-- Where the program and the material of a draw are in place and its samplers fit, each sampler
points at the unit of its position, and its texture is what was bound there last. -/
theorem Placed.sampled (hplaced : d.Placed maxTextureUnits g state)
    (hdistinct : d.program.bindings.Distinct)
    (hroom : (d.samplers g).length ≤ maxTextureUnits.toNat) {n : Name}
    (hn : ∃ s ∈ d.samplers g, s.name = n) {location : UniformLocation}
    (hlocation : d.program.bindings.uniform? n.text = some location) :
    ∃ i s, (d.samplers g)[i]? = some s ∧ s.name = n ∧
      state (.uniform location) = some (.value (.sampler (UInt32.ofNat i))) ∧
      ∀ t, s.texture = some t → state (.unit (UInt32.ofNat i)) = some (.texture s.target t) := by
  have hsize : maxTextureUnits.toNat < UInt32.size := maxTextureUnits.toNat_lt
  have hunits := onUnits_sharedUploads hroom
  unfold Placed at hplaced
  rw [bindShared_eq, ← List.singleton_append] at hplaced
  obtain ⟨given, hgiven, hname⟩ := hn
  obtain ⟨j, hj⟩ := List.mem_iff_getElem?.mp hgiven
  have hamong {value : UniformValue}
      (hvalue : Upload.uniform n value ∈ samplersFrom 0 (d.samplers g)) :
      Upload.uniform n value ∈ d.sharedUploads maxTextureUnits g :=
    List.mem_of_mem_filter (hunits ▸ hvalue)
  have huploaded : Upload.uniform n (.sampler (0 + UInt32.ofNat j)) ∈
      d.sharedUploads maxTextureUnits g :=
    hamong
      (mem_samplersFrom.mpr ⟨j, given, hj, SamplerUse.mem_uploads_uniform.mpr ⟨hname.symm, rfl⟩⟩)
  obtain ⟨value, hvalue, hstate⟩ :=
    hdistinct.holds_of_after [.useProgram d.program.id] hplaced n _ location huploaded hlocation
  obtain ⟨unit, rfl⟩ := eq_sampler_of_isTyped (hname ▸ samples_samplers given hgiven)
    (isTyped_sharedUploads _ hvalue)
  have hmem : Upload.uniform n (.sampler unit) ∈ samplersFrom 0 (d.samplers g) :=
    hunits ▸ List.mem_filter.mpr ⟨hvalue, rfl⟩
  obtain ⟨i, s, hs, hsampler⟩ := mem_samplersFrom.mp hmem
  obtain ⟨rfl, hunit⟩ := SamplerUse.mem_uploads_uniform.mp hsampler
  rw [UInt32.zero_add] at hunit
  cases hunit
  refine ⟨i, s, hs, rfl, hstate, fun t ht ↦ GpuState.eq_of_after_eq_self hplaced ?_⟩
  rw [effect_append, ← ProgramBindings.effect_onUnits, hunits]
  have heffect : effect (d.program.bindings.uploadAll (samplersFrom 0 (d.samplers g)))
      (.unit (0 + UInt32.ofNat i)) = some (.texture s.target t) :=
    ProgramBindings.effect_samplersFrom hs ht (by omega)
  rw [UInt32.zero_add] at heffect
  rw [heffect, Option.some_or]

end ReadyDraw

end SceneRenderer
