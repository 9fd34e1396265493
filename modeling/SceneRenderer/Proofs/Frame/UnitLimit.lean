import SceneRenderer.Proofs.Frame.SamplerPlaces
import SceneRenderer.Proofs.Program.BuiltPrograms
import SceneRenderer.Proofs.Renderer.MainPass

/-!
The units of a pass and the number of units of the device. A material stays below this number
whatever it is given, since it comes round. What a program shares is counted up without coming
round, so the pass stays below the number as long as no program that it draws with shares more
samplers than there are units.

The main statement is `DrawRenderer.render_unit_lt`; `DrawRenderer.exists_unit_beyond_limit` shows
that its hypothesis is needed.
-/

set_option autoImplicit false
set_option relaxedAutoImplicit false

namespace SceneRenderer

open Shader

/-! ### Units of commands -/

/-- The unit that a command binds a texture to or points a sampler at. -/
def Command.unit? : Command → Option UInt32
  | .bindTexture unit _ _ => some unit
  | .setUniform _ (.sampler unit) => some unit
  | _ => none

/-- The unit that an upload is about. -/
def Upload.unit? : Upload → Option UInt32
  | texture unit _ _ => some unit
  | uniform _ (.sampler unit) => some unit
  | _ => none

theorem Upload.unit?_of_isPlain {upload : Upload} (hplain : upload.isPlain) :
    upload.unit? = none := by
  cases upload with
  | texture => cases hplain
  | uniform n value =>
    cases value with
    | sampler => cases hplain
    | _ => rfl

namespace ProgramBindings

variable {b : ProgramBindings} {uploads : List Upload}

/-- A program adds no units to those of its uploads. -/
theorem unit_of_uploadAll {unit : UInt32}
    (hunit : unit ∈ (b.uploadAll uploads).filterMap Command.unit?) :
    unit ∈ uploads.filterMap Upload.unit? := by
  obtain ⟨c, hc, hunit⟩ := List.mem_filterMap.mp hunit
  obtain ⟨upload, hupload, hc⟩ := List.mem_flatMap.mp hc
  refine List.mem_filterMap.mpr ⟨upload, hupload, ?_⟩
  cases upload with
  | texture =>
    obtain rfl := List.mem_singleton.mp hc
    exact hunit
  | uniform n value =>
    change c ∈ b.set n.text value at hc
    unfold set at hc
    split at hc
    · obtain rfl := List.mem_singleton.mp hc
      cases value <;> exact hunit
    · cases hc

theorem units_uploadAll_of_isPlain (hplain : ∀ upload ∈ uploads, upload.isPlain) :
    (b.uploadAll uploads).filterMap Command.unit? = [] := by
  refine List.eq_nil_iff_forall_not_mem.mpr fun unit hunit ↦ ?_
  obtain ⟨upload, hupload, hunit⟩ := List.mem_filterMap.mp (unit_of_uploadAll hunit)
  rw [Upload.unit?_of_isPlain (hplain upload hupload)] at hunit
  cases hunit

end ProgramBindings

theorem units_onUnits (uploads : List Upload) :
    (onUnits uploads).filterMap Upload.unit? = uploads.filterMap Upload.unit? := by
  induction uploads with
  | nil => rfl
  | cons upload rest ih =>
    rw [onUnits_cons]
    split
    · rename_i hplain
      rw [ih, List.filterMap_cons_none (Upload.unit?_of_isPlain hplain)]
    · rw [List.filterMap_cons, List.filterMap_cons, ih]

theorem units_samplerUploads {unit u : UInt32} {target : TextureTarget}
    {texture : Option TextureId} {n : Name} :
    u ∈ (samplerUploads unit target texture n).filterMap Upload.unit? ↔ u = unit := by
  unfold samplerUploads
  cases texture <;> simp [Upload.unit?]

theorem units_samplersFrom {unit u : UInt32} {samplers : List SamplerUse} :
    u ∈ (samplersFrom unit samplers).filterMap Upload.unit? ↔
      ∃ i < samplers.length, u = unit + UInt32.ofNat i := by
  constructor
  · intro hu
    obtain ⟨upload, hupload, hu⟩ := List.mem_filterMap.mp hu
    obtain ⟨i, s, hs, hupload⟩ := mem_samplersFrom.mp hupload
    exact ⟨i, (List.getElem?_eq_some_iff.mp hs).1,
      units_samplerUploads.mp (List.mem_filterMap.mpr ⟨upload, hupload, hu⟩)⟩
  · rintro ⟨i, hi, hu⟩
    have hown : u ∈ (samplers[i].uploads (unit + UInt32.ofNat i)).filterMap Upload.unit? :=
      units_samplerUploads.mpr hu
    obtain ⟨upload, hupload, hunit⟩ := List.mem_filterMap.mp hown
    exact List.mem_filterMap.mpr
      ⟨upload, mem_samplersFrom.mpr ⟨i, _, List.getElem?_eq_getElem hi, hupload⟩, hunit⟩

/-- What a program shares takes as many units as it has samplers, from the first one on. -/
theorem FrameGlobals.units_uploads (g : FrameGlobals) (c : Features) {u : UInt32} :
    u ∈ (g.uploads c).1.filterMap Upload.unit? ↔
      ∃ i < (g.samplers c).length, u = UInt32.ofNat i := by
  rw [← units_onUnits, (g.onUnits_uploads c).1, units_samplersFrom]
  simp only [UInt32.zero_add]

/-! ### Materials -/

namespace TextureUnits

variable (units : TextureUnits)

theorem next_lt_limit : units.next.1 < units.limit := by
  rw [next_fst]
  exact units.unitAt_lt_limit units.handed.toNat

end TextureUnits

namespace Material

variable (m : Material)

/-- Whatever is given out stays below the limit. -/
theorem units_textureUploads (units : TextureUnits) (channels : List TextureChannel) :
    (m.textureUploads units channels).2.limit = units.limit ∧
      ∀ u ∈ (m.textureUploads units channels).1.filterMap Upload.unit?, u < units.limit := by
  induction channels generalizing units with
  | nil => exact ⟨rfl, List.forall_mem_nil _⟩
  | cons channel rest ih =>
    unfold textureUploads
    cases m.texture channel with
    | none => exact ih units
    | some t =>
      obtain ⟨hlimit, hrest⟩ := ih units.next.2
      refine ⟨hlimit, ?_⟩
      have hmatrix : (t.matrix.toList.map fun matrix ↦
          Upload.uniform (.textureMatrix channel) (.mat4 matrix)).filterMap Upload.unit? = [] := by
        cases t.matrix <;> rfl
      simp only [List.filterMap_append, List.forall_mem_append, hmatrix]
      refine ⟨⟨fun u hu ↦ ?_, List.forall_mem_nil _⟩, hrest⟩
      exact units_samplerUploads.mp hu ▸ units.next_lt_limit

theorem units_uploads (c : Features) (units : TextureUnits) :
    (m.uploads c units).2.limit = units.limit ∧
      ∀ u ∈ (m.uploads c units).1.filterMap Upload.unit?, u < units.limit := by
  obtain ⟨hlimit, hlt⟩ :=
    m.units_textureUploads units.reset (c.sampledTextures.map (·.1))
  refine ⟨hlimit, fun u hu ↦ hlt u ?_⟩
  rwa [← units_onUnits, m.onUnits_uploads, units_onUnits] at hu

end Material

/-! ### The pass -/

/-- A unit that the program of a draw counts up to for what it shares. -/
def ReadyDraw.Counts (d : ReadyDraw) (g : FrameGlobals) (unit : UInt32) : Prop :=
  ∃ i < (g.samplers d.features).length, unit = UInt32.ofNat i

namespace DrawState

variable {maxTextureUnits : UInt32} {g : FrameGlobals} {d : ReadyDraw} {s : DrawState}

theorem units_bindProgram (hs : s.units.limit = max maxTextureUnits 1) :
    (s.bindProgram maxTextureUnits g d).2.units.limit = max maxTextureUnits 1 ∧
      ∀ unit ∈ (s.bindProgram maxTextureUnits g d).1.filterMap Command.unit?, d.Counts g unit := by
  unfold bindProgram
  split
  · exact ⟨hs, List.forall_mem_nil _⟩
  · exact ⟨rfl, fun unit hunit ↦
      (g.units_uploads _).mp (ProgramBindings.unit_of_uploadAll hunit)⟩

theorem units_bindMaterial (hs : s.units.limit = max maxTextureUnits 1) :
    (s.bindMaterial d).2.units.limit = max maxTextureUnits 1 ∧
      ∀ unit ∈ (s.bindMaterial d).1.filterMap Command.unit?, unit < max maxTextureUnits 1 := by
  unfold bindMaterial
  split
  · exact ⟨hs, List.forall_mem_nil _⟩
  · obtain ⟨hlimit, hlt⟩ := d.material.units_uploads d.features s.units
    exact ⟨hlimit.trans hs,
      fun unit hunit ↦ hs ▸ hlt unit (ProgramBindings.unit_of_uploadAll hunit)⟩

theorem units_bindTransform (s : DrawState) (d : ReadyDraw) :
    (s.bindTransform d).2.units = s.units ∧
      (s.bindTransform d).1.filterMap Command.unit? = [] := by
  unfold bindTransform
  split
  · exact ⟨rfl, rfl⟩
  · refine ⟨rfl, ProgramBindings.units_uploadAll_of_isPlain ?_⟩
    unfold Transform.uploads
    cases d.features.hasNormals <;> simp [Upload.isPlain]

theorem units_bindGeometry (s : DrawState) (d : ReadyDraw) :
    (s.bindGeometry d).2.units = s.units ∧
      (s.bindGeometry d).1.filterMap Command.unit? = [] := by
  unfold bindGeometry
  split
  · exact ⟨rfl, rfl⟩
  · refine ⟨rfl, ?_⟩
    have hbind : (d.buffers.bind d.program.bindings).filterMap Command.unit? = [] := by
      refine List.filterMap_eq_nil_iff.mpr fun c hc ↦ ?_
      rcases List.mem_append.mp hc with hc | hc
      · obtain ⟨a, _, ha⟩ := List.mem_map.mp hc
        unfold GeometryBuffers.bindAttribute at ha
        split at ha <;> exact ha ▸ rfl
      · obtain ⟨i, _, rfl⟩ := List.mem_map.mp hc
        rfl
    rw [SceneRenderer.bindGeometry, List.filterMap_append, hbind, List.nil_append]
    refine ProgramBindings.units_uploadAll_of_isPlain ?_
    simp only [List.forall_mem_append, List.forall_mem_map]
    exact ⟨fun m _ ↦ rfl, fun m _ ↦ rfl⟩

/-- A draw keeps the limit for materials, and goes beyond it only for what its program shares. -/
theorem units_draw (hs : s.units.limit = max maxTextureUnits 1) :
    (s.draw maxTextureUnits g d).2.units.limit = max maxTextureUnits 1 ∧
      ∀ unit ∈ (s.draw maxTextureUnits g d).1.filterMap Command.unit?,
        unit < max maxTextureUnits 1 ∨ d.Counts g unit := by
  obtain ⟨hprogram, hshared⟩ := units_bindProgram (g := g) (d := d) hs
  obtain ⟨hmaterial, hown⟩ := units_bindMaterial (d := d) hprogram
  obtain ⟨htransform, hplain⟩ :=
    units_bindTransform ((s.bindProgram maxTextureUnits g d).2.bindMaterial d).2 d
  obtain ⟨hgeometry, hplain'⟩ := units_bindGeometry
    (((s.bindProgram maxTextureUnits g d).2.bindMaterial d).2.bindTransform d).2 d
  have hdraw : d.buffers.draw.unit? = none := by
    unfold GeometryBuffers.draw
    split <;> rfl
  refine ⟨(congrArg TextureUnits.limit (hgeometry.trans htransform)).trans hmaterial, ?_⟩
  unfold draw
  simp only [List.filterMap_append, hplain, hplain', List.append_nil,
    List.filterMap_cons_none hdraw, List.filterMap_nil, List.forall_mem_append]
  exact ⟨fun unit hunit ↦ .inr (hshared unit hunit), fun unit hunit ↦ .inl (hown unit hunit)⟩

/-- Beyond the limit, a pass uses only units that programs count up to. -/
theorem units_drawAll (hs : s.units.limit = max maxTextureUnits 1)
    (batch : List (Except SkipReason ReadyDraw)) :
    ∀ unit ∈ (s.drawAll maxTextureUnits g batch).1.filterMap Command.unit?,
      unit < max maxTextureUnits 1 ∨ ∃ d, .ok d ∈ batch ∧ d.Counts g unit := by
  induction batch generalizing s with
  | nil => exact List.forall_mem_nil _
  | cons first rest ih =>
    have hlater {s : DrawState} (hs : s.units.limit = max maxTextureUnits 1) :
        ∀ unit ∈ (s.drawAll maxTextureUnits g rest).1.filterMap Command.unit?,
          unit < max maxTextureUnits 1 ∨ ∃ d, .ok d ∈ first :: rest ∧ d.Counts g unit :=
      fun unit hunit ↦
        (ih hs unit hunit).imp_right fun ⟨d, hd, hcounts⟩ ↦ ⟨d, List.mem_cons_of_mem _ hd, hcounts⟩
    cases first with
    | error reason => exact hlater (s := s.skip) hs
    | ok d =>
      obtain ⟨hlimit, hnow⟩ := units_draw (g := g) (d := d) hs
      show ∀ unit ∈ ((s.draw maxTextureUnits g d).1 ++ _).filterMap Command.unit?, _
      rw [List.filterMap_append, List.forall_mem_append]
      exact ⟨fun unit hunit ↦ (hnow unit hunit).imp_right fun hcounts ↦
        ⟨d, List.mem_cons_self, hcounts⟩, hlater hlimit⟩

end DrawState

namespace DrawRenderer

variable {r : DrawRenderer} {cache : ProgramCache} {g : FrameGlobals} {entries : List DrawEntry}

/-- Whatever is drawn, a unit that the device does not have is one that a program counted up to. -/
theorem unit_of_render :
    ∀ unit ∈ (r.render cache g entries).1.commands.filterMap Command.unit?,
      unit < max r.maxTextureUnits 1 ∨
        ∃ entry ∈ entries, ∃ d, entry.resolve cache = .ok d ∧ d.Counts g unit := by
  intro unit hunit
  refine (DrawState.units_drawAll rfl _ unit hunit).imp_right fun ⟨d, hd, hcounts⟩ ↦ ?_
  obtain ⟨entry, hentry, hresolve⟩ := List.mem_map.mp hd
  exact ⟨entry, (List.mem_mergeSort.mp hentry), d, hresolve, hcounts⟩

/-- A pass stays below the number of units, if there are enough of them for what each of its
programs shares. -/
theorem render_unit_lt
    (hroom : ∀ entry ∈ entries, ∀ d, entry.resolve cache = .ok d →
      (g.samplers d.features).length ≤ (max r.maxTextureUnits 1).toNat) :
    ∀ unit ∈ (r.render cache g entries).1.commands.filterMap Command.unit?,
      unit < max r.maxTextureUnits 1 := by
  intro unit hunit
  rcases unit_of_render unit hunit with hlt | ⟨entry, hentry, d, hresolve, i, hi, rfl⟩
  · exact hlt
  · have hlt := Nat.lt_of_lt_of_le hi (hroom entry hentry d hresolve)
    rwa [UInt32.lt_iff_toNat_lt,
      UInt32.toNat_ofNat_of_lt' (Nat.lt_trans hlt (max r.maxTextureUnits 1).toNat_lt)]

/-- A pass over one entry uses the unit of each sampler that its program shares a texture for. -/
theorem mem_units_render {limit : UInt32} {entry : DrawEntry} {d : ReadyDraw}
    (hresolve : entry.resolve cache = .ok d) {i : Nat} {s : SamplerUse} {t : TextureId}
    (hs : (g.samplers d.features)[i]? = some s) (ht : s.texture = some t) :
    UInt32.ofNat i ∈
      ((new limit).render cache g [entry]).1.commands.filterMap Command.unit? := by
  have hown : Upload.texture (UInt32.ofNat i) s.target t ∈ s.uploads (0 + UInt32.ofNat i) := by
    rw [UInt32.zero_add, SamplerUse.uploads, samplerUploads, ht]
    exact List.mem_cons_self
  have hupload : Upload.texture (UInt32.ofNat i) s.target t ∈ (g.uploads d.features).1 := by
    have hshared : Upload.texture (UInt32.ofNat i) s.target t ∈
        onUnits (g.uploads d.features).1 := by
      rw [(g.onUnits_uploads d.features).1]
      exact mem_samplersFrom.mpr ⟨i, s, hs, hown⟩
    exact List.mem_of_mem_filter hshared
  have hprogram : Command.bindTexture (UInt32.ofNat i) s.target t ∈
      ((DrawState.start limit).bindProgram limit g d).1 :=
    List.mem_cons_of_mem _ (List.mem_flatMap.mpr ⟨_, hupload, List.mem_singleton_self _⟩)
  have hcommands : ((new limit).render cache g [entry]).1.commands =
      ((DrawState.start limit).draw limit g d).1 ++ [] := by
    unfold render
    simp only [sortByKey, List.mergeSort_singleton, List.map_cons, List.map_nil, hresolve]
    rfl
  refine List.mem_filterMap.mpr ⟨.bindTexture (UInt32.ofNat i) s.target t, ?_, rfl⟩
  rw [hcommands, List.append_nil]
  unfold DrawState.draw
  simp only [List.mem_append]
  exact .inl (.inl (.inl (.inl hprogram)))

end DrawRenderer

/-! ### Two shadows -/

/-- The features of a scene in which two lights cast shadows. -/
def twoShadows : Features :=
  { (default : Features) with
    hasNormals := true
    receivesShadow := true
    lightSlots := [⟨0, .directional, .world, true⟩, ⟨1, .directional, .world, true⟩] }

/-- What a frame shares if it has two lights with a shadow map each. -/
def twoMaps : FrameGlobals :=
  let light := (Light.directional .one .world).withShadow .identity .identity
  { (default : FrameGlobals) with lights := [light, light], shadowMaps := [⟨0, ⟨1⟩⟩, ⟨1, ⟨2⟩⟩] }

namespace DrawRenderer

/-- Two units are enough for two shadow maps. -/
theorem render_unit_lt_twoShadows :
    ∃ c h e, ProgramCache.Acquired Recorder .standard c ∧ c.entry? h = some e ∧
      e.key = .draw twoShadows ∧
      let entry : DrawEntry := ⟨⟨1⟩, some h, default, default, default, some default⟩
      let units := ((new 2).render c twoMaps [entry]).1.commands.filterMap Command.unit?
      1 ∈ units ∧ ∀ unit ∈ units, unit < max 2 1 := by
  obtain ⟨c, h, e, hc, he, hkey⟩ := ProgramCache.exists_acquired (.draw twoShadows)
  refine ⟨c, h, e, hc, he, hkey, ?_⟩
  intro entry units
  have hresolve : entry.resolve c = .ok _ := DrawEntry.resolve_eq_ok rfl he hkey rfl
  refine ⟨mem_units_render (i := 1) hresolve rfl rfl, render_unit_lt fun other hother d hd ↦ ?_⟩
  cases List.mem_singleton.mp hother
  cases hresolve.symm.trans hd
  exact Nat.le_refl 2

/-- On a device with one unit, the second of two shadow maps is bound to another one. -/
theorem exists_unit_beyond_limit :
    ∃ c h e, ProgramCache.Acquired Recorder .standard c ∧ c.entry? h = some e ∧
      e.key = .draw twoShadows ∧
      let entry : DrawEntry := ⟨⟨1⟩, some h, default, default, default, some default⟩
      ∃ unit ∈ ((new 1).render c twoMaps [entry]).1.commands.filterMap Command.unit?,
        ¬unit < max 1 1 := by
  obtain ⟨c, h, e, hc, he, hkey⟩ := ProgramCache.exists_acquired (.draw twoShadows)
  refine ⟨c, h, e, hc, he, hkey, ?_⟩
  intro entry
  have hresolve : entry.resolve c = .ok _ := DrawEntry.resolve_eq_ok rfl he hkey rfl
  exact ⟨_, mem_units_render (i := 1) hresolve rfl rfl, by decide⟩

end DrawRenderer

end SceneRenderer
