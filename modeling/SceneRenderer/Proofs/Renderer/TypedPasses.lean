import SceneRenderer.Proofs.Frame.TextureKinds
import SceneRenderer.Proofs.Program.BuiltPrograms
import SceneRenderer.Proofs.Renderer.Drawings
import SceneRenderer.Proofs.Shader.DeclaredTypes
import SceneRenderer.Proofs.Shader.DeclaredUniforms

/-!
The passes set every uniform to a value of the type that the program in use declares it with, and
point no sampler at a texture of another kind.

A pass is followed command by command: `SetsAll` says something of each value in the state in which
it is set. What a draw adds to the program in use is right in whatever state that program was left
in; what makes a program current starts from a state in which nothing is bound
(`bindProgram_setsTyped`).
-/

set_option autoImplicit false
set_option relaxedAutoImplicit false

namespace SceneRenderer

open Shader

/-! ### Values in the states in which they are set -/

namespace GpuState

/-- A property of every uniform that commands set, each in the state before. -/
def SetsAll (p : GpuState → UniformLocation → UniformValue → Prop) (s : GpuState) :
    List Command → Prop
  | [] => True
  | c :: rest =>
    (∀ location value, c = .setUniform location value → p s location value) ∧
      SetsAll p (s.renew c) rest

variable {p : GpuState → UniformLocation → UniformValue → Prop} {s : GpuState}

theorem setsAll_append {commands rest : List Command} :
    s.SetsAll p (commands ++ rest) ↔ s.SetsAll p commands ∧ (s.since commands).SetsAll p rest := by
  induction commands generalizing s with
  | nil => exact (iff_of_eq (true_and _)).symm
  | cons c commands ih => exact (and_congr_right fun _ ↦ ih).trans and_assoc.symm

theorem setsAll_of_sets_nothing {commands : List Command}
    (hnone : ∀ c ∈ commands, ∀ location value, c ≠ .setUniform location value) :
    s.SetsAll p commands := by
  induction commands generalizing s with
  | nil => exact trivial
  | cons c rest ih =>
    exact ⟨fun location value hc ↦ absurd hc (hnone c List.mem_cons_self location value),
      ih fun c' hc' ↦ hnone c' (List.mem_cons_of_mem _ hc')⟩

theorem SetsAll.apply {before after : List Command} {location : UniformLocation}
    {value : UniformValue} (hall : s.SetsAll p (before ++ .setUniform location value :: after)) :
    p (s.since before) location value :=
  (setsAll_append.mp hall).2.1 location value rfl

/-- Settings leave the program in use. -/
theorem since_program {commands : List Command} (hset : ∀ c ∈ commands, c.isSetting) :
    s.since commands .program = s .program := by
  have hkept : effect commands .program = none := by
    refine effect_eq_none fun c hc ↦ ?_
    cases c with
    | useProgram id => exact absurd (hset _ hc) nofun
    | _ => rfl
  rw [since_of_isSetting _ hset]
  show (effect commands .program).or (s .program) = _
  rw [hkept, Option.none_or]

/-- The kinds of the textures on units. -/
def kinds (s : GpuState) : UnitKinds := fun unit ↦
  match s (.unit unit) with
  | some (.texture target _) => some target
  | _ => none

end GpuState

/-! ### Uploads -/

/-- The samplers that a program shares can be counted, as the device counts its units. -/
def Shader.ProgramKey.CountsUnits : ProgramKey → Prop
  | .draw c => c.lightSlots.length + 2 < 2 ^ 32
  | .shadowDepth _ => True

/-- A uniform of a program in a cache is set, while this program is in use, to a value of the type
that the source declares it with. A sampler finds no texture of another kind on its unit. -/
def ProgramCache.SetsTyped (c : ProgramCache) (s : GpuState) (location : UniformLocation)
    (value : UniformValue) : Prop :=
  ∃ h e name type, c.entry? h = some e ∧ s .program = some (.program e.program.id) ∧
    e.program.bindings.uniform? name = some location ∧ e.source.Declares name type ∧
    (∀ other, e.source.Declares name other → other = type) ∧ value.hasType type ∧
    (e.key.CountsUnits → ∀ unit target, value = .sampler unit → s.kinds unit = some target →
      type.target? = some target)

namespace ProgramCache

variable {δ : Type} [Device δ] {c : ProgramCache} {s : GpuState} {h : ProgramHandle}
  {e : CacheEntry}

theorem setsTyped_of_upload (hc : c.AllBuilt δ) (he : c.entry? h = some e)
    (hs : s .program = some (.program e.program.id)) {name : Name} {value : UniformValue}
    {location : UniformLocation} (hlocation : e.program.bindings.uniform? name.text = some location)
    (htyped : (Upload.uniform name value).IsTyped)
    (hkind : e.key.CountsUnits → (Upload.uniform name value).FindsKind s.kinds) :
    c.SetsTyped s location value := by
  have hbuilt := hc h.index e (entry?_eq_some_iff.mp he).2
  obtain ⟨type, hdeclares⟩ :=
    exists_declares_of_mem_uniforms hbuilt.1 (hbuilt.mem_uniforms hlocation)
  have hsame {other : GlslType} (hother : e.source.Declares name.text other) :
      name.uniformType? = some other := by
    rw [Name.uniformType?, (declaresAs_of_declares hbuilt.1 hother).signature]
    rfl
  obtain ⟨type', htype', hvalue⟩ := htyped
  obtain rfl : type' = type := Option.some_inj.mp (htype'.symm.trans (hsame hdeclares))
  refine ⟨h, e, name.text, type', he, hs, hlocation, hdeclares, fun other hother ↦ ?_, hvalue, ?_⟩
  · exact Option.some_inj.mp ((hsame hother).symm.trans htype')
  · rintro hcounts unit target rfl hbound
    obtain ⟨type'', htype'', htarget⟩ := hkind hcounts target hbound
    rwa [Option.some_inj.mp (htype'.symm.trans htype'')]

/-- Uploads for the program in use. -/
theorem setsTyped_uploadAll (hc : c.AllBuilt δ) (he : c.entry? h = some e)
    (hs : s .program = some (.program e.program.id)) {uploads : List Upload}
    (htyped : ∀ upload ∈ uploads, upload.IsTyped)
    (hkinds : e.key.CountsUnits → FindKinds s.kinds uploads) :
    s.SetsAll c.SetsTyped (e.program.bindings.uploadAll uploads) := by
  induction uploads generalizing s with
  | nil => exact trivial
  | cons upload rest ih =>
    have hset := ProgramBindings.isSetting_uploadAll (b := e.program.bindings) [upload]
    have hnow : e.program.bindings.uploadAll [upload] = e.program.bindings.upload upload :=
      List.flatMap_singleton _ _
    rw [hnow] at hset
    have hkept : (s.since (e.program.bindings.upload upload)).kinds = upload.bindKind s.kinds := by
      rw [GpuState.since_of_isSetting _ hset]
      funext unit
      cases upload with
      | uniform name value =>
        show GpuState.kinds (s.after (e.program.bindings.set name.text value)) unit = s.kinds unit
        unfold ProgramBindings.set
        split <;> rfl
      | texture bound target texture =>
        show GpuState.kinds (s.after [.bindTexture bound target texture]) unit =
          Function.update s.kinds bound (some target) unit
        by_cases hunit : unit = bound
        · subst hunit
          simp [GpuState.kinds, GpuState.after, effect, Command.binding]
        · simp [GpuState.kinds, GpuState.after, effect, Command.binding, hunit]
    refine GpuState.setsAll_append.mpr ⟨?_, ih ?_ ?_ ?_⟩
    · cases upload with
      | texture bound target texture =>
        refine GpuState.setsAll_of_sets_nothing fun c hc ↦ ?_
        rw [List.mem_singleton.mp hc]
        exact nofun
      | uniform name value =>
        show s.SetsAll c.SetsTyped (e.program.bindings.set name.text value)
        unfold ProgramBindings.set
        split
        · rename_i location hlocation
          refine ⟨fun l v hv ↦ ?_, trivial⟩
          cases hv
          exact setsTyped_of_upload hc he hs hlocation (htyped _ List.mem_cons_self)
            fun hcounts ↦ (hkinds hcounts).1
        · exact trivial
    · exact (GpuState.since_program hset).trans hs
    · exact fun upload hupload ↦ htyped upload (List.mem_cons_of_mem _ hupload)
    · intro hcounts
      rw [hkept]
      exact (hkinds hcounts).2

/-- The buffers of a geometry are bound for the program in use. -/
theorem setsTyped_bindGeometry (hc : c.AllBuilt δ) (he : c.entry? h = some e)
    (hs : s .program = some (.program e.program.id)) (buffers : GeometryBuffers) :
    s.SetsAll c.SetsTyped (bindGeometry e.program.bindings buffers) := by
  have hset : ∀ c ∈ buffers.bind e.program.bindings, c.isSetting := fun c hc ↦
    isSetting_bindGeometry e.program.bindings buffers c (List.mem_append_left _ hc)
  refine GpuState.setsAll_append.mpr ⟨?_, setsTyped_uploadAll hc he ?_ ?_ ?_⟩
  · refine GpuState.setsAll_of_sets_nothing fun c hc location value heq ↦ ?_
    subst heq
    rcases List.mem_append.mp hc with hc | hc
    · obtain ⟨a, _, ha⟩ := List.mem_map.mp hc
      unfold GeometryBuffers.bindAttribute at ha
      split at ha <;> cases ha
    · obtain ⟨i, _, hi⟩ := List.mem_map.mp hc
      cases hi
  · exact (GpuState.since_program hset).trans hs
  · simp only [List.forall_mem_append, List.forall_mem_map]
    exact ⟨fun m _ ↦ ⟨.mat4, rfl, rfl⟩, fun m _ ↦ ⟨.mat3, rfl, rfl⟩⟩
  · refine fun _ ↦ findKinds_of_plain ?_ _
    simp only [List.forall_mem_append, List.forall_mem_map]
    exact ⟨fun m _ ↦ rfl, fun m _ ↦ rfl⟩

/-- A program is made current, and is given what its draws share. -/
theorem setsTyped_useProgram (hc : c.AllBuilt δ) (he : c.entry? h = some e) {uploads : List Upload}
    (htyped : ∀ upload ∈ uploads, upload.IsTyped)
    (hkinds : e.key.CountsUnits → ∀ k : UnitKinds, (∀ unit, k unit = none) → FindKinds k uploads) :
    s.SetsAll c.SetsTyped (.useProgram e.program.id :: e.program.bindings.uploadAll uploads) :=
  ⟨nofun, setsTyped_uploadAll hc he rfl htyped fun hcounts ↦ hkinds hcounts _ fun _ ↦ rfl⟩

/-- Commands that go on with the program in use, whatever is bound. -/
structure GoesOn (c : ProgramCache) (e : CacheEntry) (commands : List Command) : Prop where
  isSetting : ∀ command ∈ commands, command.isSetting
  setsTyped : ∀ s : GpuState, s .program = some (.program e.program.id) →
    s.SetsAll c.SetsTyped commands

theorem GoesOn.nil : c.GoesOn e [] := ⟨List.forall_mem_nil _, fun _ _ ↦ trivial⟩

theorem GoesOn.append {commands rest : List Command} (hcommands : c.GoesOn e commands)
    (hrest : c.GoesOn e rest) : c.GoesOn e (commands ++ rest) where
  isSetting := List.forall_mem_append.mpr ⟨hcommands.isSetting, hrest.isSetting⟩
  setsTyped s hs := GpuState.setsAll_append.mpr ⟨hcommands.setsTyped s hs,
    hrest.setsTyped _ ((GpuState.since_program hcommands.isSetting).trans hs)⟩

theorem goesOn_uploadAll (hc : c.AllBuilt δ) (he : c.entry? h = some e) {uploads : List Upload}
    (htyped : ∀ upload ∈ uploads, upload.IsTyped) (hkinds : ∀ k, FindKinds k uploads) :
    c.GoesOn e (e.program.bindings.uploadAll uploads) :=
  ⟨ProgramBindings.isSetting_uploadAll _,
    fun _ hs ↦ setsTyped_uploadAll hc he hs htyped fun _ ↦ hkinds _⟩

theorem goesOn_bindGeometry (hc : c.AllBuilt δ) (he : c.entry? h = some e)
    (buffers : GeometryBuffers) : c.GoesOn e (bindGeometry e.program.bindings buffers) :=
  ⟨isSetting_bindGeometry _ _, fun _ hs ↦ setsTyped_bindGeometry hc he hs buffers⟩

/-- The program that a pass counts as bound is the one in use. -/
def InUse (c : ProgramCache) (bound : BoundState) (s : GpuState) : Prop :=
  ∀ h e, bound.program = some h → c.entry? h = some e → s .program = some (.program e.program.id)

theorem inUse_none (c : ProgramCache) (s : GpuState) : c.InUse .none s :=
  fun h _ hbound _ ↦ absurd hbound (Option.some_ne_none h).symm

/-- A draw makes its program current, unless it is, and goes on with it. -/
theorem setsTyped_draw {program rest : List Command} {draw : Command} (bound : BoundState)
    (he : c.entry? h = some e) (hprogram : s.SetsAll c.SetsTyped program)
    (huse : s.since program .program = some (.program e.program.id)) (hrest : c.GoesOn e rest)
    (hdraw : draw.isDraw) (hbound : bound.program = some h) :
    s.SetsAll c.SetsTyped (program ++ rest ++ [draw]) ∧
      c.InUse bound (s.since (program ++ rest ++ [draw])) := by
  have hkept : s.since (program ++ rest) .program = some (.program e.program.id) := by
    rw [GpuState.since_append, GpuState.since_program hrest.isSetting, huse]
  refine ⟨?_, fun h' e' hh' he' ↦ ?_⟩
  · refine GpuState.setsAll_append.mpr ⟨GpuState.setsAll_append.mpr ⟨hprogram, ?_⟩, ?_⟩
    · exact hrest.setsTyped _ huse
    · refine GpuState.setsAll_of_sets_nothing fun command hc ↦ ?_
      rw [List.mem_singleton.mp hc]
      rintro location value rfl
      exact absurd hdraw nofun
  · obtain rfl : h = h' := Option.some_inj.mp (hbound.symm.trans hh')
    obtain rfl : e = e' := Option.some_inj.mp (he.symm.trans he')
    rw [GpuState.since_append]
    exact (congrFun (GpuState.renew_draw _ hdraw) _).trans hkept

end ProgramCache

/-! ### The main pass -/

namespace DrawState

variable {δ : Type} [Device δ] {c : ProgramCache} {s : GpuState} {e : CacheEntry} {d : ReadyDraw}
  {b : DrawState} (maxTextureUnits : UInt32) (g : FrameGlobals)

theorem bindProgram_setsTyped (hc : c.AllBuilt δ) (he : c.entry? d.handle = some e)
    (hprogram : d.program = e.program) (hkey : e.key = .draw d.features)
    (hb : c.InUse b.bound s) :
    s.SetsAll c.SetsTyped (b.bindProgram maxTextureUnits g d).1 ∧
      s.since (b.bindProgram maxTextureUnits g d).1 .program = some (.program e.program.id) ∧
      (b.bindProgram maxTextureUnits g d).2.bound.program = some d.handle := by
  unfold bindProgram
  split
  · rename_i hbound
    exact ⟨trivial, hb d.handle e hbound he, hbound⟩
  · rw [hprogram]
    refine ⟨ProgramCache.setsTyped_useProgram hc he (g.isTyped_uploads d.features) ?_, ?_, rfl⟩
    · intro hcounts k hfree
      rw [hkey] at hcounts
      exact g.findKinds_uploads d.features hcounts hfree
    · exact GpuState.since_program (ProgramBindings.isSetting_uploadAll _)

/-- The parts of a draw behind its program. -/
theorem goesOn_parts (hc : c.AllBuilt δ) (he : c.entry? d.handle = some e)
    (hprogram : d.program = e.program) (b₁ b₂ b₃ : DrawState) :
    c.GoesOn e ((b₁.bindMaterial d).1 ++ (b₂.bindTransform d).1 ++ (b₃.bindGeometry d).1) := by
  refine (ProgramCache.GoesOn.append ?_ ?_).append ?_
  · unfold bindMaterial
    split
    · exact .nil
    · rw [hprogram]
      exact ProgramCache.goesOn_uploadAll hc he (d.material.isTyped_uploads _ _)
        (d.material.findKinds_uploads _ _)
  · unfold bindTransform
    split
    · exact .nil
    · rw [hprogram]
      exact ProgramCache.goesOn_uploadAll hc he (d.transform.isTyped_uploads _)
        (d.transform.findKinds_uploads _)
  · unfold bindGeometry
    split
    · exact .nil
    · rw [hprogram]
      exact ProgramCache.goesOn_bindGeometry hc he d.buffers

@[simp]
theorem program_bindMaterial (b : DrawState) (d : ReadyDraw) :
    (b.bindMaterial d).2.bound.program = b.bound.program := by
  unfold bindMaterial
  split <;> rfl

@[simp]
theorem program_bindTransform (b : DrawState) (d : ReadyDraw) :
    (b.bindTransform d).2.bound.program = b.bound.program := by
  unfold bindTransform
  split <;> rfl

@[simp]
theorem program_bindGeometry (b : DrawState) (d : ReadyDraw) :
    (b.bindGeometry d).2.bound.program = b.bound.program := by
  unfold bindGeometry
  split <;> rfl

theorem draw_setsTyped (hc : c.AllBuilt δ) (he : c.entry? d.handle = some e)
    (hprogram : d.program = e.program) (hkey : e.key = .draw d.features)
    (hb : c.InUse b.bound s) :
    s.SetsAll c.SetsTyped (b.draw maxTextureUnits g d).1 ∧
      c.InUse (b.draw maxTextureUnits g d).2.bound (s.since (b.draw maxTextureUnits g d).1) := by
  obtain ⟨hset, huse, hbound⟩ :=
    bindProgram_setsTyped maxTextureUnits g hc he hprogram hkey hb
  have hparts := goesOn_parts hc he hprogram (b.bindProgram maxTextureUnits g d).2
    ((b.bindProgram maxTextureUnits g d).2.bindMaterial d).2
    (((b.bindProgram maxTextureUnits g d).2.bindMaterial d).2.bindTransform d).2
  have hdraw := ProgramCache.setsTyped_draw (b.draw maxTextureUnits g d).2.bound he hset huse hparts
    d.buffers.isDraw_draw (by simpa [draw] using hbound)
  simpa only [draw, List.append_assoc] using hdraw

/-- A pass over draws whose programs are in the cache. -/
theorem drawAll_setsTyped (hc : c.AllBuilt δ) {entries : List DrawEntry} (hb : c.InUse b.bound s) :
    s.SetsAll c.SetsTyped
      (b.drawAll maxTextureUnits g (entries.map (DrawEntry.resolve c))).1 := by
  induction entries generalizing b s with
  | nil => exact trivial
  | cons entry rest ih =>
    rw [List.map_cons]
    cases hresolve : entry.resolve c with
    | error reason => exact ih hb
    | ok d =>
      obtain ⟨e, features, buffers, _, he, hkey, _, hd⟩ := DrawEntry.resolve_ok hresolve
      have hdraw := draw_setsTyped maxTextureUnits g hc he (by rw [hd])
        (by rw [hd]; exact hkey) hb
      exact GpuState.setsAll_append.mpr ⟨hdraw.1, ih hdraw.2⟩

end DrawState

/-! ### The shadow pass -/

namespace CastState

variable {δ : Type} [Device δ] {c : ProgramCache} {s : GpuState} {e : CacheEntry} {d : ReadyCaster}
  {b : CastState} (light : Light)

theorem bindProgram_setsTyped (hc : c.AllBuilt δ) (he : c.entry? d.handle = some e)
    (hprogram : d.program = e.program) (hb : c.InUse b.bound s) :
    s.SetsAll c.SetsTyped (b.bindProgram light d).1 ∧
      s.since (b.bindProgram light d).1 .program = some (.program e.program.id) ∧
      (b.bindProgram light d).2.bound.program = some d.handle := by
  unfold bindProgram
  split
  · rename_i hbound
    exact ⟨trivial, hb d.handle e hbound he, hbound⟩
  · rw [hprogram]
    refine ⟨ProgramCache.setsTyped_useProgram hc he ?_ ?_, ?_, rfl⟩
    · simp [Name.uniformType?, UniformValue.hasType]
    · exact fun _ k _ ↦ findKinds_of_plain (by simp [Upload.isPlain]) k
    · exact GpuState.since_program (ProgramBindings.isSetting_uploadAll _)

/-- The parts of a draw behind its program. -/
theorem goesOn_parts (hc : c.AllBuilt δ) (he : c.entry? d.handle = some e)
    (hprogram : d.program = e.program) (b₁ b₂ : CastState) :
    c.GoesOn e ((b₁.bindTransform d).1 ++ (b₂.bindGeometry d).1 ++
      d.program.bindings.uploadAll [.uniform .pointSize (.float d.pointSize)]) := by
  refine (ProgramCache.GoesOn.append ?_ ?_).append ?_
  · unfold bindTransform
    split
    · exact .nil
    · rw [hprogram]
      exact ProgramCache.goesOn_uploadAll hc he (d.transform.isTyped_uploads _)
        (d.transform.findKinds_uploads _)
  · unfold bindGeometry
    split
    · exact .nil
    · rw [hprogram]
      exact ProgramCache.goesOn_bindGeometry hc he d.buffers
  · rw [hprogram]
    exact ProgramCache.goesOn_uploadAll hc he (by simp [Name.uniformType?, UniformValue.hasType])
      (findKinds_of_plain (by simp [Upload.isPlain]))

@[simp]
theorem program_bindTransform (b : CastState) (d : ReadyCaster) :
    (b.bindTransform d).2.bound.program = b.bound.program := by
  unfold bindTransform
  split <;> rfl

@[simp]
theorem program_bindGeometry (b : CastState) (d : ReadyCaster) :
    (b.bindGeometry d).2.bound.program = b.bound.program := by
  unfold bindGeometry
  split <;> rfl

theorem draw_setsTyped (hc : c.AllBuilt δ) (he : c.entry? d.handle = some e)
    (hprogram : d.program = e.program) (hb : c.InUse b.bound s) :
    s.SetsAll c.SetsTyped (b.draw light d).1 ∧
      c.InUse (b.draw light d).2.bound (s.since (b.draw light d).1) := by
  obtain ⟨hset, huse, hbound⟩ := bindProgram_setsTyped light hc he hprogram hb
  have hparts := goesOn_parts hc he hprogram (b.bindProgram light d).2
    ((b.bindProgram light d).2.bindTransform d).2
  have hdraw := ProgramCache.setsTyped_draw (b.draw light d).2.bound he hset huse hparts
    d.buffers.isDraw_draw (by simpa [draw] using hbound)
  simpa only [draw, List.append_assoc] using hdraw

/-- A pass over casters whose programs are in the cache. -/
theorem drawAll_setsTyped (hc : c.AllBuilt δ) {casters : List ShadowCaster}
    (hb : c.InUse b.bound s) :
    s.SetsAll c.SetsTyped (b.drawAll light (casters.map (ShadowCaster.resolve? c))).1 := by
  induction casters generalizing b s with
  | nil => exact trivial
  | cons caster rest ih =>
    rw [List.map_cons]
    cases hresolve : caster.resolve? c with
    | none => exact ih hb
    | some d =>
      obtain ⟨e, buffers, _, he, _, hd⟩ := ShadowCaster.resolve?_eq_some hresolve
      have hdraw := draw_setsTyped light hc he (by rw [hd]) hb
      exact GpuState.setsAll_append.mpr ⟨hdraw.1, ih hdraw.2⟩

end CastState

namespace ShadowRenderer

variable {δ : Type} [Device δ] {c : ProgramCache} {s : GpuState}

theorem renderMaps_setsTyped (hc : c.AllBuilt δ) (casters : List ShadowCaster) (lights : List Light)
    (stats : FrameStats) (maps : List ShadowMap) :
    s.SetsAll c.SetsTyped
      (renderMaps (casters.map (ShadowCaster.resolve? c)) lights stats maps).1 := by
  induction maps generalizing s stats with
  | nil => exact trivial
  | cons m rest ih =>
    refine GpuState.setsAll_append.mpr ⟨?_, ih _⟩
    show s.SetsAll c.SetsTyped (renderMap _ lights stats m).1
    unfold renderMap
    split
    · exact trivial
    · refine GpuState.setsAll_append.mpr ⟨GpuState.setsAll_of_sets_nothing fun c hc ↦ ?_, ?_⟩
      · rcases List.mem_append.mp hc with hc | hc
        · simp only [RenderTarget.bind, List.mem_cons, List.not_mem_nil, or_false] at hc
          rcases hc with rfl | rfl <;> rintro _ _ ⟨⟩
        · rw [List.mem_singleton.mp hc]
          rintro _ _ ⟨⟩
      · exact CastState.drawAll_setsTyped _ hc (c.inUse_none _)

theorem render_setsTyped (hc : c.AllBuilt δ) (r : ShadowRenderer) (lights : List Light)
    (casters : List ShadowCaster) : s.SetsAll c.SetsTyped (r.render c lights casters).1 := by
  unfold render
  split
  · exact trivial
  · refine GpuState.setsAll_append.mpr ⟨renderMaps_setsTyped hc _ _ _ _, ?_⟩
    refine GpuState.setsAll_of_sets_nothing fun c hc ↦ ?_
    rw [List.mem_singleton.mp hc]
    exact nofun

end ShadowRenderer

/-! ### Passes -/

/-- Every uniform that commands set is one of the program then in use, is declared there with one
type, and is set to a value of this type. If right before a sampler is pointed at a unit a texture
is bound to this unit, it is of the kind that the sampler is declared for. -/
def ProgramCache.TypedPass (c : ProgramCache) (commands : List Command) : Prop :=
  ∀ before location value after, commands = before ++ .setUniform location value :: after →
    ∃ h e name type, c.entry? h = some e ∧
      GpuState.empty.after before .program = some (.program e.program.id) ∧
      e.program.bindings.uniform? name = some location ∧ e.source.Declares name type ∧
      (∀ other, e.source.Declares name other → other = type) ∧ value.hasType type ∧
      (e.key.CountsUnits → ∀ front unit target texture, value = .sampler unit →
        before = front ++ [.bindTexture unit target texture] → type.target? = some target)

/-- Which program is in use does not depend on what else was set. -/
theorem GpuState.since_program_eq (s : GpuState) (commands : List Command) :
    s.since commands .program = s.after commands .program := by
  induction commands generalizing s with
  | nil => rfl
  | cons c rest ih =>
    have hnow : s.renew c .program = s.after [c] .program := by
      cases c with
      | useProgram id => rfl
      | _ => rfl
    show (s.renew c).since rest .program = s.after ([c] ++ rest) .program
    rw [ih, after_append]
    show (effect rest .program).or (s.renew c .program) = (effect rest .program).or _
    rw [hnow]

theorem GpuState.SetsAll.toTypedPass {c : ProgramCache} {commands : List Command}
    (hall : GpuState.empty.SetsAll c.SetsTyped commands) : c.TypedPass commands := by
  rintro before location value after rfl
  obtain ⟨h, e, name, type, he, huse, hlocation, hdeclares, hsame, hvalue, hkind⟩ := hall.apply
  rw [GpuState.since_program_eq] at huse
  refine ⟨h, e, name, type, he, huse, hlocation, hdeclares, hsame, hvalue, ?_⟩
  rintro hcounts front unit target texture hsampler rfl
  refine hkind hcounts unit target hsampler ?_
  rw [GpuState.since_append]
  show GpuState.kinds (GpuState.after _ [.bindTexture unit target texture]) unit = some target
  simp [GpuState.kinds, GpuState.after, effect, Command.binding]

/-- Binder and shader agree on types: with a cache of acquired programs, whatever they were acquired
for, the main pass over any entries and the shadow pass over any casters set uniforms as they are
declared. -/
theorem ProgramCache.Acquired.typedPass {δ : Type} [Device δ] {o : ShaderOptions} {c : ProgramCache}
    (hc : ProgramCache.Acquired δ o c) :
    (∀ (r : DrawRenderer) (g : FrameGlobals) (entries : List DrawEntry),
      c.TypedPass (r.render c g entries).1.commands) ∧
    ∀ (r : ShadowRenderer) (lights : List Light) (casters : List ShadowCaster),
      c.TypedPass (r.render c lights casters).1 := by
  have hbuilt := hc.built.2
  exact ⟨fun r g entries ↦ (DrawState.drawAll_setsTyped _ g hbuilt (c.inUse_none _)).toTypedPass,
    fun r lights casters ↦ (r.render_setsTyped hbuilt lights casters).toTypedPass⟩

/-- A pass with a single entry sets the matrix of the camera. -/
theorem DrawRenderer.setUniform_mem_render {c : ProgramCache} {entry : DrawEntry} {d : ReadyDraw}
    (hresolve : entry.resolve c = .ok d) {location : UniformLocation}
    (hlocation : d.program.bindings.uniform? Name.viewMatrix.text = some location)
    (r : DrawRenderer) (g : FrameGlobals) :
    .setUniform location (.mat4 g.camera.view) ∈ (r.render c g [entry]).1.commands := by
  have hupload : .setUniform location (.mat4 g.camera.view) ∈
      d.program.bindings.uploadAll (g.uploads d.features).1 :=
    ProgramBindings.setUniform_mem_uploadAll (by simp [FrameGlobals.uploads]) hlocation
  unfold render
  simp only [sortByKey, List.mergeSort_singleton, List.map_cons, List.map_nil, hresolve,
    DrawState.drawAll, DrawState.draw, DrawState.bindProgram, DrawState.start, List.append_assoc]
  exact List.mem_append_left _ (List.mem_cons_of_mem _ hupload)

/-- A pass with a single caster and a map sets the matrix of its light. -/
theorem ShadowRenderer.setUniform_mem_render {c : ProgramCache} {caster : ShadowCaster}
    {d : ReadyCaster} (hresolve : caster.resolve? c = some d) {location : UniformLocation}
    (hlocation : d.program.bindings.uniform? Name.viewMatrix.text = some location) (size : UInt32)
    (m : ShadowMap) {lights : List Light} {light : Light}
    (hlight : lights[m.light.toNat]? = some light) :
    .setUniform location (.mat4 light.shadowView) ∈
      ((⟨size, [m]⟩ : ShadowRenderer).render c lights [caster]).1 := by
  have hupload : .setUniform location (.mat4 light.shadowView) ∈
      d.program.bindings.uploadAll
        [.uniform .viewMatrix (.mat4 light.shadowView),
          .uniform .projMatrix (.mat4 light.shadowProjection)] :=
    ProgramBindings.setUniform_mem_uploadAll List.mem_cons_self hlocation
  simp only [render, List.isEmpty_cons, Bool.false_eq_true, if_false, sortByKey,
    List.mergeSort_singleton, List.map_cons, List.map_nil, hresolve, renderMaps, renderMap, hlight,
    CastState.drawAll, CastState.draw, CastState.bindProgram, CastState.start, List.append_assoc]
  exact List.mem_append_right _ (List.mem_append_right _
    (List.mem_append_left _ (List.mem_cons_of_mem _ hupload)))

/-- A cache with a program that draws and with the depth program of quantized points. Both passes
use theirs. -/
theorem ProgramCache.Acquired.typedPass_drawAndCast :
    ∃ (c : ProgramCache) (h h' : ProgramHandle) (e e' : CacheEntry), Acquired Recorder .standard c ∧
      c.entry? h = some e ∧ e.key = .shadowDepth ⟨true, .none, false, true⟩ ∧
      c.entry? h' = some e' ∧ e'.key = .draw default ∧
      (∀ (r : DrawRenderer) (g : FrameGlobals) (entries : List DrawEntry),
        c.TypedPass (r.render c g entries).1.commands) ∧
      (∀ (r : ShadowRenderer) (lights : List Light) (casters : List ShadowCaster),
        c.TypedPass (r.render c lights casters).1) ∧
      (let entry : DrawEntry := ⟨⟨1⟩, some h', default, default, default, some default⟩
        ∃ location, .setUniform location (.mat4 (default : FrameGlobals).camera.view) ∈
          ((DrawRenderer.new 8).render c default [entry]).1.commands) ∧
      let caster : ShadowCaster := ⟨⟨1⟩, some h, default, default, some default, 1.0⟩
      ∃ location, .setUniform location (.mat4 (default : Light).shadowView) ∈
        ((⟨512, [⟨0, default⟩]⟩ : ShadowRenderer).render c [default] [caster]).1 := by
  obtain ⟨c, h, e, h', e', hc, he, hkey, he', hkey'⟩ :=
    exists_acquired_pair
      (show ProgramKey.draw default ≠ .shadowDepth ⟨true, .none, false, true⟩ from nofun)
  obtain ⟨hdraws, hcasts⟩ := hc.typedPass
  have hcast : ∃ location, e.program.bindings.uniform? Name.viewMatrix.text = some location := by
    have hbuilt := hc.entry_built he
    have hsource := hbuilt.1
    rw [hkey] at hsource
    obtain ⟨_, _, hstages, _⟩ := exists_stages_of_synthesize hsource
    have hdeclares := declaresUniform_of_mem_depthVertexRecords hstages (n := .viewMatrix)
      (by simp [depthVertexRecords]) rfl
    rw [← hkey] at hdeclares
    exact hbuilt.exists_location (hdeclares.mem_uniforms hbuilt.1)
  have hdraw : ∃ location, e'.program.bindings.uniform? Name.viewMatrix.text = some location := by
    have hbuilt := hc.entry_built he'
    have hsource := hbuilt.1
    rw [hkey'] at hsource
    obtain ⟨_, _, hstages, _⟩ := exists_stages_of_synthesize hsource
    have hdeclares :=
      declaresUniform_of_mem_vertexRecords hstages (viewMatrix_mem_vertex _ _) rfl
    rw [← hkey'] at hdeclares
    exact hbuilt.exists_location (hdeclares.mem_uniforms hbuilt.1)
  refine ⟨c, h, h', e, e', hc, he, hkey, he', hkey', hdraws, hcasts, ?_, ?_⟩
  · obtain ⟨location, hlocation⟩ := hdraw
    exact ⟨location, DrawRenderer.setUniform_mem_render (DrawEntry.resolve_eq_ok rfl he' hkey' rfl)
      hlocation _ _⟩
  · obtain ⟨location, hlocation⟩ := hcast
    refine ⟨location, ShadowRenderer.setUniform_mem_render
      (d := ⟨h, e.program, default, default, default, 1.0⟩) ?_ hlocation _ _ rfl⟩
    simp [ShadowCaster.resolve?, ProgramCache.program?, he]

end SceneRenderer
