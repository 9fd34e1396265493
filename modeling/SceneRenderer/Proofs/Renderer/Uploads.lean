import SceneRenderer.Proofs.Device.NumberedPrograms
import SceneRenderer.Proofs.Device.ReportedNames
import SceneRenderer.Proofs.Gl.Programs
import SceneRenderer.Proofs.Renderer.Uploading

/-!
No upload is lost. Whenever a renderer sets a uniform, it is one of the program that was made
current last, and this program is there on the device that is told so, whatever the device refused
before.

The main statement is `Renderer.reached_uploaded`.
-/

set_option autoImplicit false
set_option relaxedAutoImplicit false

namespace SceneRenderer

open Shader Observed

/-! ### An upload after a refusal -/

/-- Where a program was created and answers about its uniforms, it is linked with their places. -/
theorem LinkedProgram.exists_link_of_answers {δ : Type} [Device δ] {device created : δ}
    {source : ProgramSource} {id : ProgramId}
    (hcreate : Device.createProgram device (source.stageText .vertex) (source.stageText .fragment)
      attributeSlots = (.ok id, created)) {p : δ → Prop} (hcreated : p created)
    (hanswers : ∀ d name, name ∈ source.uniforms → p d →
      (Device.uniformLocation d id name).1.isSome ∧ p (Device.uniformLocation d id name).2)
    {name : String} (hname : name ∈ source.uniforms) :
    ∃ program device' l, link device source = (.ok program, device') ∧
      program.bindings.uniform? name = some l := by
  have hasked : ∀ names : List String, (∀ n ∈ names, n ∈ source.uniforms) →
      p (askAll (fun d name ↦ Device.uniformLocation d id name) created names).2 ∧
        ∀ n ∈ names, ((askAll (fun d name ↦ Device.uniformLocation d id name) created
          names).1.get? n).isSome := by
    intro names
    rw [askAll_eq_foldl]
    induction names using List.reverseRecOn with
    | nil => exact fun _ ↦ ⟨hcreated, fun n hn ↦ absurd hn List.not_mem_nil⟩
    | append_singleton names last ih =>
      intro hnames
      obtain ⟨hp, hsome⟩ := ih fun n hn ↦ hnames n (List.mem_append_left _ hn)
      obtain ⟨hlast, hp'⟩ := hanswers _ last (hnames last (by simp)) hp
      rw [List.foldl_append, List.foldl_cons, List.foldl_nil, snd_askOne]
      refine ⟨hp', fun n hn ↦ ?_⟩
      rw [get?_askOne]
      split
      · rw [Option.isSome_or, hlast]
        rfl
      · rename_i hne
        exact hsome n ((List.mem_append.mp hn).resolve_right fun h ↦ hne (List.mem_singleton.mp h))
  obtain ⟨l, hl⟩ :=
    Option.isSome_iff_exists.mp ((hasked source.uniforms fun _ hn ↦ hn).2 name hname)
  obtain ⟨attributes, device', hlink⟩ : ∃ attributes device', link device source =
      (.ok ⟨id, ⟨(askAll (fun d name ↦ Device.uniformLocation d id name) created
        source.uniforms).1, attributes⟩, source.hash⟩, device') := by
    unfold link
    rw [hcreate]
    exact ⟨_, _, rfl⟩
  exact ⟨_, device', l, hlink, hl⟩

/-- Every command is told to some device. -/
theorem Observed.exists_told_submitAll {δ : Type} [Adjustable δ] [Device δ]
    {commands : List Command} {command : Command} (hcommand : command ∈ commands) (d : Observed δ) :
    ∃ device, (device, command) ∈ (Device.submitAll d commands).told := by
  induction commands using List.reverseRecOn with
  | nil => exact absurd hcommand List.not_mem_nil
  | append_singleton commands last ih =>
    rw [Device.submitAll_concat]
    rcases List.mem_append.mp hcommand with hbefore | hlast
    · obtain ⟨device, htold⟩ := ih hbefore
      exact ⟨device, List.mem_cons_of_mem _ htold⟩
    · rw [List.mem_singleton.mp hlast]
      exact ⟨_, List.mem_cons_self⟩

namespace Renderer

/-- A twin was added at the second attempt, and the device is ready to find the uniforms of any
program. -/
structure Late {δ : Type} [Adjustable δ] [Device δ] (r : Renderer (Observed δ)) : Prop where
  cache : r.cache = .new RendererConfig.standard.shaderOptions
  drawables : r.drawables.toList = [(⟨1⟩, .new (twin ⟨1⟩))]
  depth : ∀ d, r.depthKey? d = none
  buffers : ∃ b, r.buffers? ⟨7⟩ = some b
  links : ∀ k source name, synthesize RendererConfig.standard.shaderOptions k = .ok source →
    name ∈ source.uniforms → ∃ p device l, LinkedProgram.link r.device source = (.ok p, device) ∧
      p.bindings.uniform? name = some l

def lateOps : List Operation := [.addDrawable (twin ⟨1⟩), .addDrawable (twin ⟨1⟩)]

theorem exists_late_recorder : ∃ r : Renderer (Observed Recorder),
    Reached (.start .standard [⟨(none, false), true⟩]) .standard lateOps r ∧ r.Late := by
  obtain ⟨r, hreached, hcache, hdrawables, hdepth, hbuffers, hcreates⟩ :
      ∃ r : Renderer (Observed Recorder),
        Reached (.start .standard [⟨(none, false), true⟩]) .standard lateOps r ∧
          r.cache = .new RendererConfig.standard.shaderOptions ∧
          r.drawables.toList = [(⟨1⟩, .new (twin ⟨1⟩))] ∧ (∀ d, r.depthKey? d = none) ∧
          (∃ b, r.buffers? ⟨7⟩ = some b) ∧
          ∀ vertex fragment, ∃ id created, Device.createProgram r.device vertex fragment
            LinkedProgram.attributeSlots = (.ok id, created) ∧ created.turns = [] ∧
              created.device.programs.get? id =
                some (.ofText vertex fragment LinkedProgram.attributeSlots) :=
    ⟨_, .perform (.perform .new _ rfl) _ rfl, rfl, rfl, fun _ ↦ rfl, ⟨_, rfl⟩,
      fun _ _ ↦ ⟨_, _, rfl, rfl, rfl⟩⟩
  refine ⟨r, hreached, hcache, hdrawables, hdepth, hbuffers, fun k source name hsource hname ↦ ?_⟩
  obtain ⟨v, f, hstages, rfl⟩ := exists_stages_of_synthesize hsource
  obtain ⟨id, created, hcreate, hturns, hprogram⟩ := hcreates _ _
  refine LinkedProgram.exists_link_of_answers hcreate (p := fun d ↦ d.turns = [] ∧
    d.device.programs.get? id = some (.ofText _ _ LinkedProgram.attributeSlots))
    ⟨hturns, hprogram⟩ (fun d n hn hd ↦ ?_) hname
  obtain ⟨hturns, hprogram⟩ := hd
  have hready : d.ready = d.device := by rw [ready, hturns]
  refine ⟨?_, ?_, ?_⟩
  · show (d.ready.uniformLocation id n).isSome
    rw [hready, Recorder.isSome_uniformLocation hprogram, RecordedProgram.uniforms_ofText,
      uniformsOfText_ofLines hstages, List.mem_eraseDups, List.mem_append]
    obtain ⟨hv, hf⟩ := declaredNames_of_stages hstages .uniform
    rw [← hv, ← hf]
    exact List.mem_append.mp hn
  · show d.turns.tail = []
    rw [hturns]
    rfl
  · show d.ready.programs.get? id = _
    rw [hready, hprogram]

theorem exists_late_backend : ∃ r : Renderer (Observed Gl.Backend),
    Reached (.start (.new (.new 16 (640, 480))) [⟨id, true⟩]) .standard lateOps r ∧ r.Late := by
  obtain ⟨r, hreached, hcache, hdrawables, hdepth, hbuffers, hcreates⟩ :
      ∃ r : Renderer (Observed Gl.Backend),
        Reached (.start (.new (.new 16 (640, 480))) [⟨id, true⟩]) .standard lateOps r ∧
          r.cache = .new RendererConfig.standard.shaderOptions ∧
          r.drawables.toList = [(⟨1⟩, .new (twin ⟨1⟩))] ∧ (∀ d, r.depthKey? d = none) ∧
          (∃ b, r.buffers? ⟨7⟩ = some b) ∧
          ∀ vertex fragment, ∃ id created, Device.createProgram r.device vertex fragment
            LinkedProgram.attributeSlots = (.ok id, created) ∧ created.turns = [] ∧
              created.device.context.activeUniforms = none ∧
              (created.device.programs.get? id).isSome :=
    ⟨_, .perform (.perform .new _ rfl) _ rfl, rfl, rfl, fun _ ↦ rfl, ⟨_, rfl⟩,
      fun _ _ ↦ ⟨_, _, rfl, rfl, rfl, rfl⟩⟩
  refine ⟨r, hreached, hcache, hdrawables, hdepth, hbuffers, fun k source name hsource hname ↦ ?_⟩
  obtain ⟨id, created, hcreate, hturns, hactive, hprogram⟩ := hcreates _ _
  refine LinkedProgram.exists_link_of_answers hcreate (p := fun d ↦ d.turns = [] ∧
    d.device.context.activeUniforms = none ∧ (d.device.programs.get? id).isSome)
    ⟨hturns, hactive, hprogram⟩ (fun d n hn hd ↦ ?_) hname
  obtain ⟨hturns, hactive, hprogram⟩ := hd
  have hready : d.ready = d.device := by rw [ready, hturns]
  obtain ⟨hanswer, hactive', hprogram'⟩ := Gl.Backend.isSome_uniformLocation hactive hprogram n
  refine ⟨?_, ?_, ?_, ?_⟩
  · show (d.ready.uniformLocation id n).1.isSome
    rwa [hready]
  · show d.turns.tail = []
    rw [hturns]
    rfl
  · show (d.ready.uniformLocation id n).2.context.activeUniforms = none
    rwa [hready]
  · show ((d.ready.uniformLocation id n).2.programs.get? id).isSome
    rwa [hready]

theorem Late.visits {δ : Type} [Adjustable δ] [Device δ] {r : Renderer (Observed δ)} (hr : r.Late) :
    [⟨1⟩].Perm r.drawables.keys := by
  rw [Registry.keys, hr.drawables]
  exact .refl _

/-- When the twin is drawn, the device is told the matrix of the camera. -/
theorem Late.exists_upload {δ : Type} [Adjustable δ] [Device δ] {r : Renderer (Observed δ)}
    (hr : r.Late) : ∃ report rendered, r.renderIn [⟨1⟩] [⟨1⟩] = .ok (report, rendered) ∧
      ∃ later device l value earlier,
        rendered.device.told = later ++ (device, .setUniform l value) :: earlier := by
  have hget : r.drawables.get? ⟨1⟩ = some (.new (twin ⟨1⟩)) := by
    rw [Registry.get?_eq_some_iff, hr.drawables]
    exact List.mem_singleton_self _
  have hoptions : r.cache.options = RendererConfig.standard.shaderOptions := by
    rw [hr.cache]
    rfl
  obtain ⟨b, hb⟩ := hr.buffers
  obtain ⟨source, hsource⟩ := synthesize_ok (show r.cache.options.kernelRadius ≤ _ by
    rw [hoptions]; decide) (r.drawKey (twin ⟨1⟩))
  have hdeclares : DeclaresUniform r.cache.options (r.drawKey (twin ⟨1⟩)) Name.viewMatrix.text := by
    obtain ⟨v, f, hstages, _⟩ := exists_stages_of_synthesize hsource
    exact declaresUniform_of_mem_vertexRecords hstages (viewMatrix_mem_vertex _ _) rfl
  obtain ⟨p, device, l, hlink, hl⟩ := hr.links _ source _ (hoptions ▸ hsource)
    (hdeclares.mem_uniforms hsource)
  have hfind : r.cache.find? (r.drawKey (twin ⟨1⟩)) = none := by
    rw [hr.cache]
    rfl
  obtain ⟨failures, hcompile⟩ := compileDrawable_new hget hfind (hr.depth _) hsource hlink
  let e : CacheEntry := ⟨r.drawKey (twin ⟨1⟩), source, p, 1⟩
  let h : ProgramHandle := (r.cache.store e).1
  have hentry : ProgramCache.entry? (r.cache.store e).2 h = some e := by
    simp only [h, hr.cache]
    rfl
  let s : DrawableState := ⟨twin ⟨1⟩, ⟨some h, none⟩, .empty, false⟩
  let compiled : Renderer (Observed δ) := { r with
    cache := (r.cache.store e).2
    device
    drawables := r.drawables.insert ⟨1⟩ s }
  have hstate : compiled.drawables.get? ⟨1⟩ = some s := by
    rw [Registry.get?_insert, if_pos rfl]
  let d : ReadyDraw :=
    ⟨h, p, r.featuresOf (twin ⟨1⟩), s.drawable.material, s.drawable.transform,
      s.drawable.geometry.id, b⟩
  have hresolve : (compiled.entryOf ⟨1⟩ s).resolve compiled.cache = .ok d :=
    DrawEntry.resolve_eq_ok rfl hentry rfl hb
  have hbatch : compiled.batchIn [⟨1⟩] = [.ok d] := by
    simp [batchIn, hstate, sortByKey, hresolve]
  have hset : .setUniform l (.mat4 compiled.globals.camera.view) ∈ (compiled.frameIn [⟨1⟩]).1 := by
    have hupload : .setUniform l (.mat4 compiled.globals.camera.view) ∈
        p.bindings.uploadAll (compiled.globals.uploads d.features).1 :=
      ProgramBindings.setUniform_mem_uploadAll (by simp [FrameGlobals.uploads]) hl
    have hpass : .setUniform l (.mat4 compiled.globals.camera.view) ∈ compiled.mainPass [⟨1⟩] := by
      rw [mainPass, hbatch]
      simp only [DrawState.drawAll, DrawState.draw, DrawState.bindProgram, DrawState.start,
        List.append_assoc]
      exact List.mem_append_left _ (List.mem_cons_of_mem _ hupload)
    exact frameIn_eq compiled [⟨1⟩] ▸ List.mem_append_right _ hpass
  have hcompiled : ∃ failures, r.compileIn [⟨1⟩] = .ok (failures, compiled) :=
    ⟨_, compileIn_cons_eq hcompile rfl⟩
  obtain ⟨failures, hcompiled⟩ := hcompiled
  obtain ⟨told, htold⟩ := exists_told_submitAll hset compiled.device
  obtain ⟨later, earlier, hsplit⟩ := List.append_of_mem htold
  refine ⟨_, _, by rw [renderIn, hcompiled]; rfl, later, told, l, _, earlier, hsplit⟩

/-- No upload is lost, neither on a recording device nor on one with a context, whatever they refuse
in between. Whenever a renderer sets a uniform, it is one of the program that was made current last.
The device that is told so has this program, with a uniform at this place, and the device with a
context hands the value on. -/
theorem reached_uploaded (config : RendererConfig) (ops : List Operation)
    (order : List DrawableId) :
    (∀ (first : Recorder) (turns : List (Turn Recorder)) (r : Renderer (Observed Recorder)),
      Reached (.start first turns) config ops r →
        ∀ told ∈ [r.device.told, (r.destroyIn order).told],
          Uploaded (fun device l ↦ ∃ program, device.programs.get? l.program = some program ∧
            l.slot.toNat < program.uniforms.length) told) ∧
    ∀ (first : Gl.Backend) (turns : List (Turn Gl.Backend)) (r : Renderer (Observed Gl.Backend)),
      Reached (.start first turns) config ops r →
        ∀ told ∈ [r.device.told, (r.destroyIn order).told],
          Uploaded (fun device l ↦ device.current = some l.program ∧
            ∃ program location, device.programs.get? l.program = some program ∧
              program.locations[l.slot.toNat]? = some location ∧
              ∀ value, device.submit (.setUniform l value) =
                device.logAll [Gl.uniformCall location.2 value]) told := by
  refine ⟨fun first turns r hreached told htold ↦ ?_, fun first turns r hreached told htold ↦ ?_⟩
  · have hall : Uploaded (fun device l ↦ device.Alive l.program ∧ device.Knows l ∧ True) told := by
      rw [List.mem_pair] at htold
      rcases htold with rfl | rfl
      · exact (hreached.uploading Recorder.bindsSteadily).uploaded
      · exact hreached.uploaded_destroyIn Recorder.bindsSteadily order
    intro later device l value earlier heq
    obtain ⟨hused, _, ⟨_, hknows⟩, _⟩ := hall later device l value earlier heq
    exact ⟨hused, hknows⟩
  · have hall : Uploaded (fun device l ↦ device.Alive l.program ∧ device.Knows l ∧
        device.Bound l.program) told := by
      rw [List.mem_pair] at htold
      rcases htold with rfl | rfl
      · exact (hreached.uploading Gl.Backend.bindsSteadily).uploaded
      · exact hreached.uploaded_destroyIn Gl.Backend.bindsSteadily order
    intro later device l value earlier heq
    obtain ⟨hused, _, hknows, hbound⟩ := hall later device l value earlier heq
    exact ⟨hused, hbound, Gl.Backend.submit_setUniform hbound hknows⟩

theorem reached_uploaded_late :
    (∃ rendered : Renderer (Observed Recorder),
      Reached (.start .standard [⟨(none, false), true⟩]) .standard (.render :: lateOps) rendered ∧
        ∃ later device l value earlier,
          rendered.device.told = later ++ (device, .setUniform l value) :: earlier ∧
            lastUsed earlier = some l.program ∧ ∃ program,
              device.programs.get? l.program = some program ∧
                l.slot.toNat < program.uniforms.length) ∧
    ∃ rendered : Renderer (Observed Gl.Backend),
      Reached (.start (.new (.new 16 (640, 480))) [⟨id, true⟩]) .standard (.render :: lateOps)
        rendered ∧
        ∃ later device l value earlier,
          rendered.device.told = later ++ (device, .setUniform l value) :: earlier ∧
            lastUsed earlier = some l.program ∧ device.current = some l.program ∧
              ∃ program location, device.programs.get? l.program = some program ∧
                program.locations[l.slot.toNat]? = some location ∧
                ∀ value, device.submit (.setUniform l value) =
                  device.logAll [Gl.uniformCall location.2 value] := by
  obtain ⟨hrecorder, hbackend⟩ := reached_uploaded .standard (.render :: lateOps) [⟨1⟩]
  refine ⟨?_, ?_⟩
  · obtain ⟨r, hreached, hlate⟩ := exists_late_recorder
    obtain ⟨_, rendered, hrender, later, device, l, value, earlier, htold⟩ := hlate.exists_upload
    have hrendered := hreached.render hlate.visits hlate.visits hrender
    exact ⟨rendered, hrendered, later, device, l, value, earlier, htold,
      hrecorder _ _ rendered hrendered _ List.mem_cons_self later device l value earlier htold⟩
  · obtain ⟨r, hreached, hlate⟩ := exists_late_backend
    obtain ⟨_, rendered, hrender, later, device, l, value, earlier, htold⟩ := hlate.exists_upload
    have hrendered := hreached.render hlate.visits hlate.visits hrender
    exact ⟨rendered, hrendered, later, device, l, value, earlier, htold,
      hbackend _ _ rendered hrendered _ List.mem_cons_self later device l value earlier htold⟩

end Renderer

end SceneRenderer
