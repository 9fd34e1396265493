import SceneRenderer.Proofs.Device.UniformNames
import SceneRenderer.Proofs.Program.BuiltPrograms
import SceneRenderer.Proofs.Shader.PlainLines

/-!
What the recording device reports of a program. It reads the texts of the program itself, so that
its answers about names are right only as far as the lines of a program are read back as they were
written.

The main result is `reports_declared`.
-/

set_option autoImplicit false
set_option relaxedAutoImplicit false

namespace SceneRenderer

open Shader

/-! ### Programs read from texts -/

/-- An attribute has the slot that all programs give it. -/
theorem RecordedProgram.get?_attributes (vertex fragment : String) (a : VertexAttribute) :
    (ofText vertex fragment LinkedProgram.attributeSlots).attributes.get? (vertexAttributeName a) =
      if vertexAttributeName a ∈ declaredNames .perVertex (splitLines vertex) then some a.slot
      else none := by
  have hslot : LinkedProgram.attributeSlots.find? (·.1 == vertexAttributeName a) =
      some (vertexAttributeName a, a.slot) := by
    cases a <;> decide
  have honly : ∀ e ∈ LinkedProgram.attributeSlots, e.1 = vertexAttributeName a → e.2 = a.slot := by
    cases a <;> decide
  rw [ofText, Registry.get?_ofList]
  split
  · rename_i hname
    rcases hfind : List.find? _ _ with _ | e
    · have hentry := List.find?_eq_none.mp hfind (vertexAttributeName a, a.slot)
        (List.mem_reverse.mpr (List.mem_filterMap.mpr ⟨_, hname, hslot⟩))
      simp at hentry
    · obtain ⟨name, _, hfound⟩ :=
        List.mem_filterMap.mp (List.mem_reverse.mp (List.mem_of_find?_eq_some hfind))
      have hkey : e.1 = vertexAttributeName a := by simpa using List.find?_some hfind
      rw [Option.map_some, honly e (List.mem_of_find?_eq_some hfound) hkey]
  · rename_i hname
    rw [Option.map_eq_none_iff, List.find?_eq_none]
    intro e he hkey
    obtain ⟨name, hdeclared, hfound⟩ := List.mem_filterMap.mp (List.mem_reverse.mp he)
    have hown : e.1 = name := by simpa using List.find?_some hfound
    obtain rfl : vertexAttributeName a = name := (of_decide_eq_true hkey).symm.trans hown
    exact hname hdeclared

section Stages

variable {o : ShaderOptions} {k : ProgramKey} {v f : Stage}

/-- The texts of a program are read as its stages were declared. -/
theorem uniformsOfText_ofLines (hstages : stages o k = .ok (v, f)) :
    uniformsOfText ((ProgramSource.ofLines v.lines f.lines).stageText .vertex)
      ((ProgramSource.ofLines v.lines f.lines).stageText .fragment) =
        (v.declared .uniform ++ f.declared .uniform).eraseDups := by
  obtain ⟨hvertex, hfragment⟩ := splitLines_ofLines hstages
  obtain ⟨hv, hf⟩ := declaredNames_of_stages hstages .uniform
  rw [uniformsOfText, hvertex, hfragment, hv, hf]

/-- The texts of a source declare the uniforms that linking asks for. -/
theorem uniformsOfText_of_synthesize {source : ProgramSource}
    (hsource : synthesize o k = .ok source) :
    uniformsOfText (source.stageText .vertex) (source.stageText .fragment) =
      source.uniforms.eraseDups := by
  obtain ⟨v, f, hstages, rfl⟩ := exists_stages_of_synthesize hsource
  rw [uniformsOfText_ofLines hstages, uniforms_ofLines hstages]

end Stages

/-! ### Linked programs -/

/-- Places of 32 bits tell the uniforms of every program of a cache apart. -/
def ProgramCache.UniformsFit (c : ProgramCache) : Prop :=
  ∀ h e, c.entry? h = some e → e.source.uniforms.eraseDups.length ≤ UInt32.size

/-- A program with no more uniforms than places has a place of its own for each of them. -/
theorem CacheEntry.Built.distinct {δ : Type} [Device δ]
    {nameOf : δ → UniformLocation → Option String} (hdevice : NamesUniforms nameOf)
    {o : ShaderOptions} {e : CacheEntry} (he : e.Built δ o)
    (hsize : e.source.uniforms.eraseDups.length ≤ UInt32.size) : e.program.bindings.Distinct := by
  obtain ⟨hsource, device, device', hlink⟩ := he
  rw [← uniformsOfText_of_synthesize hsource] at hsize
  refine hdevice.distinct_link hlink (fun name hname ↦ ?_) hsize
  rw [uniformsOfText_of_synthesize hsource]
  exact List.mem_eraseDups.mpr hname

/-- On the recording device linking creates a program and asks it for the names of the source. -/
theorem Recorder.createProgram_of_link {r r' : Recorder} {source : ProgramSource}
    {p : LinkedProgram} (hlink : LinkedProgram.link r source = (.ok p, r')) :
    r.createProgram (source.stageText .vertex) (source.stageText .fragment)
        LinkedProgram.attributeSlots = (.ok p.id, r') ∧
      ∀ name ∈ source.uniforms, p.bindings.uniform? name = r'.uniformLocation p.id name := by
  rcases hcreated : r.createProgram (source.stageText .vertex) (source.stageText .fragment)
    LinkedProgram.attributeSlots with ⟨e | id, created⟩
  · unfold LinkedProgram.link at hlink
    rw [show Device.createProgram r _ _ _ = _ from hcreated] at hlink
    cases (Prod.mk.inj hlink).1
  · have hanswers : ∃ attributes, LinkedProgram.link r source = (.ok ⟨id, ⟨(LinkedProgram.askAll
        (fun (d : Recorder) name ↦ Device.uniformLocation d id name) created source.uniforms).1,
          attributes⟩, source.hash⟩, created) := by
      unfold LinkedProgram.link
      rw [show Device.createProgram r _ _ _ = _ from hcreated]
      exact ⟨_, Prod.ext rfl ((LinkedProgram.snd_askAll (fun _ _ ↦ rfl) _ _).trans
        (LinkedProgram.snd_askAll (fun _ _ ↦ rfl) _ _))⟩
    obtain ⟨attributes, hanswers⟩ := hanswers
    rw [hanswers] at hlink
    obtain ⟨hp, rfl⟩ := Prod.mk.inj hlink
    cases hp
    exact ⟨rfl, fun name hname ↦ LinkedProgram.get?_askAll (fun _ ↦ rfl) hname⟩

/-- The recording device has a place for every uniform of a program. -/
theorem CacheEntry.Built.exists_location {o : ShaderOptions} {e : CacheEntry}
    (he : e.Built Recorder o) {name : String} (hname : name ∈ e.source.uniforms) :
    ∃ location, e.program.bindings.uniform? name = some location := by
  obtain ⟨hsource, device, device', hlink⟩ := he
  obtain ⟨hcreate, hplaces⟩ := Recorder.createProgram_of_link hlink
  rw [hplaces name hname, ← Option.isSome_iff_exists,
    Recorder.isSome_uniformLocation (Recorder.programs_createProgram hcreate),
    RecordedProgram.uniforms_ofText, uniformsOfText_of_synthesize hsource]
  exact List.mem_eraseDups.mpr hname

/-- A cache of acquired programs gets the program of any key that it does not have. -/
theorem ProgramCache.Acquired.exists_store {c : ProgramCache} (hc : Acquired Recorder .standard c)
    {k : ProgramKey} (hfind : c.find? k = none) :
    ∃ e : CacheEntry, e.key = k ∧ Acquired Recorder .standard (c.store e).2 := by
  obtain ⟨source, hsource⟩ := synthesize_ok (o := .standard) (by decide) k
  obtain ⟨program, device, hlink, _⟩ :=
    (Recorder.supplies_standard (n := 1) (by decide)).exists_link source
  let e : CacheEntry := ⟨k, source, program, 1⟩
  have hacquire : c.acquire Recorder.standard k =
      .ok (.ok (c.store e).1, (c.store e).2, device) := by
    rw [ProgramCache.acquire, acquireWith_miss hfind (hc.built.1 ▸ hsource), hlink]
  exact ⟨e, rfl, hc.acquire hacquire⟩

theorem ProgramCache.exists_acquired (k : ProgramKey) : ∃ c h e, Acquired Recorder .standard c ∧
    c.entry? h = some e ∧ e.key = k := by
  obtain ⟨e, hkey, hc⟩ := Acquired.new.exists_store (k := k) rfl
  exact ⟨_, ⟨0, 0⟩, e, hc, rfl, hkey⟩

/-- A cache can have the programs of two keys at once. -/
theorem ProgramCache.exists_acquired_pair {k k' : ProgramKey} (hkeys : k' ≠ k) :
    ∃ c h e h' e', Acquired Recorder .standard c ∧ c.entry? h = some e ∧ e.key = k ∧
      c.entry? h' = some e' ∧ e'.key = k' := by
  obtain ⟨e, rfl, hc⟩ := Acquired.new.exists_store (k := k) rfl
  have hfind : ((new .standard).store e).2.find? k' = none := by
    show ((Registry.empty.insert e.key 0).get? k').bind _ = none
    rw [Registry.get?_insert, if_neg hkeys]
    rfl
  obtain ⟨e', hkey', hc'⟩ := hc.exists_store hfind
  exact ⟨_, ⟨0, 0⟩, e, ⟨1, 0⟩, e', hc', rfl, rfl, rfl, hkey'⟩

/-! ### Declared names -/

/-- A device reports the uniforms and attributes that the stages of a program declare, and no
others. -/
structure Recorder.Reports (r : Recorder) (id : ProgramId) (v f : Stage) : Prop where
  uniforms : ∀ name, (r.uniformLocation id name).isSome ↔
    name ∈ v.declared .uniform ++ f.declared .uniform
  attributes : ∀ a, r.attributeLocation id (vertexAttributeName a) =
    if vertexAttributeName a ∈ v.declared .perVertex then some a.slot else none

/-- A program sets the uniforms that its stages declare, each by its name, and no others. -/
def LinkedProgram.SetsDeclared (p : LinkedProgram) (r : Recorder) (v f : Stage) : Prop :=
  ∀ name value, (Device.submitAll r (p.bindings.set name value)).records = r.records ++
    if name ∈ v.declared .uniform ++ f.declared .uniform then [.setUniform p.id name value] else []

section Program

variable {o : ShaderOptions} {k : ProgramKey} {v f : Stage} {r r' : Recorder}

theorem Recorder.reports_of_createProgram (hstages : stages o k = .ok (v, f)) {id : ProgramId}
    (hcreate : r.createProgram ((ProgramSource.ofLines v.lines f.lines).stageText .vertex)
      ((ProgramSource.ofLines v.lines f.lines).stageText .fragment) LinkedProgram.attributeSlots =
        (.ok id, r')) : r'.Reports id v f where
  uniforms name := by
    rw [isSome_uniformLocation (programs_createProgram hcreate), RecordedProgram.uniforms_ofText,
      uniformsOfText_ofLines hstages, List.mem_eraseDups]
  attributes a := by
    rw [attributeLocation, programs_createProgram hcreate, Option.bind_some,
      RecordedProgram.get?_attributes, (splitLines_ofLines hstages).1,
      (declaredNames_of_stages hstages .perVertex).1]

/-- A program that was linked sets what its stages declare, as long as the device has it. -/
theorem LinkedProgram.setsDeclared_of_link (hstages : stages o k = .ok (v, f)) {p : LinkedProgram}
    (hlink : LinkedProgram.link r (.ofLines v.lines f.lines) = (.ok p, r'))
    (hsize : (v.declared .uniform ++ f.declared .uniform).eraseDups.length ≤ UInt32.size)
    {device : Recorder} (hkept : device.programs.get? p.id = r'.programs.get? p.id) :
    p.SetsDeclared device v f := by
  obtain ⟨hcreate, hplaces⟩ := Recorder.createProgram_of_link hlink
  have hprogram := Recorder.programs_createProgram hcreate
  have hreports := Recorder.reports_of_createProgram hstages hcreate
  intro name value
  rw [uniforms_ofLines hstages] at hplaces
  split
  · rename_i hname
    obtain ⟨location, hlocation⟩ := Option.isSome_iff_exists.mp ((hreports.uniforms name).mpr hname)
    have hasked : device.uniformLocation p.id name = some location :=
      (Recorder.uniformLocation_congr hkept).trans hlocation
    rw [← uniformsOfText_ofLines hstages,
      ← RecordedProgram.uniforms_ofText _ _ LinkedProgram.attributeSlots] at hsize
    obtain ⟨howner, hnamed⟩ :=
      Recorder.uniformName_uniformLocation (hkept.trans hprogram) hsize hasked
    have hset : p.bindings.set name value = [.setUniform location value] := by
      rw [ProgramBindings.set, hplaces name hname, hlocation]
    rw [hset]
    show (device.push (.setUniform location.program (device.uniformName location) value)).records =
      _
    rw [howner, hnamed, Recorder.records, Recorder.push, List.reverse_cons]
    rfl
  · rename_i hname
    have hset : p.bindings.set name value = [] := by
      rcases hplace : p.bindings.uniform? name with _ | location
      · rw [ProgramBindings.set, hplace]
      · refine absurd ?_ hname
        rw [← uniforms_ofLines hstages]
        exact LinkedProgram.mem_uniforms_of_link hlink hplace
    rw [hset, List.append_nil]
    rfl

end Program

/-- The names that linking reads from the source of a program are those that its stages declare; the
recording device reports these names and sets their uniforms, and no others. A place is a number of
32 bits, and so many uniforms can be told apart. -/
theorem reports_declared (k : ProgramKey) {o : ShaderOptions}
    (ho : o.kernelRadius ≤ maxKernelRadius) :
    ∃ v f source, stages o k = .ok (v, f) ∧ synthesize o k = .ok source ∧
      source.uniforms = v.declared .uniform ++ f.declared .uniform ∧
      (∀ (r r' : Recorder) id,
        r.createProgram (source.stageText .vertex) (source.stageText .fragment)
          LinkedProgram.attributeSlots = (.ok id, r') → r'.Reports id v f) ∧
      ∀ (r r' : Recorder) p, LinkedProgram.link r source = (.ok p, r') →
        source.uniforms.eraseDups.length ≤ UInt32.size →
        ∀ device : Recorder, device.programs.get? p.id = r'.programs.get? p.id →
          p.SetsDeclared device v f := by
  obtain ⟨source, hsource⟩ := synthesize_ok ho k
  obtain ⟨v, f, hstages, rfl⟩ := exists_stages_of_synthesize hsource
  refine ⟨v, f, _, hstages, hsource, uniforms_ofLines hstages, fun _ _ _ hcreate ↦
    Recorder.reports_of_createProgram hstages hcreate, fun _ _ _ hlink hsize _ hkept ↦ ?_⟩
  rw [uniforms_ofLines hstages] at hsize
  exact LinkedProgram.setsDeclared_of_link hstages hlink hsize hkept

/-- The program for the shadow maps of plain geometries reads the three matrices of its vertex
stage. -/
theorem reports_declared_depth :
    ShaderOptions.standard.kernelRadius ≤ maxKernelRadius ∧
      ∃ v f source p r', stages .standard (.shadowDepth ⟨false, .none, false, false⟩) = .ok (v, f) ∧
        v.declared .uniform = ["modelMatrix", "viewMatrix", "projMatrix"] ∧
        f.declared .uniform = [] ∧ source.uniforms.eraseDups.length ≤ UInt32.size ∧
        LinkedProgram.link Recorder.standard source = (.ok p, r') ∧
        r'.Reports p.id v f ∧ p.SetsDeclared r' v f := by
  have ho : ShaderOptions.standard.kernelRadius ≤ maxKernelRadius := by decide
  obtain ⟨v, f, source, hstages, _, huniforms, hreports, hsets⟩ :=
    reports_declared (.shadowDepth ⟨false, .none, false, false⟩) ho
  obtain ⟨hv, hf⟩ := depthStages_eq hstages
  have hvertex : v.declared .uniform = ["modelMatrix", "viewMatrix", "projMatrix"] :=
    Stage.declared_of_run (by decide) hv
  have hfragment : f.declared .uniform = [] := Stage.declared_of_run (by decide) hf
  have hsize : source.uniforms.eraseDups.length ≤ UInt32.size := by
    rw [huniforms, hvertex, hfragment]
    decide
  obtain ⟨p, r', hlink, _⟩ := (Recorder.supplies_standard (n := 1) (by decide)).exists_link source
  exact ⟨ho, v, f, source, p, r', hstages, hvertex, hfragment, hsize, hlink,
    hreports _ _ _ (Recorder.createProgram_of_link hlink).1, hsets _ _ _ hlink hsize _ rfl⟩

end SceneRenderer
