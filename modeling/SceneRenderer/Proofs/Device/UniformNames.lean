import SceneRenderer.Proofs.Device.NumberedObjects
import SceneRenderer.Proofs.Frame.Levels

/-!
What a linked program relies on of a device: a place belongs to one uniform, and asking for another
uniform does not give it away. A place is a number of 32 bits, so this is asked only for programs
with no more uniforms than that tells apart. Such a program has a place of its own for each of its
uniforms (`NamesUniforms.distinct_link`).
-/

set_option autoImplicit false
set_option relaxedAutoImplicit false

namespace SceneRenderer

open Shader

variable {δ : Type} [Device δ] {nameOf : δ → UniformLocation → Option String}

/-- A device that created a program from its texts, and then was asked for uniforms that these
declare. -/
inductive Questioned (vertex fragment : String) (program : ProgramId) : δ → Prop
  | created {device device' : δ} {attributes : List (String × UInt32)}
    (hcreate : Device.createProgram device vertex fragment attributes = (.ok program, device')) :
    Questioned vertex fragment program device'
  | asked {device : δ} {name : String} (hdevice : Questioned vertex fragment program device)
    (hname : name ∈ uniformsOfText vertex fragment) :
    Questioned vertex fragment program (Device.uniformLocation device program name).2

/-- The names of the places of a device. -/
structure NamesUniforms (nameOf : δ → UniformLocation → Option String) : Prop where
  /-- The place that is answered for a name has that name, as long as places tell all uniforms of
  the program apart. -/
  answer : ∀ {vertex fragment : String} {program : ProgramId} {device : δ},
    Questioned vertex fragment program device →
    (uniformsOfText vertex fragment).length ≤ UInt32.size →
    ∀ name ∈ uniformsOfText vertex fragment, ∀ location device',
      Device.uniformLocation device program name = (some location, device') →
        nameOf device' location = some name
  /-- A further question leaves the places as they are. -/
  kept : ∀ (device : δ) program name location name', nameOf device location = some name' →
    nameOf (Device.uniformLocation device program name).2 location = some name'

/-- The answers to questions about names are the places of these names. -/
theorem NamesUniforms.askAll (hdevice : NamesUniforms nameOf) {vertex fragment : String}
    {program : ProgramId} {device : δ} (hcreated : Questioned vertex fragment program device)
    (hsize : (uniformsOfText vertex fragment).length ≤ UInt32.size) {names : List String}
    (hnames : names ⊆ uniformsOfText vertex fragment) {name : String} {location : UniformLocation}
    (hlocation : (LinkedProgram.askAll (fun d name ↦ Device.uniformLocation d program name) device
      names).1.get? name = some location) :
    nameOf (LinkedProgram.askAll (fun d name ↦ Device.uniformLocation d program name) device
      names).2 location = some name := by
  rw [LinkedProgram.askAll_eq_foldl] at hlocation ⊢
  refine (List.foldlRecOn (motive := fun s : Registry String UniformLocation × δ ↦
    Questioned vertex fragment program s.2 ∧
      ∀ name location, s.1.get? name = some location → nameOf s.2 location = some name)
    names _ ⟨hcreated, fun name location hnone ↦ by cases hnone⟩ ?_).2 name location hlocation
  rintro s ⟨hquestioned, hs⟩ next hnext
  have hdeclared := hnames hnext
  rw [LinkedProgram.snd_askOne]
  refine ⟨.asked hquestioned hdeclared, fun name location hget ↦ ?_⟩
  have hbefore (hold : s.1.get? name = some location) :
      nameOf (Device.uniformLocation s.2 program next).2 location = some name :=
    hdevice.kept s.2 program next location name (hs name location hold)
  rw [LinkedProgram.get?_askOne] at hget
  split at hget
  · rename_i hname
    rcases Option.or_eq_some_iff.mp hget with hnow | ⟨_, hold⟩
    · rw [hname]
      exact hdevice.answer hquestioned hsize next hdeclared location _ (Prod.ext hnow rfl)
    · exact hbefore hold
  · exact hbefore hget

/-- A linked program keeps its uniforms apart. -/
theorem NamesUniforms.distinct_link (hdevice : NamesUniforms nameOf) {device device' : δ}
    {source : ProgramSource} {p : LinkedProgram}
    (hlink : LinkedProgram.link device source = (.ok p, device'))
    (hdeclared : source.uniforms ⊆
      uniformsOfText (source.stageText .vertex) (source.stageText .fragment))
    (hsize : (uniformsOfText (source.stageText .vertex) (source.stageText .fragment)).length ≤
      UInt32.size) : p.bindings.Distinct := by
  unfold LinkedProgram.link at hlink
  split at hlink
  · exact absurd (Prod.mk.inj hlink).1 nofun
  · rename_i id created hcreated
    obtain ⟨hp, _⟩ := Prod.mk.inj hlink
    cases hp
    intro name name' location hname hname'
    exact Option.some.inj ((hdevice.askAll (.created hcreated) hsize hdeclared hname).symm.trans
      (hdevice.askAll (.created hcreated) hsize hdeclared hname'))

omit [Device δ] in
/-- Questions that leave the device as it is are answered as if each was asked alone. -/
theorem LinkedProgram.get?_askAll {κ ν : Type} [DecidableEq κ] {ask : δ → κ → Option ν × δ}
    {device : δ} (hkept : ∀ k, (ask device k).2 = device) {keys : List κ} {k : κ} (hk : k ∈ keys) :
    (LinkedProgram.askAll ask device keys).1.get? k = (ask device k).1 := by
  suffices hfold : ∀ s : Registry κ ν × δ, s.2 = device →
      (keys.foldl (LinkedProgram.askOne ask) s).1.get? k =
        (if k ∈ keys then (ask device k).1 else none).or (s.1.get? k) by
    rw [LinkedProgram.askAll_eq_foldl, hfold _ rfl, if_pos hk]
    exact Option.or_none
  clear hk
  induction keys with
  | nil => exact fun _ _ ↦ rfl
  | cons next rest ih =>
    intro s hs
    rw [List.foldl_cons, ih _ (by rw [LinkedProgram.snd_askOne, hs, hkept]),
      LinkedProgram.get?_askOne, hs]
    by_cases heq : k = next
    · rw [heq, if_pos rfl, if_pos List.mem_cons_self]
      -- A key that is asked about twice has the same answer again.
      split
      · rw [← Option.or_assoc, Option.or_self]
      · rfl
    · simp only [List.mem_cons, heq, false_or, if_false]

@[simp]
theorem RecordedProgram.uniforms_ofText (vertex fragment : String)
    (attributes : List (String × UInt32)) :
    (ofText vertex fragment attributes).uniforms = uniformsOfText vertex fragment :=
  rfl

/-- A program that was created reads the uniforms of its text. -/
theorem Recorder.programs_createProgram {r r' : Recorder} {vertex fragment : String}
    {attributes : List (String × UInt32)} {id : ProgramId}
    (hcreate : r.createProgram vertex fragment attributes = (.ok id, r')) :
    r'.programs.get? id = some (.ofText vertex fragment attributes) := by
  unfold Recorder.createProgram at hcreate
  split at hcreate
  · cases (Prod.mk.inj hcreate).1
  · cases (Prod.mk.inj hcreate).1
  · split at hcreate
    · cases (Prod.mk.inj hcreate).1
    · obtain ⟨hid, rfl⟩ := Prod.mk.inj hcreate
      cases hid
      rw [Registry.get?_insert, if_pos rfl]

namespace Recorder

variable {r : Recorder} {id : ProgramId} {program : RecordedProgram} {name : String}

theorem uniformLocation_eq (hprogram : r.programs.get? id = some program) :
    r.uniformLocation id name =
      (program.uniforms.findIdx? (· == name)).map fun slot ↦ ⟨id, UInt32.ofNat slot⟩ := by
  rw [uniformLocation, hprogram, Option.map_eq_bind]
  rfl

theorem isSome_uniformLocation (hprogram : r.programs.get? id = some program) :
    (r.uniformLocation id name).isSome ↔ name ∈ program.uniforms := by
  simp [uniformLocation_eq hprogram]

theorem uniformLocation_congr {r' : Recorder} (hkept : r'.programs.get? id = r.programs.get? id) :
    r'.uniformLocation id name = r.uniformLocation id name := by
  unfold uniformLocation
  rw [hkept]

/-- A place of 32 bits has the name that stands at its position. -/
theorem uniformName_of_findIdx? (hprogram : r.programs.get? id = some program) {slot : Nat}
    (hslot : program.uniforms.findIdx? (· == name) = some slot) (hsize : slot < UInt32.size) :
    r.uniformName ⟨id, UInt32.ofNat slot⟩ = name := by
  obtain ⟨hbound, hfound, _⟩ := List.findIdx?_eq_some_iff_getElem.mp hslot
  unfold uniformName
  rw [hprogram, UInt32.toNat_ofNat_of_lt' hsize]
  simpa [List.getElem?_eq_getElem hbound] using hfound

/-- As long as 32 bits tell the uniforms of a program apart, a place has the name that it was asked
for by. -/
theorem uniformName_uniformLocation (hprogram : r.programs.get? id = some program)
    (hsize : program.uniforms.length ≤ UInt32.size) {location : UniformLocation}
    (hlocation : r.uniformLocation id name = some location) :
    location.program = id ∧ r.uniformName location = name := by
  rw [uniformLocation_eq hprogram] at hlocation
  obtain ⟨slot, hslot, rfl⟩ := Option.map_eq_some_iff.mp hlocation
  obtain ⟨hbound, _⟩ := List.findIdx?_eq_some_iff_getElem.mp hslot
  exact ⟨rfl, uniformName_of_findIdx? hprogram hslot (Nat.lt_of_lt_of_le hbound hsize)⟩

/-- The recorder keeps a program as long as it is asked about it. -/
theorem programs_of_questioned {vertex fragment : String}
    (hr : Questioned vertex fragment id r) :
    ∃ attributes, r.programs.get? id = some (.ofText vertex fragment attributes) := by
  induction hr with
  | created hcreate => exact ⟨_, programs_createProgram hcreate⟩
  | asked _ _ ih => exact ih

theorem namesUniforms :
    NamesUniforms fun (r : Recorder) location ↦ some (r.uniformName location) where
  answer hquestioned hsize name _ location r' hanswer := by
    obtain ⟨attributes, hprogram⟩ := programs_of_questioned hquestioned
    obtain ⟨hlocation, rfl⟩ := Prod.mk.inj hanswer
    exact congrArg some (uniformName_uniformLocation hprogram hsize hlocation).2
  kept _ _ _ _ _ hname := hname

end Recorder

end SceneRenderer
