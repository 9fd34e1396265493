import Mathlib.Data.List.Forall2
import SceneRenderer.Proofs.Frame.Levels
import SceneRenderer.Proofs.Frame.StateDiffing

/-!
Every draw of the main pass finds what it uploads. Making a program current forgets all that was set
before, so that a register which the draws of another program filled counts as unset; a draw that
finds a value in the state since then finds one that was uploaded for its own program.

The parts of a setup that a draw skips were set since its program was made current, and nothing
after them has touched their places; so the state since then holds a value of the draw for each of
its uniforms.
-/

set_option autoImplicit false
set_option relaxedAutoImplicit false

namespace SceneRenderer

open Shader

namespace GpuState

/-- Nothing was set. -/
def empty : GpuState := fun _ ↦ none

/-- The state after a command; making a program current starts from nothing. -/
def renew (s : GpuState) (c : Command) : GpuState :=
  if c.isUse then empty.after [c] else s.after [c]

/-- What is set after commands since the program in use was made current. -/
def since (s : GpuState) (commands : List Command) : GpuState := commands.foldl renew s

/-- The draws among commands, each with what was set since the program in use was made current. -/
def observeSince (s : GpuState) : List Command → List (Command × GpuState)
  | [] => []
  | c :: rest =>
    if c.isDraw then (c, s) :: observeSince (s.renew c) rest else observeSince (s.renew c) rest

variable (s : GpuState)

theorem since_append (commands rest : List Command) :
    s.since (commands ++ rest) = (s.since commands).since rest :=
  List.foldl_append

/-- Settings add to what is set. -/
theorem since_of_isSetting {commands : List Command} (hset : ∀ c ∈ commands, c.isSetting) :
    s.since commands = s.after commands := by
  induction commands generalizing s with
  | nil => rfl
  | cons c rest ih =>
    have hc : s.renew c = s.after [c] := by
      rw [renew, Command.isUse_of_isSetting (hset c List.mem_cons_self)]
      rfl
    show (s.renew c).since rest = s.after ([c] ++ rest)
    rw [hc, after_append, ih _ fun c' hc' ↦ hset c' (List.mem_cons_of_mem _ hc')]

/-- Commands for one program start from nothing. -/
theorem since_useProgram (id : ProgramId) {rest : List Command}
    (hset : ∀ c ∈ rest, c.isSetting) :
    s.since (.useProgram id :: rest) = empty.after (.useProgram id :: rest) := by
  show (empty.after [.useProgram id]).since rest = _
  rw [since_of_isSetting _ hset, ← after_append]
  rfl

theorem renew_draw {c : Command} (hdraw : c.isDraw) : s.renew c = s := by
  have hc : c.isUse = false := by
    cases c with
    | useProgram id => exact absurd hdraw nofun
    | _ => rfl
  rw [renew, hc]
  exact s.after_draw hdraw

theorem observeSince_append (commands rest : List Command) :
    observeSince s (commands ++ rest) =
      observeSince s commands ++ observeSince (s.since commands) rest := by
  induction commands generalizing s with
  | nil => rfl
  | cons c commands ih =>
    rw [List.cons_append, observeSince, observeSince, ih]
    split <;> rfl

theorem observeSince_eq_nil {commands : List Command}
    (hquiet : ∀ c ∈ commands, c.isDraw = false) : observeSince s commands = [] := by
  induction commands generalizing s with
  | nil => rfl
  | cons c rest ih =>
    have hc := hquiet c List.mem_cons_self
    rw [observeSince, if_neg (Bool.eq_false_iff.mp hc)]
    exact ih _ fun c' hc' ↦ hquiet c' (List.mem_cons_of_mem _ hc')

/-- A draw after commands that prepare it. -/
theorem observeSince_prepared {commands : List Command} {draw : Command}
    (hquiet : ∀ c ∈ commands, c.isDraw = false) (hdraw : draw.isDraw) (rest : List Command) :
    observeSince s (commands ++ [draw] ++ rest) =
      (draw, s.since commands) :: observeSince (s.since commands) rest := by
  have hkept : (s.since commands).since [draw] = s.since commands := renew_draw _ hdraw
  rw [observeSince_append, observeSince_append, observeSince_eq_nil s hquiet, since_append, hkept,
    observeSince, if_pos hdraw]
  rfl

end GpuState

/-! ### Uploads -/

namespace ProgramBindings

variable {b : ProgramBindings}

/-- Uploads do not tell which program is in use. -/
theorem effect_uploadAll_program (uploads : List Upload) :
    effect (b.uploadAll uploads) .program = none := by
  rw [← Option.not_isSome_iff_eq_none, isSome_effect_uploadAll, List.any_map]
  simp only [Bool.not_eq_true, List.any_eq_false]
  intro upload _
  cases upload <;> rfl

/-- What a place holds after uploads is one of the values uploaded for it. -/
theorem exists_value_of_effect {uploads : List Upload} {location : UniformLocation}
    (hset : (effect (b.uploadAll uploads) (.uniform location)).isSome) :
    ∃ n value, Upload.uniform n value ∈ uploads ∧ b.uniform? n.text = some location ∧
      effect (b.uploadAll uploads) (.uniform location) = some (.value value) := by
  induction uploads with
  | nil => exact absurd hset nofun
  | cons upload rest ih =>
    have hsplit : effect (b.uploadAll (upload :: rest)) (.uniform location) =
        (effect (b.uploadAll rest) (.uniform location)).or
          (effect (b.upload upload) (.uniform location)) :=
      effect_append _ _ _
    cases hlater : effect (b.uploadAll rest) (.uniform location) with
    | some binding =>
      obtain ⟨n, value, hmem, hlocation, heffect⟩ := ih (by rw [hlater]; rfl)
      refine ⟨n, value, List.mem_cons_of_mem _ hmem, hlocation, ?_⟩
      rw [hsplit, heffect, Option.some_or]
    | none =>
      rw [hsplit, hlater, Option.none_or] at hset ⊢
      cases upload with
      | texture unit target texture => exact absurd hset nofun
      | uniform n value =>
        rw [isSome_effect_upload] at hset
        have hlocation : b.uniform? n.text = some location := beq_iff_eq.mp hset
        refine ⟨n, value, List.mem_cons_self, hlocation, ?_⟩
        show effect (b.set n.text value) (.uniform location) = _
        unfold set
        rw [hlocation]
        exact if_pos rfl

/-- The place of a uniform that is uploaded holds one of its values. -/
theorem Distinct.exists_value (hb : b.Distinct) {uploads : List Upload} {n : Name}
    {given : UniformValue} (hmem : .uniform n given ∈ uploads) {location : UniformLocation}
    (hlocation : b.uniform? n.text = some location) :
    ∃ value, Upload.uniform n value ∈ uploads ∧
      effect (b.uploadAll uploads) (.uniform location) = some (.value value) := by
  have hset : (effect (b.uploadAll uploads) (.uniform location)).isSome := by
    rw [isSome_effect_uploadAll, List.any_map, List.any_eq_true]
    exact ⟨_, hmem, beq_iff_eq.mpr hlocation⟩
  obtain ⟨m, value, hvalue, hplace, heffect⟩ := exists_value_of_effect hset
  obtain rfl : m = n := Name.text_injective (hb _ _ location hplace hlocation)
  exact ⟨value, hvalue, heffect⟩

end ProgramBindings

/-! ### What draws find -/

/-- The matrices that decode the arrays of a geometry. -/
def GeometryBuffers.decodeUploads (b : GeometryBuffers) : List Upload :=
  (b.positionsDecode.toList.map fun m ↦ .uniform .positionsDecodeMatrix (.mat4 m)) ++
    b.uvDecode.toList.map fun m ↦ .uniform .uvDecodeMatrix (.mat3 m)

/-- The place of each uniform among some uploads holds one of its values there. -/
def ProgramBindings.Holds (b : ProgramBindings) (uploads : List Upload) (s : GpuState) : Prop :=
  ∀ n given location, .uniform n given ∈ uploads → b.uniform? n.text = some location →
    ∃ value, Upload.uniform n value ∈ uploads ∧ s (.uniform location) = some (.value value)

variable {s : GpuState} {b : ProgramBindings}

namespace GpuState

/-- What commands in place would set is set. -/
theorem eq_of_after_eq_self {commands : List Command} (hplace : s.after commands = s) {r : Register}
    {x : Binding} (heffect : effect commands r = some x) : s r = some x := by
  have hs : (effect commands r).or (s r) = s r := congrFun hplace r
  rw [heffect, Option.some_or] at hs
  exact hs.symm

/-- Making a program current, followed by uploads, tells which program is in use. -/
theorem program_of_after {id : ProgramId} {uploads : List Upload}
    (hplace : s.after (.useProgram id :: b.uploadAll uploads) = s) :
    s .program = some (.program id) := by
  refine eq_of_after_eq_self hplace ?_
  show (effect (b.uploadAll uploads) .program).or (some (.program id)) = _
  rw [ProgramBindings.effect_uploadAll_program, Option.none_or]

end GpuState

namespace ProgramBindings

/-- Uploads in place, behind whatever commands, are held. -/
theorem Distinct.holds_of_after (hb : b.Distinct) (front : List Command) {uploads : List Upload}
    (hplace : s.after (front ++ b.uploadAll uploads) = s) : b.Holds uploads s := by
  intro n given location hmem hlocation
  obtain ⟨value, hvalue, heffect⟩ := hb.exists_value hmem hlocation
  refine ⟨value, hvalue, GpuState.eq_of_after_eq_self hplace ?_⟩
  rw [effect_append, heffect, Option.some_or]

theorem Holds.append {uploads rest : List Upload} (huploads : b.Holds uploads s)
    (hrest : b.Holds rest s) : b.Holds (uploads ++ rest) s := by
  intro n given location hmem hlocation
  rcases List.mem_append.mp hmem with hmem | hmem
  · obtain ⟨value, hvalue, hheld⟩ := huploads n given location hmem hlocation
    exact ⟨value, List.mem_append_left _ hvalue, hheld⟩
  · obtain ⟨value, hvalue, hheld⟩ := hrest n given location hmem hlocation
    exact ⟨value, List.mem_append_right _ hvalue, hheld⟩

end ProgramBindings

namespace ReadyDraw

variable (maxTextureUnits : UInt32) (g : FrameGlobals)

/-- Everything that a draw uploads. -/
def uploads (d : ReadyDraw) : List Upload :=
  (g.uploads d.features).1 ++ (d.material.uploads d.features (d.units maxTextureUnits g)).1 ++
    d.transform.uploads d.features.hasNormals ++ d.buffers.decodeUploads

variable {maxTextureUnits g} {d : ReadyDraw}

/-- A setup makes its program current, so nothing before it counts. -/
theorem since_setup (d : ReadyDraw) (s : GpuState) :
    s.since (d.setup maxTextureUnits g) = GpuState.empty.after (d.setup maxTextureUnits g) := by
  refine GpuState.since_useProgram s d.program.id fun c hc ↦ ?_
  rcases List.mem_append.mp hc with hc | hc
  · rcases List.mem_append.mp hc with hc | hc
    · rcases List.mem_append.mp hc with hc | hc
      · exact ProgramBindings.isSetting_uploadAll _ c hc
      · exact ProgramBindings.isSetting_uploadAll _ c hc
    · exact ProgramBindings.isSetting_uploadAll _ c hc
  · exact isSetting_bindGeometry _ _ c hc

/-- A draw whose parts are all in place uses its program and finds what it uploads. -/
theorem Settled.holds {s : GpuState} (hs : d.Settled maxTextureUnits g s) (hd : d.Sound) :
    s .program = some (.program d.program.id) ∧
      d.program.bindings.Holds (d.uploads maxTextureUnits g) s := by
  have hshared := hs.shared
  have hcommands : d.bindProgram g ++ d.bindMaterial maxTextureUnits g =
      .useProgram d.program.id :: d.program.bindings.uploadAll ((g.uploads d.features).1 ++
        (d.material.uploads d.features (d.units maxTextureUnits g)).1) := by
    rw [ProgramBindings.uploadAll, List.flatMap_append]
    rfl
  rw [hcommands] at hshared
  have hmaterial := hd.distinct.holds_of_after [.useProgram d.program.id] hshared
  have htransform : d.program.bindings.Holds (d.transform.uploads d.features.hasNormals) s :=
    hd.distinct.holds_of_after [] hs.transform
  have hgeometry : d.program.bindings.Holds d.buffers.decodeUploads s :=
    hd.distinct.holds_of_after (d.buffers.bind d.program.bindings) hs.geometry
  exact ⟨GpuState.program_of_after hshared, (hmaterial.append htransform).append hgeometry⟩

end ReadyDraw

namespace DrawState

variable {maxTextureUnits : UInt32} {g : FrameGlobals} {b : DrawState}

/-- The entries of a batch that are drawn. -/
def ready (batch : List (Except SkipReason ReadyDraw)) : List ReadyDraw :=
  batch.filterMap Except.toOption

/-- Each draw of a pass finds its setup in place, among what was set since its program was made
current. -/
theorem settled_drawAll {batch : List (Except SkipReason ReadyDraw)} (hbatch : Coherent batch)
    {s : GpuState} (hfollows : ∀ d, .ok d ∈ batch → b.Follows maxTextureUnits g s d) :
    List.Forall₂
      (fun d shown ↦ shown.1 = d.buffers.draw ∧ d.Settled maxTextureUnits g shown.2)
      (ready batch) (s.observeSince (b.drawAll maxTextureUnits g batch).1) := by
  induction batch generalizing b s with
  | nil => exact .nil
  | cons entry rest ih =>
    cases entry with
    | error reason =>
      exact ih hbatch.tail fun d hd ↦ (hfollows d (List.mem_cons_of_mem _ hd)).skip
    | ok d =>
      have hd := hbatch.sound d List.mem_cons_self
      obtain ⟨preparation, hquiet, hset, hcommands, hafter, htracks⟩ :=
        draw_prepared hd (hfollows d List.mem_cons_self)
      have hsettled : d.Settled maxTextureUnits g (s.since preparation) := by
        rcases hset with rfl | hset
        · rw [d.since_setup]
          exact ReadyDraw.settled_setup hd _
        · rw [GpuState.since_of_isSetting _ hset, hafter]
          exact ReadyDraw.settled_setup hd _
      show List.Forall₂ _ (d :: ready rest) (s.observeSince ((b.draw maxTextureUnits g d).1 ++
        ((b.draw maxTextureUnits g d).2.drawAll maxTextureUnits g rest).1))
      rw [hcommands, GpuState.observeSince_prepared s hquiet d.buffers.isDraw_draw]
      refine .cons ⟨rfl, hsettled⟩ (ih hbatch.tail fun d' hd' ↦ .inr ⟨d, hd, ?_, htracks, hsettled⟩)
      exact hbatch.agrees d d' List.mem_cons_self (List.mem_cons_of_mem _ hd')

end DrawState

end SceneRenderer
