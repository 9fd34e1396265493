import SceneRenderer.Frame.Shadow
import SceneRenderer.Proofs.Frame.Freshness

/-!
Every draw into a shadow map finds what it uploads. As in the main pass, what a draw skips was set
by a draw before it under the same program; the point size is set for every draw.
-/

set_option autoImplicit false
set_option relaxedAutoImplicit false

namespace SceneRenderer

open Shader

theorem ReadyDraw.Rebinds.setsOnly {b : ProgramBindings} {l : Level}
    {part part₀ rebind : List Command} (hrebind : Rebinds part part₀ rebind)
    (hpart : b.SetsOnly l part) : b.SetsOnly l rebind := by
  rcases hrebind with rfl | ⟨rfl, _⟩
  · exact hpart
  · exact fun r hset ↦ absurd rfl hset

/-- A part that is rebound, or skipped as it was, is in place. -/
theorem ReadyDraw.Rebinds.after_eq_self {s : GpuState} {part part₀ rebind : List Command}
    (hrebind : Rebinds part part₀ rebind) (hplace : s.after part₀ = s) :
    (s.after rebind).after part = s.after rebind := by
  rcases hrebind with rfl | ⟨rfl, rfl⟩
  · exact s.after_after _
  · exact hplace

/-- The matrices that all draws into the map of a light share. -/
def Light.shadowUploads (light : Light) : List Upload :=
  [.uniform .viewMatrix (.mat4 light.shadowView),
    .uniform .projMatrix (.mat4 light.shadowProjection)]

namespace ReadyCaster

section Setup

variable (light : Light) (c : ReadyCaster)

def bindProgram : List Command :=
  .useProgram c.program.id :: c.program.bindings.uploadAll light.shadowUploads

def bindTransform : List Command := c.program.bindings.uploadAll (c.transform.uploads false)

def bindGeometry : List Command := SceneRenderer.bindGeometry c.program.bindings c.buffers

def bindPointSize : List Command :=
  c.program.bindings.uploadAll [.uniform .pointSize (.float c.pointSize)]

/-- Everything that a draw needs. -/
def setup : List Command :=
  c.bindProgram light ++ c.bindTransform ++ c.bindGeometry ++ c.bindPointSize

/-- Everything that a draw uploads. -/
def uploads : List Upload :=
  light.shadowUploads ++ c.transform.uploads false ++ c.buffers.decodeUploads ++
    [.uniform .pointSize (.float c.pointSize)]

end Setup

/-- What two casters call by one name is the same. -/
structure Agrees (c c' : ReadyCaster) : Prop where
  program : c.handle = c'.handle → c.program = c'.program
  transform : c.transform.id = c'.transform.id → c.transform = c'.transform
  buffers : c.geometry = c'.geometry → c.buffers = c'.buffers

/-- The parts that a draw may skip are in place. -/
structure Bound (light : Light) (c : ReadyCaster) (s : GpuState) : Prop where
  program : s.after (c.bindProgram light) = s
  transform : s.after c.bindTransform = s
  geometry : s.after c.bindGeometry = s

/-- All parts of a draw are in place. -/
structure Settled (light : Light) (c : ReadyCaster) (s : GpuState) : Prop
    extends Bound light c s where
  pointSize : s.after c.bindPointSize = s

variable {light : Light} {c c₀ : ReadyCaster} {s : GpuState}

theorem setsOnly_bindProgram (light : Light) (c : ReadyCaster) :
    c.program.bindings.SetsOnly .shared (c.bindProgram light) := by
  have huse : c.program.bindings.SetsOnly .shared [.useProgram c.program.id] := by
    intro r hset
    cases r with
    | program => exact ⟨.program, rfl, rfl⟩
    | _ => exact absurd rfl hset
  refine huse.append (ProgramBindings.setsOnly_uploadAll fun upload hupload ↦ ?_)
  simp only [Light.shadowUploads, List.mem_cons, List.not_mem_nil, or_false] at hupload
  rcases hupload with rfl | rfl <;> rfl

theorem setsOnly_bindTransform (c : ReadyCaster) :
    c.program.bindings.SetsOnly .transform c.bindTransform :=
  ProgramBindings.setsOnly_uploadAll (c.transform.level_uploads _)

theorem setsOnly_bindGeometry (c : ReadyCaster) :
    c.program.bindings.SetsOnly .geometry c.bindGeometry :=
  SceneRenderer.setsOnly_bindGeometry _ _

theorem setsOnly_bindPointSize (c : ReadyCaster) :
    c.program.bindings.SetsOnly .shared c.bindPointSize := by
  refine ProgramBindings.setsOnly_uploadAll fun upload hupload ↦ ?_
  rw [List.mem_singleton.mp hupload]
  rfl

/-- The point size has no place among those of the light. -/
theorem bindPointSize_apart (hc : c.program.bindings.Distinct) (r : Register)
    (hset : effect (c.bindProgram light) r ≠ none) : effect c.bindPointSize r = none := by
  refine Option.not_isSome_iff_eq_none.mp fun hsize ↦ ?_
  cases r with
  | uniform location =>
    have hshared : (effect (c.program.bindings.uploadAll light.shadowUploads)
        (.uniform location)).isSome := by
      have hsplit : effect (c.bindProgram light) (.uniform location) =
          (effect (c.program.bindings.uploadAll light.shadowUploads) (.uniform location)).or none :=
        rfl
      rwa [hsplit, Option.or_none, ← Option.isSome_iff_ne_none] at hset
    obtain ⟨n, value, hmem, hlocation, _⟩ := ProgramBindings.exists_value_of_effect hshared
    obtain ⟨n', value', hmem', hlocation', _⟩ := ProgramBindings.exists_value_of_effect hsize
    obtain rfl : n = n' := Name.text_injective (hc _ _ location hlocation hlocation')
    simp only [Light.shadowUploads, List.mem_cons, List.not_mem_nil, or_false,
      Upload.uniform.injEq] at hmem hmem'
    rcases hmem with ⟨rfl, _⟩ | ⟨rfl, _⟩ <;> exact absurd hmem'.1 nofun
  | _ =>
    rw [bindPointSize, ProgramBindings.isSome_effect_uploadAll] at hsize
    exact Bool.false_ne_true hsize

/-- A caster whose program was not in use binds everything. -/
theorem bound_fresh (hc : c.program.bindings.Distinct) (s : GpuState) :
    c.Bound light (s.after (c.bindProgram light ++ c.bindTransform ++ c.bindGeometry)) := by
  have hprogram := setsOnly_bindProgram light c
  have htransform := c.setsOnly_bindTransform
  have hgeometry := c.setsOnly_bindGeometry
  rw [GpuState.after_append, GpuState.after_append]
  constructor
  · refine GpuState.after_eq_self (GpuState.after_eq_self (GpuState.after_after _ _) ?_) ?_
    · exact hprogram.apart htransform hc nofun
    · exact hprogram.apart hgeometry hc nofun
  · refine GpuState.after_eq_self (GpuState.after_after _ _) ?_
    exact htransform.apart hgeometry hc nofun
  · exact GpuState.after_after _ _

/-- Setting the point size leaves the other parts in place. -/
theorem Bound.settled (hs : c.Bound light s) (hc : c.program.bindings.Distinct) :
    c.Settled light (s.after c.bindPointSize) where
  program := GpuState.after_eq_self hs.program (bindPointSize_apart hc)
  transform := GpuState.after_eq_self hs.transform
    (c.setsOnly_bindTransform.apart c.setsOnly_bindPointSize hc nofun)
  geometry := GpuState.after_eq_self hs.geometry
    (c.setsOnly_bindGeometry.apart c.setsOnly_bindPointSize hc nofun)
  pointSize := GpuState.after_after _ _

theorem settled_setup (hc : c.program.bindings.Distinct) (s : GpuState) :
    c.Settled light (s.after (c.setup light)) := by
  rw [setup, GpuState.after_append]
  exact (bound_fresh hc s).settled hc

theorem isSetting_setup (light : Light) (c : ReadyCaster) :
    ∀ command ∈ c.program.bindings.uploadAll light.shadowUploads ++ c.bindTransform ++
      c.bindGeometry ++ c.bindPointSize, command.isSetting := by
  simp only [List.forall_mem_append]
  exact ⟨⟨⟨ProgramBindings.isSetting_uploadAll _, ProgramBindings.isSetting_uploadAll _⟩,
    isSetting_bindGeometry _ _⟩, ProgramBindings.isSetting_uploadAll _⟩

theorem isDraw_setup (light : Light) (c : ReadyCaster) :
    ∀ command ∈ c.setup light, command.isDraw = false :=
  List.forall_mem_cons.mpr
    ⟨rfl, fun command hmem ↦ Command.isDraw_of_isSetting (isSetting_setup light c command hmem)⟩

/-- The setup starts with the program, so that it leaves nothing of before. -/
theorem since_setup (light : Light) (c : ReadyCaster) (s : GpuState) :
    s.since (c.setup light) = GpuState.empty.after (c.setup light) :=
  s.since_useProgram c.program.id (isSetting_setup light c)

/-- Within a program, a caster rebinds what differs. -/
theorem bound_rebinds (hc : c.program.bindings.Distinct) (hs : c₀.Bound light s)
    (hprogram : c₀.program = c.program) {transform geometry : List Command}
    (htransform : ReadyDraw.Rebinds c.bindTransform c₀.bindTransform transform)
    (hgeometry : ReadyDraw.Rebinds c.bindGeometry c₀.bindGeometry geometry) :
    c.Bound light (s.after (transform ++ geometry)) := by
  have hsetsTransform := htransform.setsOnly c.setsOnly_bindTransform
  have hsetsGeometry := hgeometry.setsOnly c.setsOnly_bindGeometry
  have hsetsGeometry₀ : c.program.bindings.SetsOnly .geometry c₀.bindGeometry :=
    hprogram ▸ c₀.setsOnly_bindGeometry
  have hplace := hs.program
  rw [bindProgram, hprogram, ← bindProgram] at hplace
  rw [GpuState.after_append]
  constructor
  · refine GpuState.after_eq_self (GpuState.after_eq_self hplace ?_) ?_
    · exact (setsOnly_bindProgram light c).apart hsetsTransform hc nofun
    · exact (setsOnly_bindProgram light c).apart hsetsGeometry hc nofun
  · refine GpuState.after_eq_self (htransform.after_eq_self hs.transform) ?_
    exact c.setsOnly_bindTransform.apart hsetsGeometry hc nofun
  · refine hgeometry.after_eq_self (GpuState.after_eq_self hs.geometry ?_)
    exact hsetsGeometry₀.apart hsetsTransform hc nofun

/-- A draw whose parts are all in place uses its program and finds what it uploads. -/
theorem Settled.holds (hs : c.Settled light s) (hc : c.program.bindings.Distinct) :
    s .program = some (.program c.program.id) ∧ c.program.bindings.Holds (c.uploads light) s := by
  have hshared : c.program.bindings.Holds light.shadowUploads s :=
    hc.holds_of_after [.useProgram c.program.id] hs.program
  have htransform : c.program.bindings.Holds (c.transform.uploads false) s :=
    hc.holds_of_after [] hs.transform
  have hgeometry : c.program.bindings.Holds c.buffers.decodeUploads s :=
    hc.holds_of_after (c.buffers.bind c.program.bindings) hs.geometry
  have hsize : c.program.bindings.Holds [.uniform .pointSize (.float c.pointSize)] s :=
    hc.holds_of_after [] hs.pointSize
  exact ⟨GpuState.program_of_after hs.program,
    ((hshared.append htransform).append hgeometry).append hsize⟩

namespace Agrees

theorem bindTransform_eq (hagrees : c₀.Agrees c) (hhandle : c₀.handle = c.handle)
    (hid : c₀.transform.id = c.transform.id) : c.bindTransform = c₀.bindTransform := by
  unfold bindTransform
  rw [hagrees.program hhandle, hagrees.transform hid]

theorem bindGeometry_eq (hagrees : c₀.Agrees c) (hhandle : c₀.handle = c.handle)
    (hid : c₀.geometry = c.geometry) : c.bindGeometry = c₀.bindGeometry := by
  unfold bindGeometry
  rw [hagrees.program hhandle, hagrees.buffers hid]

end Agrees

end ReadyCaster

/-! ### One draw -/

namespace CastState

variable {light : Light} {b : CastState} {c c₀ : ReadyCaster} {s : GpuState}

/-- The markers stand for a caster. -/
def Tracks (b : CastState) (c : ReadyCaster) : Prop :=
  b.bound = ⟨some c.handle, none, some c.transform.id, some c.geometry⟩

variable (light) in
/-- A caster of another program binds everything. -/
theorem draw_fresh (hhandle : b.bound.program ≠ some c.handle) :
    (b.draw light c).1 = c.setup light ++ [c.buffers.draw] ∧
      (b.draw light c).2.Tracks c := by
  have hprogram : b.bindProgram light c =
      (c.bindProgram light, ⟨.ofProgram c.handle, b.stats.addProgramBind⟩) := by
    unfold bindProgram
    rw [if_neg hhandle]
    rfl
  unfold draw
  rw [hprogram]
  exact ⟨rfl, rfl⟩

theorem bindTransform_rebinds (hbound : b.bound.transform = some c₀.transform.id)
    (hagree : c₀.transform.id = c.transform.id → c.bindTransform = c₀.bindTransform) :
    ReadyDraw.Rebinds c.bindTransform c₀.bindTransform (b.bindTransform c).1 ∧
      (b.bindTransform c).2.bound = { b.bound with transform := some c.transform.id } := by
  unfold bindTransform
  by_cases hid : b.bound.transform = some c.transform.id
  · rw [if_pos hid, ← hid]
    exact ⟨.inr ⟨rfl, hagree (Option.some.inj (hbound.symm.trans hid))⟩, rfl⟩
  · rw [if_neg hid]
    exact ⟨.inl rfl, rfl⟩

theorem bindGeometry_rebinds (hbound : b.bound.geometry = some c₀.geometry)
    (hagree : c₀.geometry = c.geometry → c.bindGeometry = c₀.bindGeometry) :
    ReadyDraw.Rebinds c.bindGeometry c₀.bindGeometry (b.bindGeometry c).1 ∧
      (b.bindGeometry c).2.bound = { b.bound with geometry := some c.geometry } := by
  unfold bindGeometry
  by_cases hid : b.bound.geometry = some c.geometry
  · rw [if_pos hid, ← hid]
    exact ⟨.inr ⟨rfl, hagree (Option.some.inj (hbound.symm.trans hid))⟩, rfl⟩
  · rw [if_neg hid]
    exact ⟨.inl rfl, rfl⟩

variable (light) in
/-- A caster of the same program rebinds what differs. -/
theorem draw_rebinds (hb : b.Tracks c₀) (hhandle : c₀.handle = c.handle)
    (hagrees : c₀.Agrees c) :
    ∃ transform geometry,
      ReadyDraw.Rebinds c.bindTransform c₀.bindTransform transform ∧
      ReadyDraw.Rebinds c.bindGeometry c₀.bindGeometry geometry ∧
      (b.draw light c).1 = transform ++ geometry ++ c.bindPointSize ++ [c.buffers.draw] ∧
      (b.draw light c).2.Tracks c := by
  unfold Tracks at hb
  have hkeeps : b.bindProgram light c = ([], b) := by
    unfold bindProgram
    rw [if_pos (by rw [hb, hhandle])]
  have hbound : b.bound.transform = some c₀.transform.id := by rw [hb]
  obtain ⟨htransform, hboundTransform⟩ :=
    bindTransform_rebinds hbound (hagrees.bindTransform_eq hhandle)
  have hbound : (b.bindTransform c).2.bound.geometry = some c₀.geometry := by
    rw [hboundTransform, hb]
  obtain ⟨hgeometry, hboundGeometry⟩ :=
    bindGeometry_rebinds hbound (hagrees.bindGeometry_eq hhandle)
  refine ⟨_, _, htransform, hgeometry, ?_, ?_⟩
  · unfold draw
    rw [hkeeps]
    rfl
  · unfold draw
    rw [hkeeps]
    show ((b.bindTransform c).2.bindGeometry c).2.bound = _
    rw [hboundGeometry, hboundTransform, hb, hhandle]

/-- Nothing is bound yet, or the draw before left its parts in place. -/
def Follows (light : Light) (b : CastState) (s : GpuState) (c : ReadyCaster) : Prop :=
  b.bound.program = none ∨ ∃ c₀ : ReadyCaster, c₀.Agrees c ∧ b.Tracks c₀ ∧ c₀.Bound light s

/-- A draw finds all its parts in place, among what was set since its program was made current. -/
theorem draw_prepared (hc : c.program.bindings.Distinct) (hfollows : b.Follows light s c) :
    ∃ preparation, (∀ command ∈ preparation, command.isDraw = false) ∧
      (b.draw light c).1 = preparation ++ [c.buffers.draw] ∧
      c.Settled light (s.since preparation) ∧ (b.draw light c).2.Tracks c := by
  have hsize : ∀ command ∈ c.bindPointSize, command.isSetting :=
    ProgramBindings.isSetting_uploadAll _
  have htransform : ∀ command ∈ c.bindTransform, command.isSetting :=
    ProgramBindings.isSetting_uploadAll _
  have hgeometry : ∀ command ∈ c.bindGeometry, command.isSetting := isSetting_bindGeometry _ _
  by_cases hhandle : b.bound.program = some c.handle
  · rcases hfollows with hnone | ⟨c₀, hagrees, hb, hs⟩
    · rw [hnone] at hhandle
      exact absurd hhandle nofun
    · have hsame : c₀.handle = c.handle := by
        rw [hb] at hhandle
        exact Option.some.inj hhandle
      obtain ⟨transform, geometry, hrebindsTransform, hrebindsGeometry, hcommands, htracks⟩ :=
        draw_rebinds light hb hsame hagrees
      have hset : ∀ command ∈ transform ++ geometry ++ c.bindPointSize, command.isSetting := by
        intro command hmem
        rcases List.mem_append.mp hmem with hmem | hmem
        · rcases List.mem_append.mp hmem with hmem | hmem
          · exact hrebindsTransform.isSetting htransform command hmem
          · exact hrebindsGeometry.isSetting hgeometry command hmem
        · exact hsize command hmem
      refine ⟨transform ++ geometry ++ c.bindPointSize,
        fun command hmem ↦ Command.isDraw_of_isSetting (hset command hmem), hcommands, ?_, htracks⟩
      rw [GpuState.since_of_isSetting _ hset, GpuState.after_append]
      exact (ReadyCaster.bound_rebinds hc hs (hagrees.program hsame) hrebindsTransform
        hrebindsGeometry).settled hc
  · obtain ⟨hcommands, htracks⟩ := draw_fresh light hhandle
    refine ⟨_, c.isDraw_setup light, hcommands, ?_, htracks⟩
    rw [c.since_setup light s]
    exact c.settled_setup hc _

/-! ### A whole map -/

/-- The casters of a batch keep their uniforms apart and agree with each other. -/
structure Coherent (batch : List (Option ReadyCaster)) : Prop where
  distinct : ∀ c, some c ∈ batch → c.program.bindings.Distinct
  agrees : ∀ c c', some c ∈ batch → some c' ∈ batch → c.Agrees c'

theorem Coherent.tail {caster : Option ReadyCaster} {rest : List (Option ReadyCaster)}
    (hbatch : Coherent (caster :: rest)) : Coherent rest where
  distinct c hc := hbatch.distinct c (List.mem_cons_of_mem _ hc)
  agrees c c' hc hc' :=
    hbatch.agrees c c' (List.mem_cons_of_mem _ hc) (List.mem_cons_of_mem _ hc')

/-- Each draw into a map finds its parts in place, among what was set since its program was made
current. -/
theorem settled_drawAll {batch : List (Option ReadyCaster)} (hbatch : Coherent batch)
    (hfollows : ∀ c, some c ∈ batch → b.Follows light s c) :
    List.Forall₂ (fun c shown ↦ shown.1 = c.buffers.draw ∧ c.Settled light shown.2)
      batch.reduceOption (s.observeSince (b.drawAll light batch).1) := by
  induction batch generalizing b s with
  | nil => exact .nil
  | cons caster rest ih =>
    cases caster with
    | none => exact ih hbatch.tail fun c hc ↦ hfollows c (List.mem_cons_of_mem _ hc)
    | some c =>
      obtain ⟨preparation, hquiet, hcommands, hsettled, htracks⟩ :=
        draw_prepared (hbatch.distinct c List.mem_cons_self) (hfollows c List.mem_cons_self)
      show List.Forall₂ _ (c :: rest.reduceOption) (s.observeSince ((b.draw light c).1 ++
        ((b.draw light c).2.drawAll light rest).1))
      rw [hcommands, GpuState.observeSince_prepared s hquiet c.buffers.isDraw_draw]
      refine .cons ⟨rfl, hsettled⟩ (ih hbatch.tail fun c' hc' ↦ .inr ⟨c, ?_, htracks, ?_⟩)
      · exact hbatch.agrees c c' List.mem_cons_self (List.mem_cons_of_mem _ hc')
      · exact hsettled.toBound

end CastState

/-! ### All maps -/

namespace ShadowRenderer

variable {batch : List (Option ReadyCaster)} {lights : List Light} {s : GpuState}

/-- What is drawn into the map of a light that the scene has. -/
def mapDraws (batch : List (Option ReadyCaster)) (lights : List Light) (m : ShadowMap) :
    List (Light × ReadyCaster) :=
  (lights[m.light.toNat]?).toList.flatMap fun light ↦ batch.reduceOption.map (light, ·)

theorem settled_renderMap (hbatch : CastState.Coherent batch) (stats : FrameStats)
    (m : ShadowMap) :
    List.Forall₂ (fun p shown ↦ shown.1 = p.2.buffers.draw ∧ p.2.Settled p.1 shown.2)
      (mapDraws batch lights m) (s.observeSince (renderMap batch lights stats m).1) := by
  unfold mapDraws renderMap
  cases lights[m.light.toNat]? with
  | none => exact .nil
  | some light =>
    have hquiet : ∀ c ∈ m.target.bind ++ [.clear (some ⟨1.0, 1.0, 1.0, 1.0⟩) true],
        c.isDraw = false := by
      simp [RenderTarget.bind, Command.isDraw]
    show List.Forall₂ _ ([light].flatMap _) (s.observeSince (_ ++ _))
    rw [GpuState.observeSince_append, GpuState.observeSince_eq_nil _ hquiet, List.nil_append,
      List.flatMap_singleton, List.forall₂_map_left_iff]
    exact CastState.settled_drawAll hbatch fun _ _ ↦ .inl rfl

theorem settled_renderMaps (hbatch : CastState.Coherent batch) (stats : FrameStats)
    (maps : List ShadowMap) :
    List.Forall₂ (fun p shown ↦ shown.1 = p.2.buffers.draw ∧ p.2.Settled p.1 shown.2)
      (maps.flatMap (mapDraws batch lights))
      (s.observeSince (renderMaps batch lights stats maps).1) := by
  induction maps generalizing stats s with
  | nil => exact .nil
  | cons m rest ih =>
    show List.Forall₂ _ (mapDraws batch lights m ++ rest.flatMap (mapDraws batch lights))
      (s.observeSince (_ ++ _))
    rw [GpuState.observeSince_append]
    exact List.rel_append (settled_renderMap hbatch stats m) (ih _)

/-- Each draw of the shadow pass finds its parts in place. -/
theorem settled_render {r : ShadowRenderer} {cache : ProgramCache} {casters : List ShadowCaster}
    (hbatch : CastState.Coherent
      ((sortByKey ShadowCaster.sortKey casters).map (ShadowCaster.resolve? cache))) :
    List.Forall₂ (fun p shown ↦ shown.1 = p.2.buffers.draw ∧ p.2.Settled p.1 shown.2)
      (r.maps.flatMap (mapDraws
        ((sortByKey ShadowCaster.sortKey casters).map (ShadowCaster.resolve? cache)) lights))
      (s.observeSince (r.render cache lights casters).1) := by
  unfold render
  split
  · rename_i hnone
    rw [List.isEmpty_iff.mp hnone]
    exact .nil
  · show List.Forall₂ _ _ (s.observeSince (_ ++ [.bindRenderTarget none]))
    rw [GpuState.observeSince_append]
    show List.Forall₂ _ _ (_ ++ [])
    rw [List.append_nil]
    exact settled_renderMaps hbatch _ _

end ShadowRenderer

end SceneRenderer
