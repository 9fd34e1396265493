import SceneRenderer.Proofs.Frame.Setup

/-!
A pass that binds only what differs from the draw before shows the same as a pass that binds
everything before every draw: the same draws, each in the same state.
-/

set_option autoImplicit false
set_option relaxedAutoImplicit false

namespace SceneRenderer

/-- The pass that binds everything before every draw. -/
def referencePass (maxTextureUnits : UInt32) (g : FrameGlobals) :
    List (Except SkipReason ReadyDraw) → List Command
  | [] => []
  | .error _ :: rest => referencePass maxTextureUnits g rest
  | .ok d :: rest =>
    d.setup maxTextureUnits g ++ [d.buffers.draw] ++ referencePass maxTextureUnits g rest

/-! ### One draw -/

namespace DrawState

variable {maxTextureUnits : UInt32} {g : FrameGlobals} {b : DrawState} {d d₀ : ReadyDraw}

variable (maxTextureUnits g) in
/-- The markers stand for a draw, and the units for those its program leaves. -/
structure Tracks (b : DrawState) (d : ReadyDraw) : Prop where
  bound : b.bound =
    ⟨some d.handle, some d.material.id, some d.transform.id, some d.geometry⟩
  units : b.units.reset = (d.units maxTextureUnits g).reset

/-- A draw of another program binds everything. -/
theorem draw_fresh (hhandle : b.bound.program ≠ some d.handle) :
    (b.draw maxTextureUnits g d).1 = d.setup maxTextureUnits g ++ [d.buffers.draw] ∧
      (b.draw maxTextureUnits g d).2.Tracks maxTextureUnits g d := by
  have hprogram : b.bindProgram maxTextureUnits g d =
      (d.bindProgram g,
        ⟨.ofProgram d.handle, d.units maxTextureUnits g, b.stats.addProgramBind⟩) := by
    unfold bindProgram
    rw [if_neg hhandle]
    rfl
  unfold draw
  rw [hprogram]
  refine ⟨rfl, rfl, ?_⟩
  exact d.material.reset_uploads d.features (d.units maxTextureUnits g)

/-- A draw that calls everything by the names of the draw before binds nothing. -/
theorem draw_repeated (hb : b.Tracks maxTextureUnits g d₀) (hhandle : d.handle = d₀.handle)
    (hmaterial : d.material.id = d₀.material.id) (htransform : d.transform.id = d₀.transform.id)
    (hgeometry : d.geometry = d₀.geometry) :
    (b.draw maxTextureUnits g d).1 = [d.buffers.draw] := by
  have hprogram : b.bindProgram maxTextureUnits g d = ([], b) := by
    unfold bindProgram
    rw [if_pos (by rw [hb.bound, hhandle])]
  unfold draw
  rw [hprogram]
  simp [bindMaterial, bindTransform, bindGeometry, hb.bound, hmaterial, htransform, hgeometry]

theorem bindMaterial_rebinds (hbound : b.bound.material = some d₀.material.id)
    (hunits : b.units.reset = (d.units maxTextureUnits g).reset)
    (hagree : d₀.material.id = d.material.id →
      d.bindMaterial maxTextureUnits g = d₀.bindMaterial maxTextureUnits g) :
    ReadyDraw.Rebinds (d.bindMaterial maxTextureUnits g) (d₀.bindMaterial maxTextureUnits g)
        (b.bindMaterial d).1 ∧
      (b.bindMaterial d).2.bound = { b.bound with material := some d.material.id } ∧
      (b.bindMaterial d).2.units.reset = b.units.reset := by
  unfold bindMaterial
  by_cases hid : b.bound.material = some d.material.id
  · rw [if_pos hid, ← hid]
    exact ⟨.inr ⟨rfl, hagree (Option.some.inj (hbound.symm.trans hid))⟩, rfl, rfl⟩
  · rw [if_neg hid]
    refine ⟨.inl ?_, rfl, d.material.reset_uploads d.features b.units⟩
    unfold ReadyDraw.bindMaterial
    rw [d.material.uploads_reset _ (d.units maxTextureUnits g), ← hunits]
    rfl

theorem bindTransform_rebinds (hbound : b.bound.transform = some d₀.transform.id)
    (hagree : d₀.transform.id = d.transform.id → d.bindTransform = d₀.bindTransform) :
    ReadyDraw.Rebinds d.bindTransform d₀.bindTransform (b.bindTransform d).1 ∧
      (b.bindTransform d).2.bound = { b.bound with transform := some d.transform.id } ∧
      (b.bindTransform d).2.units = b.units := by
  unfold bindTransform
  by_cases hid : b.bound.transform = some d.transform.id
  · rw [if_pos hid, ← hid]
    exact ⟨.inr ⟨rfl, hagree (Option.some.inj (hbound.symm.trans hid))⟩, rfl, rfl⟩
  · rw [if_neg hid]
    exact ⟨.inl rfl, rfl, rfl⟩

theorem bindGeometry_rebinds (hbound : b.bound.geometry = some d₀.geometry)
    (hagree : d₀.geometry = d.geometry → d.bindGeometry = d₀.bindGeometry) :
    ReadyDraw.Rebinds d.bindGeometry d₀.bindGeometry (b.bindGeometry d).1 ∧
      (b.bindGeometry d).2.bound = { b.bound with geometry := some d.geometry } ∧
      (b.bindGeometry d).2.units = b.units := by
  unfold bindGeometry
  by_cases hid : b.bound.geometry = some d.geometry
  · rw [if_pos hid, ← hid]
    exact ⟨.inr ⟨rfl, hagree (Option.some.inj (hbound.symm.trans hid))⟩, rfl, rfl⟩
  · rw [if_neg hid]
    exact ⟨.inl rfl, rfl, rfl⟩

/-- A draw of the same program rebinds what differs. -/
theorem draw_rebinds (hb : b.Tracks maxTextureUnits g d₀) (hhandle : d₀.handle = d.handle)
    (hagrees : d₀.Agrees d) :
    ∃ material transform geometry,
      ReadyDraw.Rebinds (d.bindMaterial maxTextureUnits g) (d₀.bindMaterial maxTextureUnits g)
        material ∧
      ReadyDraw.Rebinds d.bindTransform d₀.bindTransform transform ∧
      ReadyDraw.Rebinds d.bindGeometry d₀.bindGeometry geometry ∧
      (b.draw maxTextureUnits g d).1 =
        material ++ transform ++ geometry ++ [d.buffers.draw] ∧
      (b.draw maxTextureUnits g d).2.Tracks maxTextureUnits g d := by
  have hkeeps : b.bindProgram maxTextureUnits g d = ([], b) := by
    unfold bindProgram
    rw [if_pos (by rw [hb.bound, hhandle])]
  have hbound : b.bound.material = some d₀.material.id := by rw [hb.bound]
  have hunits : b.units.reset = (d.units maxTextureUnits g).reset := by
    rw [hb.units, hagrees.shared.units_eq hhandle]
  obtain ⟨hmaterial, hboundMaterial, hunitsMaterial⟩ :=
    bindMaterial_rebinds hbound hunits (hagrees.shared.bindMaterial_eq hhandle)
  have hbound : (b.bindMaterial d).2.bound.transform = some d₀.transform.id := by
    rw [hboundMaterial, hb.bound]
  obtain ⟨htransform, hboundTransform, hunitsTransform⟩ :=
    bindTransform_rebinds hbound (hagrees.bindTransform_eq hhandle)
  have hbound : ((b.bindMaterial d).2.bindTransform d).2.bound.geometry = some d₀.geometry := by
    rw [hboundTransform, hboundMaterial, hb.bound]
  obtain ⟨hgeometry, hboundGeometry, hunitsGeometry⟩ :=
    bindGeometry_rebinds hbound (hagrees.bindGeometry_eq hhandle)
  refine ⟨_, _, _, hmaterial, htransform, hgeometry, ?_, ?_, ?_⟩
  · unfold draw
    rw [hkeeps]
    rfl
  · unfold draw
    rw [hkeeps]
    show (((b.bindMaterial d).2.bindTransform d).2.bindGeometry d).2.bound = _
    rw [hboundGeometry, hboundTransform, hboundMaterial, hb.bound, hhandle]
  · unfold draw
    rw [hkeeps]
    show (((b.bindMaterial d).2.bindTransform d).2.bindGeometry d).2.units.reset = _
    rw [hunitsGeometry, hunitsTransform, hunitsMaterial, hunits]

variable (maxTextureUnits g) in
/-- Nothing is bound yet, or the draw before left its setup in place. -/
def Follows (b : DrawState) (s : GpuState) (d : ReadyDraw) : Prop :=
  b.bound.program = none ∨ ∃ d₀ : ReadyDraw, d₀.Sound ∧ d₀.Agrees d ∧
    b.Tracks maxTextureUnits g d₀ ∧ d₀.Settled maxTextureUnits g s

theorem Follows.skip {s : GpuState} (hfollows : b.Follows maxTextureUnits g s d) :
    b.skip.Follows maxTextureUnits g s d := by
  rcases hfollows with hnone | ⟨d₀, hd₀, hagrees, hb, hs⟩
  · exact .inl hnone
  · exact .inr ⟨d₀, hd₀, hagrees, ⟨hb.bound, hb.units⟩, hs⟩

/-- A draw happens in the state that its whole setup makes. What prepares it is that setup, or only
sets what it reads. -/
theorem draw_prepared {s : GpuState} (hd : d.Sound)
    (hfollows : b.Follows maxTextureUnits g s d) :
    ∃ preparation, (∀ c ∈ preparation, c.isDraw = false) ∧
      (preparation = d.setup maxTextureUnits g ∨ ∀ c ∈ preparation, c.isSetting) ∧
      (b.draw maxTextureUnits g d).1 = preparation ++ [d.buffers.draw] ∧
      s.after preparation = s.after (d.setup maxTextureUnits g) ∧
      (b.draw maxTextureUnits g d).2.Tracks maxTextureUnits g d := by
  by_cases hhandle : b.bound.program = some d.handle
  · rcases hfollows with hnone | ⟨d₀, hd₀, hagrees, hb, hs⟩
    · rw [hnone] at hhandle
      exact absurd hhandle nofun
    · have hsame : d₀.handle = d.handle := by
        rw [hb.bound] at hhandle
        exact Option.some.inj hhandle
      obtain ⟨material, transform, geometry, hmaterial, htransform, hgeometry, hcommands,
        htracks⟩ := draw_rebinds hb hsame hagrees
      have hset : ∀ c ∈ material ++ transform ++ geometry, c.isSetting := by
        intro c hc
        rcases List.mem_append.mp hc with hc | hc
        · rcases List.mem_append.mp hc with hc | hc
          · exact hmaterial.isSetting (ProgramBindings.isSetting_uploadAll _) c hc
          · exact htransform.isSetting (ProgramBindings.isSetting_uploadAll _) c hc
        · exact hgeometry.isSetting (isSetting_bindGeometry _ _) c hc
      refine ⟨material ++ transform ++ geometry, ?_, .inr hset, hcommands, ?_, htracks⟩
      · exact fun c hc ↦ Command.isDraw_of_isSetting (hset c hc)
      · exact ReadyDraw.after_rebinds hd hd₀ hs (hagrees.program hsame) (hagrees.features hsame)
          hmaterial htransform hgeometry
  · obtain ⟨hcommands, htracks⟩ := draw_fresh (g := g) hhandle
    exact ⟨d.setup maxTextureUnits g, d.isDraw_setup, .inl rfl, hcommands, rfl, htracks⟩

/-! ### A whole pass -/

/-- The draws of a batch are sound and agree on programs and materials. -/
structure SharedCoherent (batch : List (Except SkipReason ReadyDraw)) : Prop where
  sound : ∀ d, .ok d ∈ batch → d.Sound
  agrees : ∀ d d', .ok d ∈ batch → .ok d' ∈ batch → d.AgreesShared d'

theorem SharedCoherent.tail {entry : Except SkipReason ReadyDraw}
    {rest : List (Except SkipReason ReadyDraw)} (hbatch : SharedCoherent (entry :: rest)) :
    SharedCoherent rest where
  sound d hd := hbatch.sound d (List.mem_cons_of_mem _ hd)
  agrees d d' hd hd' :=
    hbatch.agrees d d' (List.mem_cons_of_mem _ hd) (List.mem_cons_of_mem _ hd')

/-- The draws of a batch are sound and agree with each other. -/
structure Coherent (batch : List (Except SkipReason ReadyDraw)) : Prop where
  sound : ∀ d, .ok d ∈ batch → d.Sound
  agrees : ∀ d d', .ok d ∈ batch → .ok d' ∈ batch → d.Agrees d'

theorem Coherent.tail {entry : Except SkipReason ReadyDraw}
    {rest : List (Except SkipReason ReadyDraw)} (hbatch : Coherent (entry :: rest)) :
    Coherent rest where
  sound d hd := hbatch.sound d (List.mem_cons_of_mem _ hd)
  agrees d d' hd hd' :=
    hbatch.agrees d d' (List.mem_cons_of_mem _ hd) (List.mem_cons_of_mem _ hd')

/-- The draws of a pass, each with the state it happens in, are those of the reference pass. -/
theorem observe_drawAll {batch : List (Except SkipReason ReadyDraw)} (hbatch : Coherent batch)
    {s : GpuState} (hfollows : ∀ d, .ok d ∈ batch → b.Follows maxTextureUnits g s d) :
    s.observe (b.drawAll maxTextureUnits g batch).1 =
      s.observe (referencePass maxTextureUnits g batch) := by
  induction batch generalizing b s with
  | nil => rfl
  | cons entry rest ih =>
    cases entry with
    | error reason =>
      exact ih hbatch.tail fun d hd ↦ (hfollows d (List.mem_cons_of_mem _ hd)).skip
    | ok d =>
      have hd := hbatch.sound d List.mem_cons_self
      obtain ⟨preparation, hquiet, _, hcommands, hafter, htracks⟩ :=
        draw_prepared hd (hfollows d List.mem_cons_self)
      have hlater : ∀ d', .ok d' ∈ rest →
          (b.draw maxTextureUnits g d).2.Follows maxTextureUnits g (s.after preparation) d' := by
        intro d' hd'
        refine .inr ⟨d, hd, ?_, htracks, ?_⟩
        · exact hbatch.agrees d d' List.mem_cons_self (List.mem_cons_of_mem _ hd')
        · rw [hafter]
          exact ReadyDraw.settled_setup hd s
      have hdraw := d.buffers.isDraw_draw
      show s.observe ((b.draw maxTextureUnits g d).1 ++
          ((b.draw maxTextureUnits g d).2.drawAll maxTextureUnits g rest).1) =
        s.observe (d.setup maxTextureUnits g ++ [d.buffers.draw] ++
          referencePass maxTextureUnits g rest)
      rw [hcommands, GpuState.observe_prepared s hquiet hdraw,
        GpuState.observe_prepared s d.isDraw_setup hdraw, ih hbatch.tail hlater, hafter]

end DrawState

end SceneRenderer
