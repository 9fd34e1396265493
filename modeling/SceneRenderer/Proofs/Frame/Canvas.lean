import SceneRenderer.Proofs.Frame.ShadowFreshness

/-!
Where draws go. Only commands that bind a target, set the viewport or clear tell what is drawn to;
the draws of a pass have none of these, so they all go where the commands before the pass have
pointed.

`GpuState.shown` adds the canvas to what `GpuState.observeSince` tells of each draw.
-/

set_option autoImplicit false
set_option relaxedAutoImplicit false

namespace SceneRenderer

/-- What is drawn to. -/
structure Canvas where
  /-- A render target, or the surface. -/
  target : Option RenderTargetId
  viewport : UInt32 × UInt32
  /-- Colors and depths were cleared since the target was bound. -/
  cleared : Bool

namespace Canvas

/-- The canvas after a command. -/
def step (k : Canvas) : Command → Canvas
  | .bindRenderTarget target => ⟨target, k.viewport, false⟩
  | .setViewport width height => { k with viewport := (width, height) }
  | .clear color depth => { k with cleared := k.cleared || color.isSome && depth }
  | _ => k

/-- The canvas after commands. -/
def after (k : Canvas) (commands : List Command) : Canvas := commands.foldl step k

theorem after_append (k : Canvas) (commands rest : List Command) :
    k.after (commands ++ rest) = (k.after commands).after rest :=
  List.foldl_append

end Canvas

/-- Tells what is drawn to. -/
def Command.isCanvas : Command → Bool
  | .bindRenderTarget _ | .setViewport .. | .clear .. => true
  | _ => false

theorem Canvas.step_of_not_isCanvas {c : Command} (hc : c.isCanvas = false) (k : Canvas) :
    k.step c = k := by
  cases c with
  | bindRenderTarget target => exact absurd hc nofun
  | setViewport width height => exact absurd hc nofun
  | clear color depth => exact absurd hc nofun
  | _ => rfl

theorem Command.isCanvas_of_isSetting {c : Command} (hc : c.isSetting) : c.isCanvas = false := by
  cases c with
  | bindRenderTarget target => exact absurd hc nofun
  | setViewport width height => exact absurd hc nofun
  | clear color depth => exact absurd hc nofun
  | _ => rfl

theorem Command.isCanvas_of_isDraw {c : Command} (hc : c.isDraw) : c.isCanvas = false := by
  cases c with
  | bindRenderTarget target => exact absurd hc nofun
  | setViewport width height => exact absurd hc nofun
  | clear color depth => exact absurd hc nofun
  | _ => rfl

/-- A draw, with what was set since its program was made current, and what it draws to. -/
structure Shown where
  draw : Command
  state : GpuState
  canvas : Canvas

namespace GpuState

/-- The draws among commands, each with its state and its canvas. -/
def shown (s : GpuState) (k : Canvas) : List Command → List Shown
  | [] => []
  | c :: rest =>
    if c.isDraw then ⟨c, s, k⟩ :: shown (s.renew c) (k.step c) rest
    else shown (s.renew c) (k.step c) rest

variable (s : GpuState) (k : Canvas)

theorem shown_append (commands rest : List Command) :
    s.shown k (commands ++ rest) =
      s.shown k commands ++ (s.since commands).shown (k.after commands) rest := by
  induction commands generalizing s k with
  | nil => rfl
  | cons c commands ih =>
    rw [List.cons_append, shown, shown, ih]
    split <;> rfl

/-- Draws that no other canvas comes between are shown on the one there is. -/
theorem shown_of_not_isCanvas {commands : List Command}
    (hkeep : ∀ c ∈ commands, c.isCanvas = false) :
    s.shown k commands = (s.observeSince commands).map fun d ↦ ⟨d.1, d.2, k⟩ := by
  induction commands generalizing s with
  | nil => rfl
  | cons c rest ih =>
    have hc := Canvas.step_of_not_isCanvas (hkeep c List.mem_cons_self) k
    rw [shown, observeSince, hc, ih _ fun c' hc' ↦ hkeep c' (List.mem_cons_of_mem _ hc')]
    split <;> rfl

theorem shown_eq_nil {commands : List Command} (hquiet : ∀ c ∈ commands, c.isDraw = false) :
    s.shown k commands = [] := by
  induction commands generalizing s k with
  | nil => rfl
  | cons c rest ih =>
    rw [shown, if_neg (Bool.eq_false_iff.mp (hquiet c List.mem_cons_self))]
    exact ih _ _ fun c' hc' ↦ hquiet c' (List.mem_cons_of_mem _ hc')

/-- A pass behind the commands that point it to its canvas. -/
theorem shown_pass {front : List Command} (hquiet : ∀ c ∈ front, c.isDraw = false)
    {pass : List Command} (hkeep : ∀ c ∈ pass, c.isCanvas = false) :
    s.shown k (front ++ pass) =
      (s.observeSince (front ++ pass)).map fun d ↦ ⟨d.1, d.2, k.after front⟩ := by
  rw [shown_append, shown_eq_nil _ _ hquiet, List.nil_append, shown_of_not_isCanvas _ _ hkeep,
    observeSince_append, observeSince_eq_nil _ hquiet, List.nil_append]

end GpuState

/-! ### Passes -/

namespace DrawState

variable (maxTextureUnits : UInt32) (g : FrameGlobals)

theorem isCanvas_draw (d : ReadyDraw) (b : DrawState) :
    ∀ c ∈ (b.draw maxTextureUnits g d).1, c.isCanvas = false := by
  have huploads (uploads : List Upload) :
      ∀ c ∈ d.program.bindings.uploadAll uploads, c.isCanvas = false := fun c hc ↦
    Command.isCanvas_of_isSetting (ProgramBindings.isSetting_uploadAll _ c hc)
  unfold draw
  simp only [List.forall_mem_append, List.forall_mem_singleton]
  refine ⟨⟨⟨⟨?_, ?_⟩, ?_⟩, ?_⟩, Command.isCanvas_of_isDraw d.buffers.isDraw_draw⟩
  · unfold bindProgram
    split
    · exact List.forall_mem_nil _
    · exact List.forall_mem_cons.mpr ⟨rfl, huploads _⟩
  · unfold bindMaterial
    split
    · exact List.forall_mem_nil _
    · exact huploads _
  · unfold bindTransform
    split
    · exact List.forall_mem_nil _
    · exact huploads _
  · unfold bindGeometry
    split
    · exact List.forall_mem_nil _
    · exact fun c hc ↦ Command.isCanvas_of_isSetting (isSetting_bindGeometry _ _ c hc)

theorem isCanvas_drawAll (batch : List (Except SkipReason ReadyDraw)) (b : DrawState) :
    ∀ c ∈ (b.drawAll maxTextureUnits g batch).1, c.isCanvas = false := by
  induction batch generalizing b with
  | nil => exact List.forall_mem_nil _
  | cons entry rest ih =>
    cases entry with
    | error reason => exact ih _
    | ok d => exact List.forall_mem_append.mpr ⟨isCanvas_draw maxTextureUnits g d b, ih _⟩

end DrawState

namespace CastState

theorem isCanvas_draw (light : Light) (d : ReadyCaster) (b : CastState) :
    ∀ c ∈ (b.draw light d).1, c.isCanvas = false := by
  have huploads (uploads : List Upload) :
      ∀ c ∈ d.program.bindings.uploadAll uploads, c.isCanvas = false := fun c hc ↦
    Command.isCanvas_of_isSetting (ProgramBindings.isSetting_uploadAll _ c hc)
  unfold draw
  simp only [List.forall_mem_append, List.forall_mem_singleton]
  refine ⟨⟨⟨⟨?_, ?_⟩, ?_⟩, huploads _⟩, Command.isCanvas_of_isDraw d.buffers.isDraw_draw⟩
  · unfold bindProgram
    split
    · exact List.forall_mem_nil _
    · exact List.forall_mem_cons.mpr ⟨rfl, huploads _⟩
  · unfold bindTransform
    split
    · exact List.forall_mem_nil _
    · exact huploads _
  · unfold bindGeometry
    split
    · exact List.forall_mem_nil _
    · exact fun c hc ↦ Command.isCanvas_of_isSetting (isSetting_bindGeometry _ _ c hc)

theorem isCanvas_drawAll (light : Light) (batch : List (Option ReadyCaster)) (b : CastState) :
    ∀ c ∈ (b.drawAll light batch).1, c.isCanvas = false := by
  induction batch generalizing b with
  | nil => exact List.forall_mem_nil _
  | cons caster rest ih =>
    cases caster with
    | none => exact ih _
    | some d => exact List.forall_mem_append.mpr ⟨isCanvas_draw light d b, ih _⟩

end CastState

namespace ShadowRenderer

variable {batch : List (Option ReadyCaster)} {lights : List Light} {s : GpuState} {k : Canvas}

/-- The whole of a map, just cleared. -/
def mapCanvas (m : ShadowMap) : Canvas :=
  ⟨some m.target.id, (m.target.width, m.target.height), true⟩

/-- The draws into a map go to this map. -/
theorem shown_renderMap (stats : FrameStats) (m : ShadowMap) :
    s.shown k (renderMap batch lights stats m).1 =
      (s.observeSince (renderMap batch lights stats m).1).map fun d ↦ ⟨d.1, d.2, mapCanvas m⟩ := by
  unfold renderMap
  cases lights[m.light.toNat]? with
  | none => rfl
  | some light =>
    have hquiet : ∀ c ∈ m.target.bind ++ [.clear (some ⟨1.0, 1.0, 1.0, 1.0⟩) true],
        c.isDraw = false := by
      simp [RenderTarget.bind, Command.isDraw]
    exact GpuState.shown_pass s k hquiet (CastState.isCanvas_drawAll light batch _)

/-- Each draw of the shadow pass finds its parts in place, and goes to the map of its light. -/
theorem shown_renderMaps (hbatch : CastState.Coherent batch) (stats : FrameStats)
    (maps : List ShadowMap) :
    List.Forall₂ (fun p d ↦ d.draw = p.2.2.buffers.draw ∧ p.2.2.Settled p.2.1 d.state ∧
        d.canvas = mapCanvas p.1)
      (maps.flatMap fun m ↦ (mapDraws batch lights m).map (m, ·))
      (s.shown k (renderMaps batch lights stats maps).1) := by
  induction maps generalizing stats s k with
  | nil => exact .nil
  | cons m rest ih =>
    show List.Forall₂ _ ((mapDraws batch lights m).map (m, ·) ++ rest.flatMap _)
      (s.shown k ((renderMap batch lights stats m).1 ++ _))
    rw [GpuState.shown_append]
    refine List.rel_append ?_ (ih _)
    rw [shown_renderMap, List.forall₂_map_left_iff, List.forall₂_map_right_iff]
    exact (settled_renderMap hbatch stats m).imp fun p d hd ↦ ⟨hd.1, hd.2, rfl⟩

end ShadowRenderer

end SceneRenderer
