import SceneRenderer.Proofs.Frame.Freshness

/-!
The shared part of a setup, which is the program with what all its draws share, and the material. A
draw finds this part in place whatever is bound for transforms and geometries: those are other
levels, so it does not matter whether they are bound again or skipped, nor whether their identities
can be trusted.
-/

set_option autoImplicit false
set_option relaxedAutoImplicit false

namespace SceneRenderer

open Shader

variable {maxTextureUnits : UInt32} {g : FrameGlobals} {s : GpuState}

namespace ReadyDraw

variable (maxTextureUnits g) in
/-- Binding the program and the material of a draw would change nothing. -/
def Placed (d : ReadyDraw) (s : GpuState) : Prop :=
  s.after (d.bindProgram g ++ d.bindMaterial maxTextureUnits g) = s

variable {d : ReadyDraw}

/-- What other levels set does not displace the shared part. -/
theorem Placed.after (hs : d.Placed maxTextureUnits g s) (hdistinct : d.program.bindings.Distinct)
    {l : Level} {commands : List Command} (hcommands : d.program.bindings.SetsOnly l commands)
    (hl : l ≠ .shared) :
    d.Placed maxTextureUnits g (s.after commands) :=
  GpuState.after_eq_self hs fun r hset ↦
    (d.setsOnly_shared maxTextureUnits g).apart hcommands hdistinct (Ne.symm hl) r hset

end ReadyDraw

namespace DrawState

variable {b : DrawState} {d d₀ : ReadyDraw}

variable (maxTextureUnits g) in
/-- The markers of the program and the material stand for a draw, and so do the units. -/
structure TracksShared (b : DrawState) (d : ReadyDraw) : Prop where
  program : b.bound.program = some d.handle
  material : b.bound.material = some d.material.id
  units : b.units.reset = (d.units maxTextureUnits g).reset

theorem Tracks.shared (hb : b.Tracks maxTextureUnits g d) : b.TracksShared maxTextureUnits g d :=
  ⟨congrArg BoundState.program hb.bound, congrArg BoundState.material hb.bound, hb.units⟩

variable (maxTextureUnits g) in
/-- Nothing is bound yet, or the draw before left its program and its material in place. -/
def FollowsShared (b : DrawState) (s : GpuState) (d : ReadyDraw) : Prop :=
  b.bound.program = none ∨ ∃ d₀ : ReadyDraw, d₀.Sound ∧ d₀.AgreesShared d ∧
    b.TracksShared maxTextureUnits g d₀ ∧ d₀.Placed maxTextureUnits g s

theorem FollowsShared.skip (hfollows : b.FollowsShared maxTextureUnits g s d) :
    b.skip.FollowsShared maxTextureUnits g s d := by
  rcases hfollows with hnone | ⟨d₀, hd₀, hagrees, hb, hs⟩
  · exact .inl hnone
  · exact .inr ⟨d₀, hd₀, hagrees, ⟨hb.program, hb.material, hb.units⟩, hs⟩

end DrawState

end SceneRenderer
