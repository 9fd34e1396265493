import SceneRenderer.Proofs.Frame.MaterialShape

/-!
The setup of a draw, part by part. The state after it is one that each part would leave as it is.
A part that the next draw skips is therefore in place, and one that it does not skip covers whatever
the draw before set on that level.
-/

set_option autoImplicit false
set_option relaxedAutoImplicit false

namespace SceneRenderer

open Shader

namespace ReadyDraw

section Setup

variable (maxTextureUnits : UInt32) (g : FrameGlobals) (d : ReadyDraw)

/-- Uses the program and sets what all its draws share. -/
def bindProgram : List Command :=
  .useProgram d.program.id :: d.program.bindings.uploadAll (g.uploads d.features).1

/-- The units that the program leaves to materials. -/
def units : TextureUnits := .new (g.uploads d.features).2 maxTextureUnits

def bindMaterial : List Command :=
  d.program.bindings.uploadAll (d.material.uploads d.features (d.units maxTextureUnits g)).1

def bindTransform : List Command :=
  d.program.bindings.uploadAll (d.transform.uploads d.features.hasNormals)

def bindGeometry : List Command := SceneRenderer.bindGeometry d.program.bindings d.buffers

/-- Everything a draw needs. -/
def setup : List Command :=
  d.bindProgram g ++ d.bindMaterial maxTextureUnits g ++ d.bindTransform ++ d.bindGeometry

end Setup

/-- A draw whose program keeps its uniforms apart and was made for the material. -/
structure Sound (d : ReadyDraw) : Prop where
  distinct : d.program.bindings.Distinct
  fits : d.material.Fits d.features

/-- What two draws call by one name is the same, as far as programs and materials go. -/
structure AgreesShared (d d' : ReadyDraw) : Prop where
  program : d.handle = d'.handle → d.program = d'.program
  features : d.handle = d'.handle → d.features = d'.features
  material : d.material.id = d'.material.id → d.material = d'.material

/-- What two draws call by one name is the same. -/
structure Agrees (d d' : ReadyDraw) : Prop where
  program : d.handle = d'.handle → d.program = d'.program
  features : d.handle = d'.handle → d.features = d'.features
  material : d.material.id = d'.material.id → d.material = d'.material
  transform : d.transform.id = d'.transform.id → d.transform = d'.transform
  buffers : d.geometry = d'.geometry → d.buffers = d'.buffers

end ReadyDraw

/-! ### The state after a setup -/

namespace GpuState

/-- What commands would leave as it is survives others that set other registers. -/
theorem after_eq_self {s : GpuState} {commands other : List Command}
    (hstable : s.after commands = s)
    (hapart : ∀ r, effect commands r ≠ none → effect other r = none) :
    (s.after other).after commands = s.after other := by
  funext r
  by_cases hset : effect commands r = none
  · show (effect commands r).or _ = _
    rw [hset, Option.none_or]
  · have hs : (effect commands r).or (s r) = s r := congrFun hstable r
    show (effect commands r).or ((effect other r).or (s r)) = (effect other r).or (s r)
    rw [hapart r hset, Option.none_or, hs]

/-- Commands after others that are in place, in exchange for such that set the same registers. -/
theorem after_exchange {s : GpuState} {base commands commands' : List Command}
    (hstable : s.after (base ++ commands) = s)
    (hsame : ∀ r, effect commands r = none ↔ effect commands' r = none) :
    s.after (base ++ commands') = s.after commands' := by
  funext r
  show (effect (base ++ commands') r).or (s r) = (effect commands' r).or (s r)
  rw [effect_append]
  by_cases hset : effect commands' r = none
  · have hs : (effect (base ++ commands) r).or (s r) = s r := congrFun hstable r
    rw [effect_append, (hsame r).mpr hset, Option.none_or] at hs
    rw [hset, Option.none_or, Option.none_or, hs]
  · obtain ⟨x, hx⟩ := Option.ne_none_iff_exists'.mp hset
    rw [hx, Option.some_or, Option.some_or]

end GpuState

namespace ReadyDraw

variable (maxTextureUnits : UInt32) (g : FrameGlobals)

/-- All parts of a draw's setup are in place. -/
structure Settled (d : ReadyDraw) (s : GpuState) : Prop where
  shared : s.after (d.bindProgram g ++ d.bindMaterial maxTextureUnits g) = s
  transform : s.after d.bindTransform = s
  geometry : s.after d.bindGeometry = s

theorem setsOnly_shared (d : ReadyDraw) :
    d.program.bindings.SetsOnly .shared (d.bindProgram g ++ d.bindMaterial maxTextureUnits g) := by
  have huse : d.program.bindings.SetsOnly .shared [.useProgram d.program.id] := by
    intro r hset
    cases r with
    | program => exact ⟨.program, rfl, rfl⟩
    | _ => exact absurd rfl hset
  have hglobals := ProgramBindings.setsOnly_uploadAll (b := d.program.bindings)
    (g.level_uploads d.features)
  have hmaterial := ProgramBindings.setsOnly_uploadAll (b := d.program.bindings)
    (d.material.level_uploads d.features (d.units maxTextureUnits g))
  exact (huse.append hglobals).append hmaterial

theorem setsOnly_bindTransform (d : ReadyDraw) :
    d.program.bindings.SetsOnly .transform d.bindTransform :=
  ProgramBindings.setsOnly_uploadAll (d.transform.level_uploads _)

theorem setsOnly_bindGeometry (d : ReadyDraw) :
    d.program.bindings.SetsOnly .geometry d.bindGeometry :=
  SceneRenderer.setsOnly_bindGeometry _ _

theorem setup_eq (d : ReadyDraw) :
    d.setup maxTextureUnits g =
      (d.bindProgram g ++ d.bindMaterial maxTextureUnits g) ++ d.bindTransform ++ d.bindGeometry :=
  rfl

variable {maxTextureUnits g} {d d₀ : ReadyDraw} {s : GpuState}

/-- A setup puts all its parts in place. -/
theorem settled_setup (hd : d.Sound) (s : GpuState) :
    d.Settled maxTextureUnits g (s.after (d.setup maxTextureUnits g)) := by
  have hshared := d.setsOnly_shared maxTextureUnits g
  have htransform := d.setsOnly_bindTransform
  have hgeometry := d.setsOnly_bindGeometry
  rw [setup_eq, GpuState.after_append, GpuState.after_append]
  constructor
  · refine GpuState.after_eq_self (GpuState.after_eq_self (GpuState.after_after _ _) ?_) ?_
    · exact hshared.apart htransform hd.distinct nofun
    · exact hshared.apart hgeometry hd.distinct nofun
  · refine GpuState.after_eq_self (GpuState.after_after _ _) ?_
    exact htransform.apart hgeometry hd.distinct nofun
  · exact GpuState.after_after _ _

/-- What a pass does for one part of a setup: it binds the part, or skips it where the draw before
had the same. -/
def Rebinds (part part₀ rebind : List Command) : Prop :=
  rebind = part ∨ rebind = [] ∧ part = part₀

theorem after_rebind {part part₀ rebind : List Command} (hrebind : Rebinds part part₀ rebind)
    (hplace : s.after part₀ = s) : s.after rebind = s.after part := by
  rcases hrebind with rfl | ⟨rfl, rfl⟩
  · rfl
  · rw [hplace]
    rfl

/-- Materials of one program set the same registers. -/
theorem effect_bindMaterial (hd : d.Sound) (hd₀ : d₀.Sound) (hprogram : d₀.program = d.program)
    (hfeatures : d₀.features = d.features) (r : Register) :
    effect (d₀.bindMaterial maxTextureUnits g) r = none ↔
      effect (d.bindMaterial maxTextureUnits g) r = none := by
  have hfits : d₀.material.Fits d.features := hfeatures ▸ hd₀.fits
  unfold bindMaterial units
  rw [hprogram, hfeatures]
  exact ProgramBindings.effect_eq_none_iff (Material.slots_uploads hfits hd.fits _) r

/-- Within a program, rebinding the material where it differs does the same as binding the program
and the material. -/
theorem after_rebindMaterial (hd : d.Sound) (hd₀ : d₀.Sound)
    (hplace : s.after (d₀.bindProgram g ++ d₀.bindMaterial maxTextureUnits g) = s)
    (hprogram : d₀.program = d.program) (hfeatures : d₀.features = d.features)
    {material : List Command}
    (hmaterial : Rebinds (d.bindMaterial maxTextureUnits g) (d₀.bindMaterial maxTextureUnits g)
      material) :
    s.after material = s.after (d.bindProgram g ++ d.bindMaterial maxTextureUnits g) := by
  have hsame : d₀.bindProgram g = d.bindProgram g := by
    unfold bindProgram
    rw [hprogram, hfeatures]
  rw [hsame] at hplace
  rcases hmaterial with rfl | ⟨rfl, hmaterial⟩
  · exact (GpuState.after_exchange hplace
      (effect_bindMaterial hd hd₀ hprogram hfeatures)).symm
  · rw [hmaterial, hplace]
    rfl

/-- Within a program, rebinding what differs does the same as the whole setup. -/
theorem after_rebinds (hd : d.Sound) (hd₀ : d₀.Sound) (hs : d₀.Settled maxTextureUnits g s)
    (hprogram : d₀.program = d.program) (hfeatures : d₀.features = d.features)
    {material transform geometry : List Command}
    (hmaterial : Rebinds (d.bindMaterial maxTextureUnits g) (d₀.bindMaterial maxTextureUnits g)
      material)
    (htransform : Rebinds d.bindTransform d₀.bindTransform transform)
    (hgeometry : Rebinds d.bindGeometry d₀.bindGeometry geometry) :
    s.after (material ++ transform ++ geometry) = s.after (d.setup maxTextureUnits g) := by
  have hsetsShared := d.setsOnly_shared maxTextureUnits g
  have hsetsTransform : d.program.bindings.SetsOnly .transform d₀.bindTransform :=
    hprogram ▸ d₀.setsOnly_bindTransform
  have hsetsGeometry : d.program.bindings.SetsOnly .geometry d₀.bindGeometry :=
    hprogram ▸ d₀.setsOnly_bindGeometry
  have hfirst := after_rebindMaterial hd hd₀ hs.shared hprogram hfeatures hmaterial
  have hplaceTransform := GpuState.after_eq_self hs.transform
    (hsetsTransform.apart hsetsShared hd.distinct nofun)
  have hplaceGeometry := GpuState.after_eq_self
    (GpuState.after_eq_self hs.geometry (hsetsGeometry.apart hsetsShared hd.distinct nofun))
    (hsetsGeometry.apart d.setsOnly_bindTransform hd.distinct nofun)
  rw [setup_eq, GpuState.after_append, GpuState.after_append, GpuState.after_append s,
    GpuState.after_append s, hfirst, after_rebind htransform hplaceTransform,
    after_rebind hgeometry hplaceGeometry]

theorem Rebinds.isSetting {part part₀ rebind : List Command} (hrebind : Rebinds part part₀ rebind)
    (hset : ∀ c ∈ part, c.isSetting) : ∀ c ∈ rebind, c.isSetting := by
  rcases hrebind with rfl | ⟨rfl, _⟩
  · exact hset
  · exact fun c hc ↦ absurd hc List.not_mem_nil

/-- A setup draws nothing. -/
theorem isDraw_setup (d : ReadyDraw) : ∀ c ∈ d.setup maxTextureUnits g, c.isDraw = false := by
  intro c hc
  rcases List.mem_append.mp hc with hc | hc
  · rcases List.mem_append.mp hc with hc | hc
    · rcases List.mem_append.mp hc with hc | hc
      · rcases List.mem_cons.mp hc with rfl | hc
        · rfl
        · exact ProgramBindings.isDraw_uploadAll _ c hc
      · exact ProgramBindings.isDraw_uploadAll _ c hc
    · exact ProgramBindings.isDraw_uploadAll _ c hc
  · exact isDraw_bindGeometry _ _ c hc

namespace AgreesShared

theorem units_eq (hagrees : d₀.AgreesShared d) (hhandle : d₀.handle = d.handle) :
    d₀.units maxTextureUnits g = d.units maxTextureUnits g := by
  unfold units
  rw [hagrees.features hhandle]

theorem bindMaterial_eq (hagrees : d₀.AgreesShared d) (hhandle : d₀.handle = d.handle)
    (hid : d₀.material.id = d.material.id) :
    d.bindMaterial maxTextureUnits g = d₀.bindMaterial maxTextureUnits g := by
  unfold bindMaterial
  rw [hagrees.units_eq hhandle, hagrees.program hhandle, hagrees.features hhandle,
    hagrees.material hid]

end AgreesShared

namespace Agrees

theorem shared (hagrees : d₀.Agrees d) : d₀.AgreesShared d :=
  ⟨hagrees.program, hagrees.features, hagrees.material⟩

theorem bindTransform_eq (hagrees : d₀.Agrees d) (hhandle : d₀.handle = d.handle)
    (hid : d₀.transform.id = d.transform.id) : d.bindTransform = d₀.bindTransform := by
  unfold bindTransform
  rw [hagrees.program hhandle, hagrees.features hhandle, hagrees.transform hid]

theorem bindGeometry_eq (hagrees : d₀.Agrees d) (hhandle : d₀.handle = d.handle)
    (hid : d₀.geometry = d.geometry) : d.bindGeometry = d₀.bindGeometry := by
  unfold bindGeometry
  rw [hagrees.program hhandle, hagrees.buffers hid]

end Agrees

end ReadyDraw

end SceneRenderer
