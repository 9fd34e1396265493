/-!
Texture units for the textures of a material. They start at the first unit that the program's own
textures leave, and come round to it again when the device has no more.
-/

set_option autoImplicit false
set_option relaxedAutoImplicit false

namespace SceneRenderer

structure TextureUnits where
  base : UInt32
  limit : UInt32
  /-- How many units were given out since the last start. -/
  handed : UInt32
  /-- Some unit was given out twice since then. -/
  wrapped : Bool
  base_lt_limit : base < limit
deriving Repr

namespace TextureUnits

theorem one_le_max (n : UInt32) : 1 ≤ max n 1 := by
  change (1 : UInt32) ≤ if n ≤ 1 then 1 else n
  split
  · exact UInt32.le_refl _
  · grind

theorem min_pred_lt (base limit : UInt32) : min base (max limit 1 - 1) < max limit 1 := by
  have h := one_le_max limit
  generalize max limit 1 = x at h
  change (if base ≤ x - 1 then base else x - 1) < x
  have hpred : (x - 1).toNat = x.toNat - 1 := UInt32.toNat_sub_of_le _ _ h
  have hone : (1 : UInt32).toNat = 1 := rfl
  rw [UInt32.le_iff_toNat_le] at h
  rw [UInt32.lt_iff_toNat_lt]
  split
  · rename_i hb
    rw [UInt32.le_iff_toNat_le] at hb
    omega
  · omega

/-- A device has at least one unit, and at least one is left for materials. -/
def new (base limit : UInt32) : TextureUnits :=
  ⟨min base (max limit 1 - 1), max limit 1, 0, false, min_pred_lt base limit⟩

instance : Inhabited TextureUnits := ⟨new 0 0⟩

/-- The number of units to choose from. -/
def span (u : TextureUnits) : UInt32 := u.limit - u.base

/-- The next unit. The call behind a full round is the first one that gives out a unit again. -/
def next (u : TextureUnits) : UInt32 × TextureUnits :=
  (u.base + u.handed % u.span,
    { u with handed := u.handed + 1, wrapped := u.wrapped || u.handed == u.span })

def reset (u : TextureUnits) : TextureUnits := { u with handed := 0, wrapped := false }

end TextureUnits

end SceneRenderer
