import Mathlib.Topology.UnitInterval
import SceneRenderer.Proofs.Numeric.Exact
import SceneRenderer.Shader.Reflectance

/-!
Materials give back no more light than they receive. On a metallic surface a channel loses what
neither the base color nor the dielectric layer over it reflects (`metallic_channel_eq`); on a
surface with its own specular color the strongest channel leaves enough of the light to all others.

The main statement is `reflected_light_bounded`, in exact arithmetic.
-/

set_option autoImplicit false
set_option relaxedAutoImplicit false

namespace SceneRenderer

open Set (Icc Ici)

/-- Every channel of a color lies in a set. -/
def Vec3.ChannelsIn (color : Vec3 ℝ) (s : Set ℝ) : Prop :=
  color.x ∈ s ∧ color.y ∈ s ∧ color.z ∈ s

namespace Reflectance

/-! ### Channels -/

section Channel

variable {base layer metallic : ℝ}

theorem dielectric_mem {f0 : ℝ} (hf0 : f0 ∈ Icc 0 1) : dielectric f0 ∈ Icc (0 : ℝ) 1 := by
  have hfactor : (0.16 : ℝ) ∈ Icc (0 : ℝ) 1 := by
    constructor <;> norm_num
  exact unitInterval.mul_mem (unitInterval.mul_mem hfactor hf0) hf0

/-- What is not lost in the base and in the layer over it. -/
theorem metallic_channel_eq (base layer metallic : ℝ) :
    base * (1 - layer) * (1 - metallic) + (layer * (1 - metallic) + base * metallic) =
      1 - (1 - base) * (1 - layer * (1 - metallic)) := by
  ring

variable (hbase : base ∈ Icc 0 1) (hlayer : layer ∈ Icc 0 1) (hmetallic : metallic ∈ Icc 0 1)

include hbase hlayer hmetallic

theorem metallic_channel_nonneg :
    0 ≤ base * (1 - layer) * (1 - metallic) ∧ 0 ≤ layer * (1 - metallic) + base * metallic := by
  obtain ⟨hbelow, -⟩ := hbase
  have hrest := (Icc.one_sub_mem hlayer).1
  have hshare := (Icc.one_sub_mem hmetallic).1
  exact ⟨by positivity, add_nonneg (mul_nonneg hlayer.1 hshare) (mul_nonneg hbelow hmetallic.1)⟩

theorem metallic_channel_mem :
    base * (1 - layer) * (1 - metallic) + (layer * (1 - metallic) + base * metallic) ∈ Icc 0 1 := by
  have hkept := unitInterval.mul_mem hlayer (Icc.one_sub_mem hmetallic)
  rw [metallic_channel_eq]
  exact Icc.one_sub_mem (unitInterval.mul_mem (Icc.one_sub_mem hbase) (Icc.one_sub_mem hkept))

end Channel

/-- The strongest specular channel leaves enough of the light to all others. -/
theorem specular_channel_mem {diffuse specular strongest : ℝ} (hdiffuse : diffuse ∈ Icc 0 1)
    (hspecular : 0 ≤ specular) (hle : specular ≤ strongest) (hstrongest : strongest ≤ 1) :
    0 ≤ diffuse * (1 - strongest) ∧ diffuse * (1 - strongest) + specular ∈ Icc 0 1 := by
  have hrest : 0 ≤ 1 - strongest := sub_nonneg.mpr hstrongest
  have hnonneg := mul_nonneg hdiffuse.1 hrest
  refine ⟨hnonneg, add_nonneg hnonneg hspecular, ?_⟩
  calc diffuse * (1 - strongest) + specular
      ≤ (1 - strongest) + strongest := add_le_add (mul_le_of_le_one_left hrest hdiffuse.2) hle
    _ = 1 := sub_add_cancel 1 strongest

/-! ### Colors -/

section Colors

variable (base diffuse specular : Vec3 ℝ) (metallic f0 : ℝ)

theorem metallicDiffuse_eq : metallicDiffuse base metallic f0 =
    ⟨base.x * (1 - dielectric f0) * (1 - metallic), base.y * (1 - dielectric f0) * (1 - metallic),
      base.z * (1 - dielectric f0) * (1 - metallic)⟩ := by
  simp [metallicDiffuse, Vec3.scale]

theorem metallicSpecular_eq : metallicSpecular base metallic f0 =
    ⟨dielectric f0 * (1 - metallic) + base.x * metallic,
      dielectric f0 * (1 - metallic) + base.y * metallic,
      dielectric f0 * (1 - metallic) + base.z * metallic⟩ := by
  simp [metallicSpecular, Vec3.lerp, Vec3.splat, Vec3.scale]

theorem specularDiffuse_eq : specularDiffuse diffuse specular =
    ⟨diffuse.x * (1 - max specular.x (max specular.y specular.z)),
      diffuse.y * (1 - max specular.x (max specular.y specular.z)),
      diffuse.z * (1 - max specular.x (max specular.y specular.z))⟩ := by
  simp [specularDiffuse, Vec3.scale, Vec3.maxElement, Scalar.exact_greater]

theorem metallic_one : metallicDiffuse base 1 f0 = .zero ∧ metallicSpecular base 1 f0 = base := by
  rw [metallicDiffuse_eq, metallicSpecular_eq]
  simp [Vec3.zero, Vec3.splat]

variable {base diffuse specular metallic f0}

theorem metallic_mem (hbase : base.ChannelsIn (Icc 0 1)) (hmetallic : metallic ∈ Icc 0 1)
    (hf0 : f0 ∈ Icc 0 1) :
    (metallicDiffuse base metallic f0).ChannelsIn (Ici 0) ∧
      (metallicSpecular base metallic f0).ChannelsIn (Ici 0) ∧
      (metallicDiffuse base metallic f0 + metallicSpecular base metallic f0).ChannelsIn
        (Icc 0 1) := by
  obtain ⟨hx, hy, hz⟩ := hbase
  have hlayer := dielectric_mem hf0
  obtain ⟨hdiffuse, hspecular⟩ := metallic_channel_nonneg hx hlayer hmetallic
  obtain ⟨hdiffuse', hspecular'⟩ := metallic_channel_nonneg hy hlayer hmetallic
  obtain ⟨hdiffuse'', hspecular''⟩ := metallic_channel_nonneg hz hlayer hmetallic
  rw [metallicDiffuse_eq, metallicSpecular_eq]
  exact ⟨⟨hdiffuse, hdiffuse', hdiffuse''⟩, ⟨hspecular, hspecular', hspecular''⟩,
    metallic_channel_mem hx hlayer hmetallic, metallic_channel_mem hy hlayer hmetallic,
    metallic_channel_mem hz hlayer hmetallic⟩

theorem specular_mem (hdiffuse : diffuse.ChannelsIn (Icc 0 1))
    (hspecular : specular.ChannelsIn (Icc 0 1)) :
    (specularDiffuse diffuse specular).ChannelsIn (Ici 0) ∧
      (specularDiffuse diffuse specular + specular).ChannelsIn (Icc 0 1) := by
  obtain ⟨hx, hy, hz⟩ := hdiffuse
  obtain ⟨hx', hy', hz'⟩ := hspecular
  have hstrongest : max specular.x (max specular.y specular.z) ≤ 1 :=
    max_le hx'.2 (max_le hy'.2 hz'.2)
  obtain ⟨hnonneg, hsum⟩ := specular_channel_mem hx hx'.1 (le_max_left _ _) hstrongest
  obtain ⟨hnonneg', hsum'⟩ := specular_channel_mem hy hy'.1
    ((le_max_left _ _).trans (le_max_right _ _)) hstrongest
  obtain ⟨hnonneg'', hsum''⟩ := specular_channel_mem hz hz'.1
    ((le_max_right _ _).trans (le_max_right _ _)) hstrongest
  rw [specularDiffuse_eq]
  exact ⟨⟨hnonneg, hnonneg', hnonneg''⟩, hsum, hsum', hsum''⟩

end Colors

/-- Colors and factors between zero and one make a diffuse and a specular color that are not
negative and together not more than one, for both kinds of surfaces. A full metal has no diffuse
color, and its own color as the specular one. -/
theorem reflected_light_bounded (base diffuse specular : Vec3 ℝ) (metallic f0 : ℝ) :
    (base.ChannelsIn (Icc 0 1) → metallic ∈ Icc 0 1 → f0 ∈ Icc 0 1 →
      (metallicDiffuse base metallic f0).ChannelsIn (Ici 0) ∧
      (metallicSpecular base metallic f0).ChannelsIn (Ici 0) ∧
      (metallicDiffuse base metallic f0 + metallicSpecular base metallic f0).ChannelsIn
        (Icc 0 1) ∧
      metallicDiffuse base 1 f0 = .zero ∧ metallicSpecular base 1 f0 = base) ∧
    (diffuse.ChannelsIn (Icc 0 1) → specular.ChannelsIn (Icc 0 1) →
      (specularDiffuse diffuse specular).ChannelsIn (Ici 0) ∧ specular.ChannelsIn (Ici 0) ∧
      (specularDiffuse diffuse specular + specular).ChannelsIn (Icc 0 1)) := by
  constructor
  · intro hbase hmetallic hf0
    obtain ⟨hdiffuse, hspecular, hsum⟩ := metallic_mem hbase hmetallic hf0
    exact ⟨hdiffuse, hspecular, hsum, metallic_one base f0⟩
  · intro hdiffuse hspecular
    obtain ⟨hnonneg, hsum⟩ := specular_mem hdiffuse hspecular
    exact ⟨hnonneg, ⟨hspecular.1.1, hspecular.2.1.1, hspecular.2.2.1⟩, hsum⟩

/-- Half metal, and white with a colored gloss. -/
theorem reflected_light_bounded_gold :
    (⟨9 / 10, 1 / 2, 1 / 5⟩ : Vec3 ℝ).ChannelsIn (Icc 0 1) ∧
      (metallicDiffuse ⟨9 / 10, 1 / 2, 1 / 5⟩ (1 / 2) 1 +
        metallicSpecular ⟨9 / 10, 1 / 2, 1 / 5⟩ (1 / 2) (1 : ℝ)).ChannelsIn (Icc 0 1) ∧
      (specularDiffuse ⟨1, 1, 1⟩ ⟨1 / 5, 3 / 5, 1 / 10⟩ +
        (⟨1 / 5, 3 / 5, 1 / 10⟩ : Vec3 ℝ)).ChannelsIn (Icc 0 1) := by
  have hgold : (⟨9 / 10, 1 / 2, 1 / 5⟩ : Vec3 ℝ).ChannelsIn (Icc 0 1) := by
    refine ⟨⟨?_, ?_⟩, ⟨?_, ?_⟩, ?_, ?_⟩ <;> norm_num
  have hwhite : (⟨1, 1, 1⟩ : Vec3 ℝ).ChannelsIn (Icc 0 1) := by
    refine ⟨⟨?_, ?_⟩, ⟨?_, ?_⟩, ?_, ?_⟩ <;> norm_num
  have hgloss : (⟨1 / 5, 3 / 5, 1 / 10⟩ : Vec3 ℝ).ChannelsIn (Icc 0 1) := by
    refine ⟨⟨?_, ?_⟩, ⟨?_, ?_⟩, ?_, ?_⟩ <;> norm_num
  obtain ⟨hmetal, hspecular⟩ :=
    reflected_light_bounded ⟨9 / 10, 1 / 2, 1 / 5⟩ ⟨1, 1, 1⟩ ⟨1 / 5, 3 / 5, 1 / 10⟩ (1 / 2) 1
  obtain ⟨-, -, hsum, -⟩ := hmetal hgold ⟨by norm_num, by norm_num⟩ ⟨by norm_num, by norm_num⟩
  exact ⟨hgold, hsum, (hspecular hwhite hgloss).2.2⟩

end Reflectance

end SceneRenderer
