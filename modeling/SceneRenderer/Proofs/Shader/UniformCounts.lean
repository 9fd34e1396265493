import SceneRenderer.Proofs.Shader.DeclaredTypes
import SceneRenderer.Proofs.Shader.DeclaredUniforms

/-!
How many uniforms a program declares: a fixed number, and a few for each of its lights and each of
its clip planes (`length_uniforms_le`).
-/

set_option autoImplicit false
set_option relaxedAutoImplicit false

namespace SceneRenderer

/-! ### Lists without duplicates -/

section Dups

variable {α : Type} [DecidableEq α]

theorem nodup_eraseDups : ∀ l : List α, l.eraseDups.Nodup
  | [] => List.nodup_nil
  | a :: rest => by
    have hshorter := List.length_filter_le (fun b ↦ !b == a) rest
    rw [List.eraseDups_cons]
    refine List.nodup_cons.mpr ⟨fun hin ↦ ?_, nodup_eraseDups (rest.filter fun b ↦ !b == a)⟩
    simp at hin
termination_by l => l.length
decreasing_by exact Nat.lt_succ_of_le hshorter

theorem length_eraseDups_le {l m : List α} (hsubset : l ⊆ m) : l.eraseDups.length ≤ m.length :=
  ((nodup_eraseDups l).subperm fun _ ha ↦ hsubset (List.mem_eraseDups.mp ha)).length_le

end Dups

section Lengths

variable {α β : Type}

theorem append_subset_append {l l' m m' : List α} (hl : l ⊆ m) (hl' : l' ⊆ m') :
    l ++ l' ⊆ m ++ m' :=
  List.append_subset.mpr ⟨List.subset_append_of_subset_left _ hl,
    List.subset_append_of_subset_right _ hl'⟩

theorem length_ite_le {p : Prop} [Decidable p] {l : List α} {n : Nat} (hl : l.length ≤ n) :
    (if p then l else []).length ≤ n := by
  split
  · exact hl
  · exact Nat.zero_le n

theorem length_flatMap_le {f : α → List β} {n : Nat} (hf : ∀ a, (f a).length ≤ n) (l : List α) :
    (l.flatMap f).length ≤ n * l.length := by
  induction l with
  | nil => exact Nat.zero_le _
  | cons a rest ih =>
    rw [List.flatMap_cons, List.length_append, List.length_cons, Nat.mul_succ, Nat.add_comm]
    exact Nat.add_le_add ih (hf a)

end Lengths

namespace Shader

open Name

/-! ### Globals of a stage -/

variable (c : Features) (o : ShaderOptions)

theorem length_worldLightRecords_le (slot : LightSlot) :
    (globals (worldLightRecords slot)).length ≤ 4 := by
  obtain ⟨i, type, space, castsShadow⟩ := slot
  cases type <;> exact Nat.le_of_ble_eq_true rfl

theorem length_lightRecords_le (model : ShadingModel) (slot : LightSlot) :
    (globals (lightRecords model slot)).length ≤ 8 := by
  obtain ⟨i, type, space, castsShadow⟩ := slot
  cases type <;> cases space <;> cases castsShadow <;> exact Nat.le_of_ble_eq_true rfl

theorem length_textureRecords_le (model : ShadingModel) (t : TextureChannel × TextureFeature) :
    (globals (textureRecords model t.1 t.2)).length ≤ 3 := by
  obtain ⟨channel, encoding, hasMatrix⟩ := t
  rw [globals_textureRecords]
  cases encoding <;> cases hasMatrix <;> simp

theorem length_materialRecords_le : (globals (materialRecords c)).length ≤ 8 := by
  rw [globals_materialRecords]
  cases c.model <;> cases c.hasReflectionMap <;> decide

theorem length_environmentRecords_le : (globals (environmentRecords c)).length ≤ 3 := by
  rw [globals_environmentRecords]
  cases c.hasLightMap <;> cases c.hasReflectionMap <;> decide

theorem length_positionRecords_le (quantized : Bool) (billboard : Billboard) (stationary : Bool) :
    (globals (positionRecords quantized billboard stationary)).length ≤ 5 := by
  rw [globals_positionRecords]
  cases quantized <;> decide

/-- A light has a direction or a place at most, and what its shadow needs. -/
theorem length_globals_vertexRecords_le :
    (globals (vertexRecords c o)).length ≤ 17 + 7 * c.lightSlots.length := by
  have hworld := (length_flatMap_le length_worldLightRecords_le
    (c.lightSlots.filter LightSlot.isWorldSpace)).trans
      (Nat.mul_le_mul_left 4 (List.length_filter_le _ _))
  have hshadow := (length_flatMap_le (f := fun slot : LightSlot ↦
    globals (shadowPositionRecords slot)) (fun _ ↦ Nat.le_refl 3) c.shadowSlots).trans
      (Nat.mul_le_mul_left 3 (List.length_filter_le _ _))
  have hnormals : (globals (normalRecords c)).length ≤ 5 + 4 * c.lightSlots.length := by
    rw [globals_normalRecords, List.length_append]
    exact Nat.add_le_add_left hworld 5
  have huv : (globals (uvRecords c)).length ≤ 3 := by
    rw [globals_uvRecords]
    cases c.quantized <;> decide
  have hposition := length_positionRecords_le c.quantized c.billboard c.stationary
  have hshaded := length_ite_le (p := c.isShaded) hnormals
  have hcoordinates := length_ite_le (p := c.usesUv) huv
  have hcolors := length_ite_le (p := c.hasColors) (Nat.le_refl [vertexInput .color, vColor].length)
  have hclips := length_ite_le (p := 0 < c.clipCount) (Nat.le_refl [vWorldPosition].length)
  have hshadows := length_ite_le (p := !c.shadowSlots.isEmpty) hshadow
  have hpoints := length_ite_le (p := c.isPoints) (Nat.le_refl [pointSize].length)
  simp only [globals_vertexRecords, List.length_append]
  simp only [List.length_cons, List.length_nil] at hcolors hclips hpoints
  omega

theorem length_globals_filteredFragmentRecords_le {filter : List Record}
    (hfilter : globals filter = []) :
    (globals (filteredFragmentRecords c o filter)).length ≤
      87 + 8 * c.lightSlots.length + 3 * c.clipCount.toNat := by
  have hlights := length_flatMap_le (length_lightRecords_le c.model) c.lightSlots
  have hplanes := length_flatMap_le (f := fun i : UInt32 ↦ [clipActive i, clipPos i, clipDir i])
    (fun _ ↦ Nat.le_refl 3) ((List.range c.clipCount.toNat).map UInt32.ofNat)
  rw [List.length_map, List.length_range] at hplanes
  have hclips : (globals (clipRecords c)).length ≤ 1 + 3 * c.clipCount.toNat := by
    rw [globals_clipRecords]
    refine length_ite_le ?_
    rw [List.length_cons]
    omega
  have htextures : (c.sampledTextures.flatMap fun t ↦
      globals (textureRecords c.model t.1 t.2)).length ≤ 3 * 14 :=
    (length_flatMap_le (length_textureRecords_le c.model) _).trans
      (Nat.mul_le_mul_left 3 ((List.length_filter_le _ _).trans (List.length_filterMap_le _ _)))
  have hfresnel : (c.fresnel.toList.flatMap fun channel ↦
      globals (fresnelChannelRecords channel)).length ≤ 5 * 5 :=
    (length_flatMap_le (fun _ ↦ Nat.le_refl 5) _).trans
      (Nat.mul_le_mul_left 5 (List.length_filter_le _ _))
  have hcolored : (globals (vertexColorRecords c)).length ≤ 2 := by
    rw [globals_vertexColorRecords]
    cases c.gammaInput <;> decide
  have houtgoing : (globals (outgoingRecords c filter)).length ≤ 3 + 8 * c.lightSlots.length := by
    rw [globals_outgoingRecords c filter hfilter]
    refine length_ite_le ?_
    rw [List.length_append]
    exact Nat.add_le_add (length_environmentRecords_le c) hlights
  have hmaterial := length_materialRecords_le c
  have hcolors := length_ite_le (p := c.hasColors) hcolored
  have hviews := length_ite_le (p := c.isShaded) (Nat.le_refl [vViewPosition, vViewNormal].length)
  have hcoordinates := length_ite_le (p := c.usesUv)
    (show (vUV :: _).length ≤ 43 from Nat.succ_le_succ htextures)
  have hgamma := length_ite_le (p := c.gammaOutput) (Nat.le_refl [gammaFactor].length)
  simp only [globals_filteredFragmentRecords c o filter hfilter, List.length_append,
    List.length_singleton]
  simp only [List.length_cons, List.length_nil] at hviews hgamma
  omega

/-! ### Uniforms of a program -/

/-- The uniforms of a stage are no more than the globals of its records. -/
theorem declared_subset_globals {q : Bool} {records : List Record} {s : Stage}
    (hrespects : records.all (Record.respects q) = true) (hs : Stage.ofRecords records = .ok s) :
    s.declared .uniform ⊆ (globals records).map Name.text := by
  intro name hname
  obtain ⟨d, hd, rfl⟩ := List.mem_map.mp hname
  obtain ⟨hd, hqualifier⟩ := List.mem_filter.mp hd
  have hdeclares : s.DeclaresUniform d.name := ⟨d, hd, of_decide_eq_true hqualifier, rfl⟩
  obtain ⟨n, hn, _, _, htext, _⟩ := hdeclares.exists_global hrespects hs
  exact htext ▸ List.mem_map_of_mem hn

/-- A bound on the uniforms of a program, by the lights and clip planes that it is made for. -/
def uniformBound : ProgramKey → Nat
  | .draw c => 104 + 15 * c.lightSlots.length + 3 * c.clipCount.toNat
  | .shadowDepth _ => 6

theorem length_uniforms_le {k : ProgramKey} {source : ProgramSource}
    (hsource : synthesize o k = .ok source) :
    source.uniforms.eraseDups.length ≤ uniformBound k := by
  obtain ⟨v, f, hstages, rfl⟩ := exists_stages_of_synthesize hsource
  rw [uniforms_ofLines hstages]
  cases k with
  | draw c =>
    obtain ⟨filter, hfilter, hv, hf⟩ := drawStages_eq hstages
    have hvertex := declared_subset_globals (respects_vertexRecords c o) hv
    have hfragment := declared_subset_globals (respects_filteredFragmentRecords c.quantized c o
      filter (respects_shadowFilterRecords hfilter _)) hf
    have hboth := length_eraseDups_le (append_subset_append hvertex hfragment)
    have hvertexSize := length_globals_vertexRecords_le c o
    have hfragmentSize :=
      length_globals_filteredFragmentRecords_le c o (globals_shadowFilterRecords hfilter)
    rw [List.length_append, List.length_map, List.length_map] at hboth
    show _ ≤ 104 + 15 * c.lightSlots.length + 3 * c.clipCount.toNat
    omega
  | shadowDepth d =>
    obtain ⟨hv, hf⟩ := depthStages_eq hstages
    have hvertex := declared_subset_globals (respects_depthVertexRecords d o) hv
    have hfragment := declared_subset_globals (respects_depthFragmentRecords d.quantized o) hf
    have hboth := length_eraseDups_le (append_subset_append hvertex hfragment)
    have hposition := length_positionRecords_le d.quantized d.billboard d.stationary
    have hpoints := length_ite_le (p := d.isPoints) (Nat.le_refl [pointSize].length)
    have hnone : globals (depthFragmentRecords o) = [] := rfl
    rw [List.length_append, List.length_map, List.length_map, globals_depthVertexRecords,
      List.length_append, hnone] at hboth
    simp only [List.length_cons, List.length_nil] at hpoints hboth
    show _ ≤ 6
    omega

/-- Lights and clip planes of the scene bound the uniforms of every drawable. -/
theorem uniformBound_classify_le (geometry : Geometry) (material : Material) (lights : List Light)
    (clips : List ClipPlane) (modes : DrawModes) (scene : SceneFlags) :
    uniformBound (.draw (classify geometry material lights clips modes scene)) ≤
      104 + 15 * lights.length + 3 * clips.length := by
  have hlights : (classify geometry material lights clips modes scene).lightSlots.length ≤
      lights.length := by
    refine length_ite_le (l := lightSlots lights _) ?_
    rw [lightSlots, List.length_map]
    exact (List.length_filter_le _ _).trans_eq List.length_zipIdx
  have hclips : (classify geometry material lights clips modes scene).clipCount.toNat ≤
      clips.length := by
    show (if modes.clippable then UInt32.ofNat clips.length else 0).toNat ≤ _
    split
    · rw [UInt32.toNat_ofNat']
      exact Nat.mod_le _ _
    · exact Nat.zero_le _
  show 104 + 15 * _ + 3 * _ ≤ _
  omega

end Shader

end SceneRenderer
