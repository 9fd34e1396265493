import SceneRenderer.Proofs.Shader.WellFormed

/-!
Only the structure of a drawable and its scene reaches the features of its program. Identities,
the contents of arrays, the values of channels, textures and blends, and where lights and clip
planes are and how bright they shine may differ: the program is the same. The main statement is
`classify_eq_of_alike`.
-/

set_option autoImplicit false
set_option relaxedAutoImplicit false

namespace SceneRenderer

open Shader

/-! ### Equal structure -/

/-- Geometries of one topology with the same arrays in use. -/
structure Geometry.Alike (g g' : Geometry) : Prop where
  topology : g.topology = g'.topology
  positions : g.hasPositions = g'.hasPositions
  normals : g.normals.any (!·.isEmpty) = g'.normals.any (!·.isEmpty)
  uv : g.hasUv = g'.hasUv
  colors : g.hasColors = g'.hasColors
  indices : g.hasIndices = g'.hasIndices
  quantization : g.quantization.isSome = g'.quantization.isSome
  autoNormals : g.autoNormals = g'.autoNormals

/-- Materials of one shading model with textures, sampled in the same way, and blends on the same
channels. -/
structure Material.Alike (m m' : Material) : Prop where
  model : m.model = m'.model
  textures : ∀ channel, (m.texture channel).map (fun t ↦ (t.encoding, t.matrix.isSome)) =
    (m'.texture channel).map fun t ↦ (t.encoding, t.matrix.isSome)
  fresnel : ∀ channel, (m.fresnel channel).isSome = (m'.fresnel channel).isSome

/-- Lights of one type in one space, of which both or none ask for a shadow. -/
structure Light.Alike (l l' : Light) : Prop where
  type : l.type = l'.type
  space : l.space = l'.space
  shadow : l.shadow = l'.shadow

/-- Lights that are alike position by position, up to ambient lights behind them. -/
def LightsAlike (lights lights' : List Light) : Prop :=
  ∃ common common' behind behind', lights = common ++ behind ∧ lights' = common' ++ behind' ∧
    List.Forall₂ Light.Alike common common' ∧ (∀ l ∈ behind, l.type = .ambient) ∧
    ∀ l ∈ behind', l.type = .ambient

/-! ### Lights -/

theorem Light.Alike.isAmbient {l l' : Light} (h : l.Alike l') : l.isAmbient = l'.isAmbient := by
  rw [Light.isAmbient, Light.isAmbient, h.type]

theorem Light.Alike.castsShadow {l l' : Light} (h : l.Alike l') :
    l.castsShadow = l'.castsShadow := by
  rw [Light.castsShadow, Light.castsShadow, h.shadow, h.isAmbient]

namespace Shader

/-- The slots of lights of which the first has a given position in the scene. -/
def lightSlotsFrom (first : Nat) (lights : List Light) (receivesShadow : Bool) : List LightSlot :=
  ((lights.zipIdx first).filter fun l ↦ !l.1.isAmbient).map fun l ↦
    ⟨UInt32.ofNat l.2, l.1.type, l.1.space, receivesShadow && l.1.castsShadow⟩

theorem lightSlotsFrom_append (first : Nat) (front back : List Light) (receivesShadow : Bool) :
    lightSlotsFrom first (front ++ back) receivesShadow =
      lightSlotsFrom first front receivesShadow ++
        lightSlotsFrom (first + front.length) back receivesShadow := by
  rw [lightSlotsFrom, List.zipIdx_append, List.filter_append, List.map_append]
  rfl

theorem lightSlotsFrom_ambient {lights : List Light} (hambient : ∀ l ∈ lights, l.type = .ambient)
    (first : Nat) (receivesShadow : Bool) : lightSlotsFrom first lights receivesShadow = [] := by
  rw [lightSlotsFrom, List.map_eq_nil_iff, List.filter_eq_nil_iff]
  intro l hl
  simp [Light.isAmbient, hambient l.1 (List.fst_mem_of_mem_zipIdx hl)]

/-- By induction on the lights: a light and its counterpart both have a slot, the same one, or
neither has. -/
theorem lightSlotsFrom_eq {lights lights' : List Light}
    (halike : List.Forall₂ Light.Alike lights lights') (first : Nat) (receivesShadow : Bool) :
    lightSlotsFrom first lights receivesShadow = lightSlotsFrom first lights' receivesShadow := by
  induction halike generalizing first with
  | nil => rfl
  | @cons l l' rest rest' hl hrest ih =>
    have hone : lightSlotsFrom first [l] receivesShadow =
        lightSlotsFrom first [l'] receivesShadow := by
      simp only [lightSlotsFrom, List.zipIdx_singleton, List.filter_singleton, hl.isAmbient]
      cases l'.isAmbient with
      | true => rfl
      | false =>
        simp only [Bool.not_false, cond_true, List.map_singleton, hl.type, hl.space,
          hl.castsShadow]
    calc lightSlotsFrom first (l :: rest) receivesShadow
      _ = lightSlotsFrom first [l] receivesShadow ++
          lightSlotsFrom (first + 1) rest receivesShadow := lightSlotsFrom_append first [l] rest _
      _ = lightSlotsFrom first [l'] receivesShadow ++
          lightSlotsFrom (first + 1) rest' receivesShadow := by rw [hone, ih]
      _ = lightSlotsFrom first (l' :: rest') receivesShadow :=
        (lightSlotsFrom_append first [l'] rest' _).symm

theorem lightSlots_eq {lights lights' : List Light} (hlights : LightsAlike lights lights')
    (receivesShadow : Bool) :
    lightSlots lights receivesShadow = lightSlots lights' receivesShadow := by
  obtain ⟨common, common', behind, behind', rfl, rfl, halike, hbehind, hbehind'⟩ := hlights
  change lightSlotsFrom 0 _ _ = lightSlotsFrom 0 _ _
  rw [lightSlotsFrom_append, lightSlotsFrom_append, lightSlotsFrom_ambient hbehind,
    lightSlotsFrom_ambient hbehind', lightSlotsFrom_eq halike]

/-- Whether a light casts a shadow can be told from the slots. -/
theorem any_castsShadow_lightSlots (lights : List Light) :
    (lightSlots lights true).any (·.castsShadow) = lights.any Light.castsShadow := by
  have hcasts : ∀ l : Light, (!l.isAmbient && (true && l.castsShadow)) = l.castsShadow := by
    intro l
    rw [Light.castsShadow]
    cases l.isAmbient <;> simp
  calc (lightSlots lights true).any (·.castsShadow)
    _ = lights.zipIdx.any fun l ↦ !l.1.isAmbient && (true && l.1.castsShadow) := by
      rw [lightSlots, List.any_map, List.any_filter]
      rfl
    _ = lights.zipIdx.any (Light.castsShadow ∘ Prod.fst) := by simp only [hcasts]; rfl
    _ = lights.any Light.castsShadow := by rw [← List.any_map, List.zipIdx_map_fst]

/-! ### Features -/

section

variable {geometry geometry' : Geometry} {material material' : Material}

theorem usableNormals_eq (hgeometry : geometry.Alike geometry') :
    usableNormals geometry = usableNormals geometry' := by
  simp only [usableNormals, Geometry.declaresNormals, hgeometry.normals, hgeometry.autoNormals,
    hgeometry.topology]

theorem usableReflectionMap_eq (hgeometry : geometry.Alike geometry')
    (hmaterial : material.Alike material') (scene : SceneFlags) :
    usableReflectionMap geometry material scene =
      usableReflectionMap geometry' material' scene := by
  rw [usableReflectionMap, usableReflectionMap, usableNormals_eq hgeometry, hmaterial.model]

theorem usableNormalMap_eq (hgeometry : geometry.Alike geometry')
    (hmaterial : material.Alike material') :
    usableNormalMap geometry material = usableNormalMap geometry' material' := by
  have hnormal := congrArg Option.isSome (hmaterial.textures .normal)
  rw [Option.isSome_map, Option.isSome_map] at hnormal
  rw [usableNormalMap, usableNormalMap, usableNormals_eq hgeometry, hgeometry.uv,
    hgeometry.indices, hnormal]

theorem textureFlags_eq (hgeometry : geometry.Alike geometry')
    (hmaterial : material.Alike material') (scene : SceneFlags) :
    textureFlags geometry material scene = textureFlags geometry' material' scene := by
  refine TextureFlags.ext_get fun channel ↦ ?_
  have htexture : (material.texture channel).map
        (fun t ↦ (⟨t.encoding, t.matrix.isSome⟩ : TextureFeature)) =
      (material'.texture channel).map fun t ↦ ⟨t.encoding, t.matrix.isSome⟩ := by
    have hpair := congrArg (Option.map fun p ↦ (⟨p.1, p.2⟩ : TextureFeature))
      (hmaterial.textures channel)
    rwa [Option.map_map, Option.map_map] at hpair
  simp only [textureFlags, TextureFlags.get_ofFn, usableNormalMap_eq hgeometry hmaterial,
    usableReflectionMap_eq hgeometry hmaterial, hgeometry.uv, htexture]

theorem fresnelFlags_eq (hgeometry : geometry.Alike geometry')
    (hmaterial : material.Alike material') (scene : SceneFlags) :
    fresnelFlags geometry material scene = fresnelFlags geometry' material' scene := by
  simp only [fresnelFlags, usableNormals_eq hgeometry, hmaterial.model,
    usableReflectionMap_eq hgeometry hmaterial, hmaterial.fresnel]

end

/-- Inputs of the same structure have the same features, and so the same program. -/
theorem classify_eq_of_alike {geometry geometry' : Geometry} {material material' : Material}
    {lights lights' : List Light} {clips clips' : List ClipPlane} (modes : DrawModes)
    (scene : SceneFlags) (hgeometry : geometry.Alike geometry')
    (hmaterial : material.Alike material') (hlights : LightsAlike lights lights')
    (hclips : clips.length = clips'.length) :
    classify geometry material lights clips modes scene =
      classify geometry' material' lights' clips' modes scene := by
  have hnormals := usableNormals_eq hgeometry
  have hcasts : lights.any Light.castsShadow = lights'.any Light.castsShadow := by
    rw [← any_castsShadow_lightSlots, ← any_castsShadow_lightSlots, lightSlots_eq hlights]
  have hquantized : geometry.isQuantized = geometry'.isQuantized := hgeometry.quantization
  have hrequested : requestedFeatures geometry material lights clips modes scene =
      requestedFeatures geometry' material' lights' clips' modes scene := by
    simp only [requestedFeatures, hnormals, hcasts, lightSlots_eq hlights, hquantized,
      hgeometry.uv, hgeometry.colors, hgeometry.topology, hclips, hmaterial.model,
      usableNormalMap_eq hgeometry hmaterial, usableReflectionMap_eq hgeometry hmaterial,
      textureFlags_eq hgeometry hmaterial, fresnelFlags_eq hgeometry hmaterial]
  rw [classify, hrequested, classify]

/-- The tile under another identity, with other vertices and in another storage. -/
def movedTile : Geometry :=
  { glazedTile with
    id := ⟨7⟩
    normals := some (.int8 [])
    uv := some (.uint16 [3, 4])
    indices := some (.uint32 [2, 1, 0]) }

/-- The glaze under another identity, with other textures, another matrix and another blend. -/
def paleGlaze : Material where
  id := ⟨9⟩
  alphaMode := .blend
  alphaCutoff := 0.125
  pointSize := 4.0
  surface := .phong
    { PhongSurface.standard with
      alpha := 0.25
      normalMap := some ⟨⟨5⟩, none, .linear⟩
      reflectivityMap := some ⟨⟨6⟩, some default, .srgb⟩
      reflectivityFresnel := some default }

def tileSun : Light := (Light.directional .one .view).withShadow .identity .identity

def tileLamp : Light := .ofShape (.spot .zero .one .none 0.5)

def tileMoon : Light :=
  { tileSun with shape := .directional .zero, color := .zero, intensity := 0.5 }

def farLamp : Light := .ofShape (.spot .one .zero default 0.75)

/-- A lit tile, and the other one under lights elsewhere with more ambient light behind them. -/
theorem classify_eq_of_alike_tiles :
    (glazedTile.Alike movedTile ∧ glaze.Alike paleGlaze ∧
        LightsAlike [tileSun, tileLamp] [tileMoon, farLamp, .ambient .one 1.0] ∧
        [ClipPlane.through .zero .one].length = [ClipPlane.through .one .zero].length) ∧
      classify glazedTile glaze [tileSun, tileLamp] [.through .zero .one] .standard
          ⟨true, false, false, true⟩ =
        classify movedTile paleGlaze [tileMoon, farLamp, .ambient .one 1.0] [.through .one .zero]
          .standard ⟨true, false, false, true⟩ := by
  have htile : glazedTile.Alike movedTile := ⟨rfl, rfl, rfl, rfl, rfl, rfl, rfl, rfl⟩
  have hglaze : glaze.Alike paleGlaze :=
    ⟨by decide, fun channel ↦ by cases channel <;> decide,
      fun channel ↦ by cases channel <;> decide⟩
  have hsky : tileSun.Alike tileMoon := ⟨rfl, rfl, rfl⟩
  have hlamp : tileLamp.Alike farLamp := ⟨rfl, rfl, rfl⟩
  have hlights : LightsAlike [tileSun, tileLamp] [tileMoon, farLamp, .ambient .one 1.0] := by
    have hambient : ∀ l ∈ [Light.ambient .one 1.0], l.type = .ambient :=
      List.forall_mem_singleton.mpr (by decide)
    exact ⟨[tileSun, tileLamp], [tileMoon, farLamp], [], [.ambient .one 1.0],
      (List.append_nil _).symm, rfl, .cons hsky (.cons hlamp .nil), List.forall_mem_nil _, hambient⟩
  have hclips : [ClipPlane.through .zero .one].length = [ClipPlane.through .one .zero].length :=
    rfl
  exact ⟨⟨htile, hglaze, hlights, hclips⟩,
    classify_eq_of_alike .standard _ htile hglaze hlights hclips⟩

end Shader

end SceneRenderer
