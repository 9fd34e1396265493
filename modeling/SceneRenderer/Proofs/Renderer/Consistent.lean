import SceneRenderer.Proofs.Registry
import SceneRenderer.Proofs.Renderer.GeometryUsers
import SceneRenderer.Proofs.Renderer.Slots

/-!
The invariant of the renderer: the uses that the cache and the geometries count are those that the
drawables have, and a drawable that is not marked has the program of its features. Adding, removing
and changing drawables keeps it, and so does changing the scene.
-/

set_option autoImplicit false
set_option relaxedAutoImplicit false

namespace SceneRenderer

open Shader ProgramCache

/-- The uses that a drawable has of a handle. -/
def DrawableState.holds (s : DrawableState) (h : ProgramHandle) : Nat :=
  held s.draw.handle h + held s.depth.handle h

/-- The use that a drawable has of a geometry. -/
def DrawableState.usesGeometry (s : DrawableState) (id : GeometryId) : Nat :=
  geometryUse s.drawable.geometry.id id

/-- Each slot has a program of its own kind. -/
def DrawableState.OfKinds (s : DrawableState) (cache : ProgramCache) : Prop :=
  s.draw.OfKind false cache ∧ s.depth.OfKind true cache

namespace Renderer

variable {δ : Type}

section Uses

/-- The slots of drawables that hold a handle. -/
def holders (r : Renderer δ) (h : ProgramHandle) : Nat := r.drawables.total (·.holds h)

/-- The drawables that have a geometry. -/
def geometryUsers (r : Renderer δ) (id : GeometryId) : Nat := r.drawables.total (·.usesGeometry id)

variable {r : Renderer δ} {id id' : DrawableId} {s : DrawableState} {h : ProgramHandle}

theorem holds_le (hs : r.drawables.get? id = some s) (h : ProgramHandle) :
    s.holds h ≤ r.holders h := Registry.le_total r.drawables hs (·.holds h)

theorem holders_eq (hs : r.drawables.get? id = some s) (h : ProgramHandle) :
    r.holders h = (r.drawables.erase id).total (·.holds h) + s.holds h := by
  show r.drawables.total (·.holds h) = _
  rw [Registry.total_eq_erase r.drawables id, Registry.countAt, hs]
  rfl

theorem geometryUsers_eq (hs : r.drawables.get? id = some s) (i : GeometryId) :
    r.geometryUsers i = (r.drawables.erase id).total (·.usesGeometry i) + s.usesGeometry i := by
  show r.drawables.total (·.usesGeometry i) = _
  rw [Registry.total_eq_erase r.drawables id, Registry.countAt, hs]
  rfl

/-- What another drawable holds is held without this one. -/
theorem pos_of_other (hne : id' ≠ id) (hs : r.drawables.get? id' = some s)
    (hpos : 0 < s.holds h) : 0 < (r.drawables.erase id).total (·.holds h) := by
  refine (Registry.total_pos_iff _ _).mpr ⟨id', s, ?_, hpos⟩
  rw [Registry.get?_erase, if_neg hne]
  exact hs

theorem holds_pos_of_draw (hdraw : s.draw.handle = some h) : 0 < s.holds h := by
  unfold DrawableState.holds
  rw [hdraw, held_self]
  omega

theorem holds_pos_of_depth (hdepth : s.depth.handle = some h) : 0 < s.holds h := by
  unfold DrawableState.holds
  rw [hdepth, held_self]
  omega

theorem OfKinds.of_kept {cache later : ProgramCache} (hs : s.OfKinds cache)
    (hkept : ∀ h, 0 < s.holds h → later.key? h = cache.key? h) : s.OfKinds later :=
  ⟨hs.1.of_kept fun h hh ↦ hkept h (holds_pos_of_draw hh),
    hs.2.of_kept fun h hh ↦ hkept h (holds_pos_of_depth hh)⟩

/-- A drawable has no program twice. -/
theorem OfKinds.holds_le_one {cache : ProgramCache} (hs : s.OfKinds cache) (h : ProgramHandle) :
    s.holds h ≤ 1 := by
  by_contra hmore
  unfold DrawableState.holds held at hmore
  have hboth : s.draw.handle = some h ∧ s.depth.handle = some h := by
    split at hmore <;> split at hmore <;> simp_all
  have hkind := (hs.1 h hboth.1).symm.trans (hs.2 h hboth.2)
  exact absurd (Option.some_inj.mp hkind) nofun

end Uses

/-- The slots of a drawable stand for the keys that its features ask for in the scene as it is. -/
def UpToDate (r : Renderer δ) (s : DrawableState) : Prop :=
  s.draw.StandsFor r.cache (some (r.drawKey s.drawable)) ∧
    s.depth.StandsFor r.cache (r.depthKey? s.drawable)

/-- A drawable stays up to date where its scene and the programs it holds stay what they are. -/
theorem UpToDate.of_kept {r r' : Renderer δ} {s : DrawableState} (hs : r.UpToDate s)
    (hscene : r'.scene = r.scene) (hconfig : r'.config = r.config)
    (hkept : ∀ h, 0 < s.holds h → r'.cache.key? h = r.cache.key? h) : r'.UpToDate s := by
  have hfeatures : r'.featuresOf s.drawable = r.featuresOf s.drawable := by
    rw [featuresOf, featuresOf, sceneFlags, sceneFlags, hscene, hconfig]
  constructor
  · rw [drawKey, hfeatures]
    exact hs.1.of_kept fun h hh ↦ hkept h (holds_pos_of_draw hh)
  · rw [depthKey?, hfeatures, hscene]
    exact hs.2.of_kept fun h hh ↦ hkept h (holds_pos_of_depth hh)

variable [Device δ]

/-- The state that drawables, programs and geometries are in between operations. -/
structure Consistent (alive : δ → ProgramId → Prop) (r : Renderer δ) : Prop where
  programs : Accounts alive r.cache r.device r.holders
  geometries : GeometryAccounts r.geometries r.geometryUsers
  refusals : r.refusals = []
  exclusive : ∀ id s, r.drawables.get? id = some s → s.draw.Exclusive ∧ s.depth.Exclusive
  /-- A drawable has a depth program only for its shadow. -/
  kinds : ∀ id s, r.drawables.get? id = some s → s.OfKinds r.cache
  /-- The slots of a drawable that is not marked stand for the keys of its features. -/
  current : ∀ id s, r.drawables.get? id = some s → s.dirty = false → r.UpToDate s
  options : r.cache.options = r.config.shaderOptions

variable {alive : δ → ProgramId → Prop} {r : Renderer δ}

theorem consistent_new (alive : δ → ProgramId → Prop) (device : δ) (config : RendererConfig) :
    Consistent alive (new device config) where
  programs := accounts_new alive config.shaderOptions device
  geometries := ⟨fun _ ↦ rfl, fun _ _ he ↦ absurd he nofun⟩
  refusals := rfl
  exclusive _ _ hs := absurd hs nofun
  kinds _ _ hs := absurd hs nofun
  current _ _ hs := absurd hs nofun
  options := rfl

namespace Consistent

/-- The uses of programs, with those of one drawable apart. -/
theorem programs_of (hr : r.Consistent alive) {id : DrawableId} {s : DrawableState}
    (hs : r.drawables.get? id = some s) :
    Accounts alive r.cache r.device fun h ↦
      ((r.drawables.erase id).total (·.holds h) + held s.depth.handle h) +
        held s.draw.handle h := by
  refine hr.programs.of_eq fun h ↦ ?_
  rw [holders_eq hs]
  show _ = _ + (held s.draw.handle h + held s.depth.handle h)
  omega

/-! ### Adding, removing and changing drawables -/

theorem removeDrawable (hdevice : KeepsPrograms alive) (hr : r.Consistent alive)
    (id : DrawableId) : (r.removeDrawable id).2.Consistent alive ∧
      (r.removeDrawable id).2.drawables.get? id = none := by
  unfold Renderer.removeDrawable
  cases hs : r.drawables.get? id with
  | none => exact ⟨hr, hs⟩
  | some s =>
    let rest (h : ProgramHandle) : Nat := (r.drawables.erase id).total (·.holds h)
    obtain ⟨cache₁, device₁, hrelease₁, haccounts₁, hoptions₁, hkept₁⟩ :=
      (hr.programs_of hs).releaseHandle hdevice
    obtain ⟨cache₂, device₂, hrelease₂, haccounts₂, hoptions₂, hkept₂⟩ :=
      haccounts₁.releaseHandle hdevice
    have hgeometries : GeometryAccounts r.geometries fun i ↦
        (r.drawables.erase id).total (·.usesGeometry i) + geometryUse s.drawable.geometry.id i :=
      hr.geometries.of_eq fun i ↦ (geometryUsers_eq hs i).symm
    dsimp only
    rw [hrelease₁]
    dsimp only
    rw [hrelease₂]
    dsimp only
    obtain ⟨device, geometries, hreleased, houtlives, haccounts⟩ :=
      releaseGeometry_spec hdevice { r with
        cache := cache₂
        device := device₂
        drawables := r.drawables.erase id
        refusals := [] ++ [] ++ r.refusals } s.drawable.geometry.id hgeometries
    rw [hreleased]
    have hother {id' : DrawableId} {s' : DrawableState}
        (hs' : (r.drawables.erase id).get? id' = some s') : r.drawables.get? id' = some s' ∧
          ∀ h, 0 < s'.holds h → cache₂.key? h = r.cache.key? h := by
      have hget := hs'
      rw [Registry.get?_erase] at hget
      split at hget
      · cases hget
      · rename_i hne
        refine ⟨hget, fun h hheld ↦ ?_⟩
        have hpos : 0 < rest h := pos_of_other hne hget hheld
        exact (hkept₂ h hpos).trans (hkept₁ h (Nat.lt_of_lt_of_le hpos (Nat.le_add_right _ _)))
    refine ⟨⟨haccounts₂.of_outlives houtlives, haccounts, hr.refusals, ?_, ?_, ?_, ?_⟩, ?_⟩
    · exact fun id' s' hs' ↦ hr.exclusive id' s' (hother hs').1
    · exact fun id' s' hs' ↦ OfKinds.of_kept (hr.kinds id' s' (hother hs').1) (hother hs').2
    · exact fun id' s' hs' hclean ↦
        (hr.current id' s' (hother hs').1 hclean).of_kept rfl rfl (hother hs').2
    · exact (hoptions₂.trans hoptions₁).trans hr.options
    · show (r.drawables.erase id).get? id = none
      rw [Registry.get?_erase, if_pos rfl]

theorem retainGeometry (hdevice : KeepsPrograms alive) (hr : r.Consistent alive)
    (g : Geometry) : ∃ device geometries,
      (r.retainGeometry g).2 = { r with device, geometries } ∧
      Outlives alive r.device device ∧
      match (r.retainGeometry g).1 with
      | .ok () => GeometryAccounts geometries fun i ↦ r.geometryUsers i + geometryUse g.id i
      | .error _ => geometries = r.geometries :=
  retainGeometry_spec hdevice r g hr.geometries

/-- The state in which a failed upload leaves the renderer. -/
theorem of_outlives (hr : r.Consistent alive) {device : δ}
    (houtlives : Outlives alive r.device device) : { r with device }.Consistent alive :=
  ⟨hr.programs.of_outlives houtlives, hr.geometries, hr.refusals, hr.exclusive, hr.kinds,
    hr.current, hr.options⟩

theorem addDrawable (hdevice : KeepsPrograms alive) (hr : r.Consistent alive)
    (d : Drawable) : (r.addDrawable d).2.Consistent alive := by
  obtain ⟨hremoved, habsent⟩ := hr.removeDrawable hdevice d.id
  unfold Renderer.addDrawable
  dsimp only
  generalize (r.removeDrawable d.id).2 = removed at hremoved habsent
  obtain ⟨device, geometries, hretain, houtlives, haccounts⟩ :=
    hremoved.retainGeometry hdevice d.geometry
  rcases hresult : removed.retainGeometry d.geometry with ⟨e | _, retained⟩
  · rw [hresult] at hretain haccounts
    obtain rfl : retained = { removed with device } := by
      rw [show retained = _ from hretain, show geometries = _ from haccounts]
    exact hremoved.of_outlives houtlives
  · rw [hresult] at hretain haccounts
    obtain rfl : retained = { removed with device, geometries } := hretain
    have hget (id : DrawableId) : (removed.drawables.insert d.id (.new d)).get? id =
        if id = d.id then some (.new d) else removed.drawables.get? id :=
      Registry.get?_insert _ _ _ _
    refine ⟨?_, ?_, hremoved.refusals, ?_, ?_, ?_, hremoved.options⟩
    · refine (hremoved.programs.of_outlives houtlives).of_eq fun h ↦ ?_
      show (removed.drawables.insert d.id (.new d)).total (·.holds h) = removed.holders h
      rw [Registry.total_insert, Registry.total_erase_of_none habsent]
      rfl
    · refine haccounts.of_eq fun i ↦ ?_
      show (removed.drawables.insert d.id (.new d)).total (·.usesGeometry i) = _
      rw [Registry.total_insert, Registry.total_erase_of_none habsent]
      rfl
    · intro id s hs
      rw [hget] at hs
      split at hs
      · cases hs
        exact ⟨.inl rfl, .inl rfl⟩
      · exact hremoved.exclusive id s hs
    · intro id s hs
      rw [hget] at hs
      split at hs
      · cases hs
        exact ⟨ProgramSlot.ofKind_empty _ _, ProgramSlot.ofKind_empty _ _⟩
      · exact hremoved.kinds id s hs
    · intro id s hs hclean
      rw [hget] at hs
      split at hs
      · cases hs
        cases hclean
      · exact (hremoved.current id s hs hclean).of_kept rfl rfl fun _ _ ↦ rfl

/-- A change of one drawable that leaves its slots, and marks it if its features may change. -/
theorem modifyDrawable (hr : r.Consistent alive) (id : DrawableId)
    (f : DrawableState → DrawableState) (hslots : ∀ s, (f s).draw = s.draw ∧ (f s).depth = s.depth)
    (hcurrent : ∀ s, (f s).dirty = false →
      s.dirty = false ∧ r.featuresOf (f s).drawable = r.featuresOf s.drawable)
    {device : δ} (houtlives : Outlives alive r.device device)
    {geometries : Registry GeometryId GeometryEntry}
    (hgeometries : GeometryAccounts geometries
      fun i ↦ (r.drawables.modify id f).total (·.usesGeometry i)) (draws : DrawRenderer) :
    { r with device, geometries, drawables := r.drawables.modify id f, draws }.Consistent
      alive := by
  have hholds (h : ProgramHandle) (s : DrawableState) : (f s).holds h = s.holds h := by
    unfold DrawableState.holds
    rw [(hslots s).1, (hslots s).2]
  have hbefore : ∀ id' s', (r.drawables.modify id f).get? id' = some s' →
      r.drawables.get? id' = some s' ∨ ∃ s, r.drawables.get? id' = some s ∧ s' = f s := by
    intro id' s' hs'
    rw [Registry.get?_modify] at hs'
    split at hs'
    · obtain ⟨s, hs, rfl⟩ := Option.map_eq_some_iff.mp hs'
      exact .inr ⟨s, hs, rfl⟩
    · exact .inl hs'
  refine ⟨(hr.programs.of_outlives houtlives).of_eq
    fun h ↦ Registry.total_modify_of_eq _ id (hholds h), hgeometries, hr.refusals, ?_, ?_, ?_,
    hr.options⟩
  · intro id' s' hs'
    rcases hbefore id' s' hs' with hs | ⟨s, hs, rfl⟩
    · exact hr.exclusive id' s' hs
    · rw [(hslots s).1, (hslots s).2]
      exact hr.exclusive id' s hs
  · intro id' s' hs'
    rcases hbefore id' s' hs' with hs | ⟨s, hs, rfl⟩
    · exact hr.kinds id' s' hs
    · unfold DrawableState.OfKinds
      rw [(hslots s).1, (hslots s).2]
      exact hr.kinds id' s hs
  · intro id' s' hs' hclean
    rcases hbefore id' s' hs' with hs | ⟨s, hs, rfl⟩
    · exact (hr.current id' s' hs hclean).of_kept rfl rfl fun _ _ ↦ rfl
    · obtain ⟨hclean', hfeatures⟩ := hcurrent s hclean
      obtain ⟨hdraw, hdepth⟩ := hr.current id' s hs hclean'
      have hdrawKey : r.drawKey (f s).drawable = r.drawKey s.drawable := by
        rw [drawKey, drawKey, hfeatures]
      have hdepthKey : r.depthKey? (f s).drawable = r.depthKey? s.drawable := by
        rw [depthKey?, depthKey?, hfeatures]
      constructor
      · show (f s).draw.StandsFor r.cache (some (r.drawKey (f s).drawable))
        rwa [(hslots s).1, hdrawKey]
      · show (f s).depth.StandsFor r.cache (r.depthKey? (f s).drawable)
        rwa [(hslots s).2, hdepthKey]

/-- The users of geometries after a change that leaves the identity of the geometry. -/
theorem geometries_modify (hr : r.Consistent alive) (id : DrawableId)
    (f : DrawableState → DrawableState)
    (hgeometry : ∀ s, (f s).drawable.geometry.id = s.drawable.geometry.id) :
    GeometryAccounts r.geometries
      fun i ↦ (r.drawables.modify id f).total (·.usesGeometry i) := by
  refine hr.geometries.of_eq fun i ↦ Registry.total_modify_of_eq _ id fun s ↦ ?_
  unfold DrawableState.usesGeometry
  rw [hgeometry]

omit [Device δ] in
theorem update_eq {id : DrawableId} {s : DrawableState} (hs : r.drawables.get? id = some s)
    (f : Drawable → Drawable) :
    (r.update id f).2 =
      { r with
        drawables :=
          r.drawables.modify id fun s ↦ { s with drawable := f s.drawable, dirty := true }
        draws := r.draws.forget id } := by
  have hcontains : r.contains id = true := by
    unfold Renderer.contains Registry.contains
    rw [hs]
    rfl
  unfold Renderer.update
  rw [if_pos hcontains]

theorem update (hr : r.Consistent alive) (id : DrawableId) (f : Drawable → Drawable)
    (hgeometry : ∀ d, (f d).geometry.id = d.geometry.id) :
    (r.update id f).2.Consistent alive := by
  unfold Renderer.update
  split
  · exact hr.modifyDrawable id (fun s ↦ { s with drawable := f s.drawable, dirty := true })
      (fun _ ↦ ⟨rfl, rfl⟩) (fun _ hclean ↦ absurd hclean nofun) (.refl _)
      (hr.geometries_modify id _ fun s ↦ hgeometry s.drawable) _
  · exact hr

theorem setTransform (hr : r.Consistent alive) (id : DrawableId)
    (transform : Transform Float32) : (r.setTransform id transform).2.Consistent alive :=
  hr.modifyDrawable id (fun s ↦ { s with drawable := { s.drawable with transform } })
    (fun _ ↦ ⟨rfl, rfl⟩) (fun _ hclean ↦ ⟨hclean, rfl⟩) (.refl _)
    (hr.geometries_modify id _ fun _ ↦ rfl) r.draws

theorem setGeometry (hdevice : KeepsPrograms alive) (hr : r.Consistent alive)
    (id : DrawableId) (g : Geometry) : (r.setGeometry id g).2.Consistent alive := by
  unfold Renderer.setGeometry
  cases hs : r.drawables.get? id with
  | none => exact hr
  | some s =>
    obtain ⟨device, geometries, hretain, houtlives, haccounts⟩ := hr.retainGeometry hdevice g
    rcases hresult : r.retainGeometry g with ⟨e | _, retained⟩
    · rw [hresult] at hretain haccounts
      obtain rfl : retained = { r with device } := by
        rw [show retained = _ from hretain, show geometries = _ from haccounts]
      exact hr.of_outlives houtlives
    · rw [hresult] at hretain haccounts
      obtain rfl : retained = { r with device, geometries } := hretain
      let rest (i : GeometryId) : Nat := (r.drawables.erase id).total (·.usesGeometry i)
      have hreorder : GeometryAccounts geometries fun i ↦
          (rest i + geometryUse g.id i) + geometryUse s.drawable.geometry.id i := by
        refine haccounts.of_eq fun i ↦ ?_
        rw [geometryUsers_eq hs]
        exact Nat.add_right_comm _ _ _
      obtain ⟨device', geometries', hrelease, houtlives', haccounts'⟩ :=
        releaseGeometry_spec hdevice { r with device, geometries } s.drawable.geometry.id hreorder
      have hs' : ({ r with device := device', geometries := geometries' } :
          Renderer δ).drawables.get? id = some s := hs
      dsimp only
      rw [hrelease, update_eq hs']
      refine hr.modifyDrawable id
        (fun s ↦ { s with drawable := { s.drawable with geometry := g }, dirty := true })
        (fun _ ↦ ⟨rfl, rfl⟩) (fun _ hclean ↦ absurd hclean nofun) (houtlives.trans houtlives')
        (haccounts'.of_eq fun i ↦ ?_) _
      rw [Registry.total_modify, Registry.countAt, hs]
      rfl

/-! ### Changing the scene -/

/-- A change of the scene that marks every drawable. -/
theorem markAll (hr : r.Consistent alive) (scene : Scene) :
    ({ r with scene }.markAll).Consistent alive := by
  have hbefore : ∀ id s', ({ r with scene }.markAll).drawables.get? id = some s' →
      ∃ s, r.drawables.get? id = some s ∧ s' = { s with dirty := true } := by
    intro id s' hs'
    change (r.drawables.mapValues _).get? id = some s' at hs'
    rw [Registry.get?_mapValues] at hs'
    obtain ⟨s, hs, rfl⟩ := Option.map_eq_some_iff.mp hs'
    exact ⟨s, hs, rfl⟩
  refine ⟨hr.programs.of_eq fun h ↦ Registry.total_mapValues _ fun _ _ ↦ rfl,
    hr.geometries.of_eq fun i ↦ Registry.total_mapValues _ fun _ _ ↦ rfl, hr.refusals, ?_, ?_, ?_,
    hr.options⟩
  · intro id s' hs'
    obtain ⟨s, hs, rfl⟩ := hbefore id s' hs'
    exact hr.exclusive id s hs
  · intro id s' hs'
    obtain ⟨s, hs, rfl⟩ := hbefore id s' hs'
    exact hr.kinds id s hs
  · intro id s' hs' hclean
    obtain ⟨s, hs, rfl⟩ := hbefore id s' hs'
    exact absurd hclean nofun

theorem setLights (hdevice : KeepsPrograms alive) (hr : r.Consistent alive)
    (lights : List Light) : (r.setLights lights).2.Consistent alive := by
  have hmarked := hr.markAll { r.scene with lights }
  have hmoved := hmarked.of_outlives (hdevice.sync r.shadows r.device lights)
  exact ⟨hmoved.programs, hmoved.geometries, hmoved.refusals, hmoved.exclusive, hmoved.kinds,
    hmoved.current, hmoved.options⟩

theorem setCamera (hr : r.Consistent alive) (camera : Camera Float32) :
    (r.setCamera camera).Consistent alive :=
  ⟨hr.programs, hr.geometries, hr.refusals, hr.exclusive, hr.kinds, hr.current, hr.options⟩

theorem setViewport (hr : r.Consistent alive) (width height : UInt32) :
    (r.setViewport width height).Consistent alive :=
  ⟨hr.programs, hr.geometries, hr.refusals, hr.exclusive, hr.kinds, hr.current, hr.options⟩

theorem setClearColor (hr : r.Consistent alive) (color : Vec4 Float32) :
    (r.setClearColor color).Consistent alive :=
  ⟨hr.programs, hr.geometries, hr.refusals, hr.exclusive, hr.kinds, hr.current, hr.options⟩

end Consistent

end Renderer

end SceneRenderer
