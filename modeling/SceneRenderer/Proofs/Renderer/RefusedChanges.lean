import SceneRenderer.Device.Rationed
import SceneRenderer.Proofs.Renderer.HandedGeometries

/-!
What is left of the scene where the device refuses a change of it. Another geometry is taken before
the one in place is given back, so a refusal leaves all as it was. A drawable that is added in place
of another is too late for that: what it replaces is gone by then, though nothing else is. The
lights change whatever becomes of their shadow maps, which follow as far as the device went along.

The main statement is `Renderer.refused_keeps`; `Renderer.exists_refused_changed` says that a
refusal is not without traces.
-/

set_option autoImplicit false
set_option relaxedAutoImplicit false

namespace SceneRenderer

/-- A drawable with its programs, whether marked or not. -/
def DrawableState.content (s : DrawableState) : Drawable × ProgramSlot × ProgramSlot :=
  (s.drawable, s.draw, s.depth)

namespace Renderer

variable {δ : Type} {r r' : Renderer δ}

/-- Two renderers with the same scene, and the same objects for it on their devices. -/
structure SameState (r r' : Renderer δ) : Prop where
  drawables : ∀ id, (r'.drawables.get? id).map (·.content) = (r.drawables.get? id).map (·.content)
  geometries : ∀ i, r'.geometries.get? i = r.geometries.get? i
  cache : r'.cache = r.cache
  lights : r'.scene.lights = r.scene.lights
  shadows : r'.shadows = r.shadows

/-- The same scene, but for a drawable that is gone with all that it alone had. -/
structure SameStateWithout (id : DrawableId) (s : DrawableState) (r r' : Renderer δ) : Prop where
  gone : r'.drawables.get? id = none
  drawables : ∀ id', id' ≠ id → r'.drawables.get? id' = r.drawables.get? id'
  geometries : ∀ i, i ≠ s.drawable.geometry.id → r'.geometries.get? i = r.geometries.get? i
  programs : ∀ h, s.draw.handle ≠ some h → s.depth.handle ≠ some h →
    r'.cache.entry? h = r.cache.entry? h
  lights : r'.scene.lights = r.scene.lights
  shadows : r'.shadows = r.shadows

/-- The same scene under other lights. Their shadow maps may be missing, but there are none that are
not wanted and those that were there before are kept. -/
structure SameStateUnder (given : List Light) (r r' : Renderer δ) : Prop where
  drawables : ∀ id, (r'.drawables.get? id).map (·.content) = (r.drawables.get? id).map (·.content)
  geometries : r'.geometries = r.geometries
  cache : r'.cache = r.cache
  lights : r'.scene.lights = given
  mapSize : r'.shadows.mapSize = r.shadows.mapSize
  maps : ∃ created, r'.shadows.maps =
      r.shadows.maps.filter (fun m ↦ (castingLights given).contains m.light) ++ created ∧
    ∀ m ∈ created, m.light ∈ castingLights given ∧ ∀ old ∈ r.shadows.maps, old.light ≠ m.light

/-- What an operation keeps where the device refuses it. -/
def KeptBy (r r' : Renderer δ) : Operation → Prop
  | .addDrawable d =>
    match r.drawables.get? d.id with
    | none => SameState r r'
    | some s => SameStateWithout d.id s r r'
  | .setGeometry _ _ => SameState r r'
  | .setLights lights => SameStateUnder lights r r'
  | _ => False

theorem SameState.of_device (device : δ) : SameState r { r with device } :=
  ⟨fun _ ↦ rfl, fun _ ↦ rfl, rfl, rfl, rfl⟩

theorem SameState.contains (hsame : SameState r r') (id : DrawableId) :
    r'.contains id = r.contains id := by
  have hcontent := congrArg Option.isSome (hsame.drawables id)
  rwa [Option.isSome_map, Option.isSome_map] at hcontent

theorem SameStateWithout.of_device {id : DrawableId} {s : DrawableState}
    (hkept : SameStateWithout id s r r') (device : δ) :
    SameStateWithout id s r { r' with device } :=
  { hkept with }

variable [Device δ]

/-! ### Geometries -/

/-- A geometry that cannot be uploaded leaves no trace but on the device. -/
theorem retainGeometry_error {g : Geometry} {e : DeviceError}
    (hretain : r.retainGeometry g = (.error e, r')) : ∃ device, r' = { r with device } := by
  unfold retainGeometry at hretain
  split at hretain
  · exact absurd (Prod.mk.inj hretain).1 nofun
  · dsimp only at hretain
    split at hretain
    · exact absurd (Prod.mk.inj hretain).1 nofun
    · exact absurd (Prod.mk.inj hretain).1 nofun
    · exact ⟨_, (Prod.mk.inj hretain).2.symm⟩

theorem setGeometry_error {id : DrawableId} {g : Geometry} {e : DeviceError}
    (hset : r.setGeometry id g = (.error e, r')) : ∃ device, r' = { r with device } := by
  unfold setGeometry at hset
  split at hset
  · exact absurd (Prod.mk.inj hset).1 nofun
  · split at hset
    · rename_i hretain
      obtain ⟨device, hdevice⟩ := retainGeometry_error hretain
      exact ⟨device, (Prod.mk.inj hset).2.symm.trans hdevice⟩
    · exact absurd (Prod.mk.inj hset).1 nofun

/-- A geometry is given back on the device and among the geometries; others stay. -/
theorem releaseGeometry_eq (r : Renderer δ) (id : GeometryId) :
    ∃ device geometries, r.releaseGeometry id = { r with device, geometries } ∧
      ∀ i, i ≠ id → geometries.get? i = r.geometries.get? i := by
  unfold releaseGeometry
  split
  · exact ⟨r.device, r.geometries, rfl, fun _ _ ↦ rfl⟩
  · split
    · refine ⟨_, _, rfl, fun i hne ↦ ?_⟩
      rw [Registry.get?_erase, if_neg hne]
    · refine ⟨r.device, _, rfl, fun i hne ↦ ?_⟩
      rw [Registry.get?_insert, if_neg hne]

/-! ### Drawables -/

/-- Giving a handle back is no matter for the programs of other handles. -/
theorem entry?_releaseHandle (cache : ProgramCache) (device : δ) {holder : Option ProgramHandle}
    {h : ProgramHandle} (hne : holder ≠ some h) :
    ProgramCache.entry? (releaseHandle cache device holder).2.1 h = cache.entry? h := by
  cases holder with
  | none => rfl
  | some held =>
    have hother : h ≠ held := fun heq ↦ hne (heq ▸ rfl)
    unfold releaseHandle
    dsimp only
    rw [ProgramCache.release_eq]
    cases he : cache.entry? held with
    | none => rfl
    | some e =>
      dsimp only
      by_cases hlast : e.useCount ≤ 1
      · rw [if_pos hlast]
        show ProgramCache.entry? (cache.destroyAt held.index e).2 h = _
        rw [ProgramCache.entry?_destroyAt h he, if_neg hother]
      · rw [if_neg hlast]
        show ProgramCache.entry? (cache.modifyEntry held _) h = _
        rw [ProgramCache.entry?_modifyEntry h _ he, if_neg hother]

theorem removeDrawable_of_none {id : DrawableId} (hnone : r.drawables.get? id = none) :
    (r.removeDrawable id).2 = r := by
  unfold removeDrawable
  rw [hnone]

theorem SameStateWithout.removeDrawable {id : DrawableId} {s : DrawableState}
    (hs : r.drawables.get? id = some s) : SameStateWithout id s r (r.removeDrawable id).2 := by
  let first := releaseHandle r.cache r.device s.draw.handle
  let second := releaseHandle first.2.1 first.2.2 s.depth.handle
  obtain ⟨device, geometries, hreleased, hother⟩ := releaseGeometry_eq { r with
    cache := second.2.1
    device := second.2.2
    drawables := r.drawables.erase id
    refusals := second.1 ++ first.1 ++ r.refusals } s.drawable.geometry.id
  unfold Renderer.removeDrawable
  rw [hs]
  dsimp only
  rw [hreleased]
  refine ⟨?_, ?_, hother, ?_, rfl, rfl⟩
  · show (r.drawables.erase id).get? id = none
    rw [Registry.get?_erase, if_pos rfl]
  · intro id' hne
    show (r.drawables.erase id).get? id' = _
    rw [Registry.get?_erase, if_neg hne]
  · intro h hneDraw hneDepth
    exact (entry?_releaseHandle first.2.1 first.2.2 hneDepth).trans
      (entry?_releaseHandle r.cache r.device hneDraw)

theorem get?_removeDrawable (r : Renderer δ) (id id' : DrawableId) :
    (r.removeDrawable id).2.drawables.get? id' =
      if id' = id then none else r.drawables.get? id' := by
  cases hs : r.drawables.get? id with
  | none =>
    rw [removeDrawable_of_none hs]
    split
    · rename_i heq
      rw [heq, hs]
    · rfl
  | some s =>
    have hremoved := SameStateWithout.removeDrawable hs
    split
    · rename_i heq
      rw [heq]
      exact hremoved.gone
    · rename_i hne
      exact hremoved.drawables id' hne

/-- A drawable that cannot be added leaves what taking out the one in its place leaves. -/
theorem addDrawable_error {d : Drawable} {e : DeviceError}
    (hadd : r.addDrawable d = (.error e, r')) :
    ∃ device, r' = { (r.removeDrawable d.id).2 with device } := by
  unfold addDrawable at hadd
  dsimp only at hadd
  split at hadd
  · rename_i hretain
    obtain ⟨device, hdevice⟩ := retainGeometry_error hretain
    exact ⟨device, (Prod.mk.inj hadd).2.symm.trans hdevice⟩
  · exact absurd (Prod.mk.inj hadd).1 nofun

/-! ### Lights -/

/-- Maps are created for lights that have none, and for each of the given lights at most. -/
theorem maps_createMaps (shadows : ShadowRenderer) (device : δ) (wanted : List UInt32) :
    (shadows.createMaps device wanted).2.1.mapSize = shadows.mapSize ∧
      ∃ created, (shadows.createMaps device wanted).2.1.maps = shadows.maps ++ created ∧
        ∀ m ∈ created, m.light ∈ wanted ∧ ∀ old ∈ shadows.maps, old.light ≠ m.light := by
  induction wanted generalizing shadows device with
  | nil => exact ⟨rfl, [], (List.append_nil _).symm, fun m hm ↦ absurd hm List.not_mem_nil⟩
  | cons light rest ih =>
    unfold ShadowRenderer.createMaps
    split
    · obtain ⟨hsize, created, hmaps, hcreated⟩ := ih shadows device
      exact ⟨hsize, created, hmaps, fun m hm ↦
        ⟨List.mem_cons_of_mem _ (hcreated m hm).1, (hcreated m hm).2⟩⟩
    · rename_i hmissing
      have hnew : ∀ old ∈ shadows.maps, old.light ≠ light := by
        intro old hold heq
        exact hmissing (List.any_eq_true.mpr ⟨old, hold, beq_iff_eq.mpr heq⟩)
      rcases RenderTarget.create device shadows.mapSize shadows.mapSize with ⟨e | target, created⟩
      · exact ⟨rfl, [], (List.append_nil _).symm, fun m hm ↦ absurd hm List.not_mem_nil⟩
      · obtain ⟨hsize, more, hmaps, hmore⟩ := ih (shadows.add ⟨light, target⟩) created
        refine ⟨hsize, ⟨light, target⟩ :: more, ?_, ?_⟩
        · rw [hmaps]
          exact List.append_assoc _ _ _
        · intro m hm
          rcases List.mem_cons.mp hm with rfl | hm
          · exact ⟨List.mem_cons_self, hnew⟩
          · refine ⟨List.mem_cons_of_mem _ (hmore m hm).1, fun old hold ↦ ?_⟩
            exact (hmore m hm).2 old (List.mem_append_left _ hold)

/-- Wanted maps are kept, and others are created for lights that had none. -/
theorem maps_createdFor (shadows : ShadowRenderer) (device : δ) (lights : List Light) :
    (shadows.createdFor device lights).2.1.mapSize = shadows.mapSize ∧
      ∃ created, (shadows.createdFor device lights).2.1.maps =
          (shadows.keptFor lights).maps ++ created ∧
        ∀ m ∈ created, m.light ∈ castingLights lights ∧ ∀ old ∈ shadows.maps,
            old.light ≠ m.light := by
  obtain ⟨hsize, created, hmaps, hcreated⟩ := maps_createMaps (shadows.keptFor lights)
    (Device.submitAll device ((shadows.droppedFor lights).flatMap (·.target.destroy)))
    (castingLights lights)
  refine ⟨hsize, created, hmaps, fun m hm ↦ ⟨(hcreated m hm).1, fun old hold heq ↦ ?_⟩⟩
  refine (hcreated m hm).2 old (List.mem_filter.mpr ⟨hold, ?_⟩) heq
  rw [heq]
  exact List.contains_iff_mem.mpr (hcreated m hm).1

/-- Where the shadow maps cannot follow the lights, those that are wanted are kept. -/
theorem maps_sync_error {shadows shadows' : ShadowRenderer} {device device' : δ}
    {lights : List Light} {e : DeviceError}
    (hsync : shadows.sync device lights = (.error e, shadows', device')) :
    shadows'.mapSize = shadows.mapSize ∧
      ∃ created, shadows'.maps =
          shadows.maps.filter (fun m ↦ (castingLights lights).contains m.light) ++ created ∧
        ∀ m ∈ created, m.light ∈ castingLights lights ∧ ∀ old ∈ shadows.maps,
            old.light ≠ m.light := by
  have hmaps := maps_createdFor shadows device lights
  rcases hcreated : shadows.createdFor device lights with ⟨e' | _, left, device''⟩
  · rw [ShadowRenderer.sync_of_error hcreated] at hsync
    obtain ⟨_, rfl, _⟩ := hsync
    rwa [hcreated] at hmaps
  · rw [ShadowRenderer.sync_of_ok hcreated] at hsync
    exact absurd (Prod.mk.inj hsync).1 nofun

theorem setLights_error {lights : List Light} {e : DeviceError}
    (hset : r.setLights lights = (.error e, r')) : SameStateUnder lights r r' := by
  let synced := r.shadows.sync r.device lights
  change (synced.1, { { r with scene := { r.scene with lights } }.markAll with
    shadows := synced.2.1, device := synced.2.2 }) = (.error e, r') at hset
  obtain ⟨hfailed, rfl⟩ := Prod.mk.inj hset
  obtain ⟨hsize, hmaps⟩ := maps_sync_error (show r.shadows.sync r.device lights =
    (.error e, synced.2.1, synced.2.2) from Prod.ext hfailed rfl)
  refine ⟨fun id ↦ ?_, rfl, rfl, rfl, hsize, hmaps⟩
  show ((r.drawables.mapValues _).get? id).map _ = _
  rw [Registry.get?_mapValues, Option.map_map]
  rfl

/-! ### Refusals -/

omit [Device δ] in
theorem outcomeOf_eq_refused {α : Type} (outcome : α → Outcome)
    {result : Except DeviceError α × Renderer δ} {e : DeviceError}
    (hne : ∀ a, outcome a ≠ .refused e) (hrefused : outcomeOf outcome result = (.refused e, r')) :
    result = (.error e, r') := by
  unfold outcomeOf at hrefused
  split at hrefused
  · exact absurd (Prod.mk.inj hrefused).1 (hne _)
  · obtain ⟨he, rfl⟩ := Prod.mk.inj hrefused
    rw [Outcome.refused.inj he]

/-- A refused change of the scene keeps what its operation keeps. -/
theorem refused_keeps {op : Operation} {e : DeviceError}
    (hperform : r.perform op = .ok (.refused e, r')) : r.KeptBy r' op := by
  cases op with
  | addDrawable d =>
    obtain ⟨device, rfl⟩ :=
      addDrawable_error <| outcomeOf_eq_refused (fun () ↦ .found true) (fun _ ↦ nofun)
        (Except.ok.inj hperform)
    show match r.drawables.get? d.id with | none => _ | some s => _
    cases hs : r.drawables.get? d.id with
    | none =>
      rw [removeDrawable_of_none hs]
      exact .of_device device
    | some s => exact (SameStateWithout.removeDrawable hs).of_device device
  | setGeometry id g =>
    obtain ⟨device, rfl⟩ :=
      setGeometry_error (outcomeOf_eq_refused .found (fun _ ↦ nofun) (Except.ok.inj hperform))
    exact SameState.of_device device
  | setLights lights =>
    exact setLights_error <| outcomeOf_eq_refused (fun () ↦ .done) (fun _ ↦ nofun)
      (Except.ok.inj hperform)
  | compile =>
    obtain ⟨_, _, hanswer⟩ := exists_of_map_eq_ok hperform
    exact absurd (Prod.mk.inj hanswer).1 nofun
  | render =>
    obtain ⟨_, _, hanswer⟩ := exists_of_map_eq_ok hperform
    exact absurd (Prod.mk.inj hanswer).1 nofun
  | _ => exact absurd (Prod.mk.inj (Except.ok.inj hperform)).1 nofun

/-- A light that casts a shadow. -/
def caster : Light :=
  (Light.directional ⟨0.0, -1.0, 0.0⟩ .world).withShadow .identity .identity

/-- A triangle without attributes. -/
def bare (id : UInt32) (geometry : UInt32) : Drawable :=
  { (default : Drawable) with
    id := ⟨id⟩
    geometry := .ofTriangles ⟨geometry⟩ [0, 0, 0, 1, 0, 0, 0, 1, 0] }

/-- A device that creates one buffer, and then fails once at a buffer and once at a texture. -/
def strained : Rationed Recorder :=
  { Rationed.of .standard with buffers := some 1, textures := some 0 }

theorem refused_keeps_bare :
    ∃ (r changed added lit : Renderer (Rationed Recorder))
        (refusedBuffer refusedTexture : DeviceError),
      Reached strained .standard [.addDrawable (bare 1 7)] r ∧
        r.perform (.setGeometry ⟨1⟩ (bare 1 8).geometry) = .ok (.refused refusedBuffer, changed) ∧
        r.KeptBy changed (.setGeometry ⟨1⟩ (bare 1 8).geometry) ∧
        r.perform (.addDrawable (bare 2 8)) = .ok (.refused refusedBuffer, added) ∧
        r.KeptBy added (.addDrawable (bare 2 8)) ∧
        r.perform (.setLights [caster]) = .ok (.refused refusedTexture, lit) ∧
        r.KeptBy lit (.setLights [caster]) :=
  ⟨_, _, _, _, _, _, .perform .new _ rfl, rfl, refused_keeps rfl, rfl, refused_keeps rfl, rfl,
    refused_keeps rfl⟩

/-- A refusal can leave traces: other lights without their shadow maps, or a drawable that is
gone. -/
theorem exists_refused_changed :
    ∃ (r lit added : Renderer (Rationed Recorder)) (refusedTexture refusedBuffer : DeviceError),
      Reached strained .standard [.addDrawable (bare 1 7)] r ∧
        (r.perform (.setLights [caster]) = .ok (.refused refusedTexture, lit) ∧
          r.scene.lights = [] ∧ lit.scene.lights = [caster] ∧ ¬ SameState r lit) ∧
        r.perform (.addDrawable (bare 1 8)) = .ok (.refused refusedBuffer, added) ∧
          r.contains ⟨1⟩ = true ∧ added.contains ⟨1⟩ = false ∧ ¬ SameState r added := by
  refine ⟨_, _, _, _, _, .perform .new (.addDrawable (bare 1 7)) rfl, ⟨rfl, rfl, rfl, ?_⟩, rfl,
    rfl, rfl, ?_⟩
  · exact fun hsame ↦ absurd hsame.lights nofun
  · exact fun hsame ↦ absurd (hsame.contains ⟨1⟩) nofun

end Renderer

end SceneRenderer
