import SceneRenderer.Device.Rationed
import SceneRenderer.Proofs.Device.NumberedPrograms
import SceneRenderer.Proofs.Renderer.OwnedObjects
import SceneRenderer.Proofs.Renderer.ShadowMaps

/-!
Shadow maps brought in line with the lights, time after time, on a device on which any creation may
fail. A call that succeeds leaves one map for each light that casts a shadow, in the order of the
lights; one that fails leaves some of them, and everything that is on the device belongs to a map
that is left. Either way the next call starts from maps that are in order.

`ShadowRenderer.tracks_sync` is what one call does, `ShadowRenderer.syncAll_owns` what a series of
them keeps; the main statement is `ShadowRenderer.syncAll_tracks`.
-/

set_option autoImplicit false
set_option relaxedAutoImplicit false

namespace SceneRenderer

open ObjectLedger

/-! ### Lights -/

/-- The light at a position casts a shadow. -/
def castsAt (lights : List Light) (i : UInt32) : Bool := lights[i.toNat]?.any (·.castsShadow)

/-- Positions of lights can be told apart as long as there are not too many of them. -/
theorem mem_castingLights {lights : List Light} (hlights : lights.length ≤ 2 ^ 32) {i : UInt32} :
    i ∈ castingLights lights ↔ castsAt lights i := by
  rw [castsAt, Option.any_eq_true, castingLights, List.mem_map]
  constructor
  · rintro ⟨⟨light, n⟩, hmem, rfl⟩
    obtain ⟨hmem, hcasts⟩ := List.mem_filter.mp hmem
    have hget := List.mk_mem_zipIdx_iff_getElem?.mp hmem
    obtain ⟨hn, _⟩ := List.getElem?_eq_some_iff.mp hget
    refine ⟨light, ?_, hcasts⟩
    rwa [UInt32.toNat_ofNat_of_lt' (Nat.lt_of_lt_of_le hn hlights)]
  · rintro ⟨light, hget, hcasts⟩
    exact ⟨(light, i.toNat),
      List.mem_filter.mpr ⟨List.mk_mem_zipIdx_iff_getElem?.mpr hget, hcasts⟩, UInt32.ofNat_toNat⟩

/-! ### Deletions -/

section Deletions

variable {δ : Type} [Device δ] {d d' : Audited δ}

theorem Audited.deletions_submitAll (d : Audited δ) (commands : List Command) :
    deletions (Device.submitAll d commands).ledger =
      (commands.filterMap Command.deleted?).reverse ++ deletions d.ledger := by
  rw [ledger_submitAll, deletions, List.filterMap_append, ← List.map_reverse, List.filterMap_map]
  congr 1
  exact List.filterMap_some

/-- A target that is created costs no other object. -/
theorem RenderTarget.deletions_create {width height : UInt32} {t : RenderTarget}
    (hcreate : RenderTarget.create d width height = (.ok t, d')) :
    deletions d'.ledger = deletions d.ledger := by
  have htexture := Audited.deletions_record d .texture
    (Device.createTexture d.device width height none)
  unfold RenderTarget.create at hcreate
  rcases hcolor : Device.createTexture d width height none with ⟨e | color, colored⟩
  · rw [hcolor] at hcreate
    cases (Prod.mk.inj hcreate).1
  · rw [hcolor] at hcreate
    change deletions (Device.createTexture d width height none).2.ledger = _ at htexture
    rw [hcolor] at htexture
    have htarget := Audited.deletions_record colored .renderTarget
      (Device.createRenderTarget colored.device width height color)
    change deletions (Device.createRenderTarget colored width height color).2.ledger = _ at htarget
    dsimp only at hcreate
    rcases hid : Device.createRenderTarget colored width height color with ⟨e | id, targeted⟩
    · rw [hid] at hcreate
      cases (Prod.mk.inj hcreate).1
    · rw [hid] at hcreate htarget
      rw [← (Prod.mk.inj hcreate).2]
      exact htarget.trans htexture

end Deletions

namespace ShadowRenderer

variable {δ : Type} [Device δ]

theorem deletions_createMaps {s s' : ShadowRenderer} {d d' : Audited δ} {wanted : List UInt32}
    (hcreate : s.createMaps d wanted = (.ok (), s', d')) :
    deletions d'.ledger = deletions d.ledger := by
  induction wanted generalizing s d with
  | nil => rw [← (Prod.mk.inj (Prod.mk.inj hcreate).2).2]
  | cons light rest ih =>
    unfold createMaps at hcreate
    split at hcreate
    · exact ih hcreate
    · rcases htarget : RenderTarget.create d s.mapSize s.mapSize with ⟨e | target, created⟩
      · rw [htarget] at hcreate
        cases (Prod.mk.inj hcreate).1
      · rw [htarget] at hcreate
        exact (ih hcreate).trans (RenderTarget.deletions_create htarget)

/-! ### One call -/

variable {s : ShadowRenderer} {lights : List Light}

/-- A map that stays wanted stays, whether or not others can be created. -/
theorem mem_maps_sync (s : ShadowRenderer) (device : δ) {m : ShadowMap} (hm : m ∈ s.maps)
    (hwanted : m.light ∈ castingLights lights) : m ∈ (s.sync device lights).2.1.maps := by
  have hkept : m ∈ (s.keptFor lights).maps :=
    List.mem_filter.mpr ⟨hm, List.contains_iff_mem.mpr hwanted⟩
  obtain ⟨_, created, hmaps, _⟩ := Renderer.maps_createdFor s device lights
  obtain ⟨_, _, hperm, _⟩ := s.sync_cases device lights
  exact hperm.mem_iff.mpr (hmaps ▸ List.mem_append_left _ hkept)

/-- A call that succeeds deletes the maps of other lights, and nothing else. -/
theorem deletions_sync {d : Audited δ} (hok : (s.sync d lights).1 = .ok ()) :
    deletions (s.sync d lights).2.2.ledger =
      ((s.droppedFor lights).flatMap (·.target.objects)).reverse ++ deletions d.ledger := by
  rw [← deleted_destroy, ← Audited.deletions_submitAll]
  rcases hcreated : s.createdFor d lights with ⟨e | _, s', d'⟩
  · rw [sync_of_error hcreated] at hok
    cases hok
  · rw [sync_of_ok hcreated]
    exact deletions_createMaps hcreated

/-! ### What a call leaves -/

/-- What a change of the lights leaves, whether or not it succeeds. -/
structure TracksLights (lights : List Light) (before after : ShadowRenderer × Audited δ) :
    Prop where
  distinct : (after.1.maps.map (·.light)).Nodup
  wanted : ∀ m ∈ after.1.maps, castsAt lights m.light
  /-- A light that still casts a shadow keeps its map, with the same target. -/
  kept : ∀ m ∈ before.1.maps, castsAt lights m.light → m ∈ after.1.maps
  targets : (after.1.maps.map (·.target.id)).Nodup
  textures : (after.1.maps.map (·.target.color)).Nodup
  /-- Nothing was deleted twice. -/
  orderly : Orderly after.2.ledger
  /-- Nothing is left on the device but the targets of the maps with their textures. -/
  outstanding : outstanding after.2.ledger = ↑after.1.objects

/-- What it leaves if it succeeds: one map for each light that casts a shadow, in the order of the
lights. The maps that are gone are those of other lights. -/
structure MatchesLights (lights : List Light) (before after : ShadowRenderer × Audited δ) : Prop
    extends TracksLights lights before after where
  complete : ∀ i, castsAt lights i → ∃ m ∈ after.1.maps, m.light = i
  ascending : after.1.maps.Pairwise fun m m' ↦ m.light < m'.light
  deleted : deletions after.2.ledger =
    ((before.1.maps.filter fun m ↦ !castsAt lights m.light).flatMap (·.target.objects)).reverse ++
      deletions before.2.ledger

/-- Maps whose objects are on a device once each have targets and textures of their own. -/
theorem nodup_targets_of_objects (hnodup : s.objects.Nodup) :
    (s.maps.map (·.target.id)).Nodup ∧ (s.maps.map (·.target.color)).Nodup := by
  have htargets : (s.maps.map fun m ↦ DeviceObject.renderTarget m.target.id).Sublist s.objects := by
    rw [objects, List.map_eq_flatMap]
    exact List.Sublist.flatMap_right _ fun m _ ↦ List.singleton_sublist.mpr List.mem_cons_self
  have htextures : (s.maps.map fun m ↦ DeviceObject.texture m.target.color).Sublist s.objects := by
    rw [objects, List.map_eq_flatMap]
    exact List.Sublist.flatMap_right _ fun m _ ↦
      List.singleton_sublist.mpr (List.mem_cons_of_mem _ List.mem_cons_self)
  have htarget := hnodup.sublist htargets
  have htexture := hnodup.sublist htextures
  rw [← Function.comp_def DeviceObject.renderTarget, ← List.map_map] at htarget
  rw [← Function.comp_def DeviceObject.texture, ← List.map_map] at htexture
  exact ⟨htarget.of_map _, htexture.of_map _⟩

variable {alive : δ → DeviceObject → Prop}

theorem tracks_sync (hdevice : KeepsObjects alive) {d : Audited δ} (hs : s.Tidy)
    (hd : Owns alive d ↑s.objects) (hlights : lights.length ≤ 2 ^ 32) :
    TracksLights lights (s, d) (s.sync d lights).2 ∧
      ((s.sync d lights).1 = .ok () → MatchesLights lights (s, d) (s.sync d lights).2) := by
  have hfollows := follows_sync hs d lights
  have howns := Owns.sync hdevice (hd.of_eq (Multiset.add_zero _).symm) lights
  rw [Multiset.add_zero] at howns
  have hnodup : (s.sync d lights).2.1.objects.Nodup := by
    rw [← Multiset.coe_nodup, ← howns.outstanding]
    exact howns.orderly.nodup
  have htracks : TracksLights lights (s, d) (s.sync d lights).2 := {
    distinct := hfollows.distinct
    wanted := fun m hm ↦ (mem_castingLights hlights).mp (hfollows.wanted m hm)
    kept := fun m hm hcasts ↦ mem_maps_sync s d hm ((mem_castingLights hlights).mpr hcasts)
    targets := (nodup_targets_of_objects hnodup).1
    textures := (nodup_targets_of_objects hnodup).2
    orderly := howns.orderly
    outstanding := howns.outstanding }
  refine ⟨htracks, fun hok ↦ ?_⟩
  have hcomplete := (complete_sync_iff hs d lights).mpr hok
  have hdropped : s.droppedFor lights = s.maps.filter fun m ↦ !castsAt lights m.light := by
    refine List.filter_congr fun m _ ↦ congrArg (! ·) (Bool.eq_iff_iff.mpr ?_)
    rw [List.contains_iff_mem, mem_castingLights hlights]
  exact {
    htracks with
    complete := fun i hi ↦ hcomplete i ((mem_castingLights hlights).mpr hi)
    ascending := hfollows.sorted hcomplete
    deleted := hdropped ▸ deletions_sync hok }

/-! ### Calls in a row -/

/-- The maps after changes of the lights, of which any may have failed. -/
def syncAll (s : ShadowRenderer) (device : δ) (changes : List (List Light)) : ShadowRenderer × δ :=
  changes.foldl (fun state lights ↦ (state.1.sync state.2 lights).2) (s, device)

theorem syncAll_owns (hdevice : KeepsObjects alive) {d : Audited δ} (hs : s.Tidy)
    (hd : Owns alive d ↑s.objects) (changes : List (List Light)) :
    (s.syncAll d changes).1.Tidy ∧
      Owns alive (s.syncAll d changes).2 ↑(s.syncAll d changes).1.objects := by
  induction changes generalizing s d with
  | nil => exact ⟨hs, hd⟩
  | cons lights rest ih =>
    have howns := Owns.sync hdevice (hd.of_eq (Multiset.add_zero _).symm) lights
    rw [Multiset.add_zero] at howns
    exact ih (follows_sync hs d lights).toTidy howns

/-- However the lights changed before and whichever of these changes failed, the maps are brought in
line with the lights once more; if that fails too, what is left is fit for the next change. -/
theorem syncAll_tracks (hdevice : KeepsObjects alive) (device : δ) (mapSize : UInt32)
    (changes : List (List Light)) (lights : List Light) (hlights : lights.length < 2 ^ 32) :
    let before := (new mapSize).syncAll (Audited.start device) changes
    let answer := before.1.sync before.2 lights
    TracksLights lights before answer.2 ∧
      (answer.1 = .ok () → MatchesLights lights before answer.2) := by
  intro before answer
  obtain ⟨htidy, howns⟩ := syncAll_owns hdevice (follows_new mapSize).toTidy (.start device) changes
  exact tracks_sync hdevice htidy howns hlights.le

/-- The third target fails, so that the first change leaves two maps of three. The next one gives up
the first of them, keeps the second and makes up for the third. -/
theorem syncAll_tracks_third_fails :
    let sun : Light := { Light.directional ⟨0.0, 0.0, -1.0⟩ .world with shadow := true }
    let lamp : Light := { sun with shadow := false }
    let device : Rationed Recorder := { Rationed.of Recorder.standard with targets := some 2 }
    let before := (new 512).syncAll (Audited.start device) [[sun, sun, sun]]
    let answer := before.1.sync before.2 [lamp, sun, sun]
    KeepsObjects (fun (d : Rationed Recorder) o ↦ Recorder.Gave d.device o) ∧
      [lamp, sun, sun].length < 2 ^ 32 ∧
      before.1.maps.map (·.light) = [0, 1] ∧ answer.1 = .ok () ∧
      TracksLights [lamp, sun, sun] before answer.2 ∧
      MatchesLights [lamp, sun, sun] before answer.2 := by
  intro sun lamp device before answer
  have hdevice := Rationed.keepsObjects Recorder.keepsObjects
  have hlights : [lamp, sun, sun].length < 2 ^ 32 := by decide
  have hok : answer.1 = .ok () := by decide +kernel
  have hmaps : before.1.maps.map (·.light) = [0, 1] := by decide +kernel
  have h := syncAll_tracks hdevice device 512 [[sun, sun, sun]] [lamp, sun, sun] hlights
  exact ⟨hdevice, hlights, hmaps, hok, h.1, h.2 hok⟩

end ShadowRenderer

end SceneRenderer
