import SceneRenderer.Proofs.Device.LivePrograms
import SceneRenderer.Renderer.Basic

/-!
Geometries on the device have users, and are uploaded once for all of them. Taking a geometry and
giving it back change its users by one; the last user takes the buffers along.
-/

set_option autoImplicit false
set_option relaxedAutoImplicit false

namespace SceneRenderer

/-- The use that one drawable has of a geometry. -/
def geometryUse (used id : GeometryId) : Nat := if used = id then 1 else 0

@[simp] theorem geometryUse_self (id : GeometryId) : geometryUse id id = 1 := if_pos rfl

theorem geometryUse_of_ne {id id' : GeometryId} (hne : id' ≠ id) : geometryUse id id' = 0 :=
  if_neg fun heq ↦ hne heq.symm

/-- The users that the entries count are those that there are. -/
structure GeometryAccounts (geometries : Registry GeometryId GeometryEntry)
    (users : GeometryId → Nat) : Prop where
  count : ∀ id, ((geometries.get? id).map (·.users)).getD 0 = users id
  used : ∀ id e, geometries.get? id = some e → 0 < e.users

namespace GeometryAccounts

variable {geometries : Registry GeometryId GeometryEntry} {users : GeometryId → Nat}

theorem of_eq {users' : GeometryId → Nat} (haccounts : GeometryAccounts geometries users)
    (husers : ∀ id, users' id = users id) : GeometryAccounts geometries users' :=
  { haccounts with count := fun id ↦ (haccounts.count id).trans (husers id).symm }

theorem users_eq (haccounts : GeometryAccounts geometries users) {id : GeometryId}
    {e : GeometryEntry} (he : geometries.get? id = some e) : e.users = users id := by
  have hcount := haccounts.count id
  rwa [he] at hcount

theorem exists_iff (haccounts : GeometryAccounts geometries users) (id : GeometryId) :
    (∃ e, geometries.get? id = some e) ↔ 0 < users id := by
  constructor
  · rintro ⟨e, he⟩
    exact haccounts.users_eq he ▸ haccounts.used id e he
  · intro hpos
    cases he : geometries.get? id with
    | none =>
      have hcount := haccounts.count id
      rw [he] at hcount
      exact absurd hpos (Nat.not_lt.mpr (Nat.le_of_eq hcount.symm))
    | some e => exact ⟨e, rfl⟩

/-- An entry is changed, or made, for one geometry. -/
theorem insert (haccounts : GeometryAccounts geometries users) {id : GeometryId}
    {e : GeometryEntry} {users' : GeometryId → Nat} (hused : 0 < e.users)
    (husers : users' id = e.users) (hother : ∀ id', id' ≠ id → users' id' = users id') :
    GeometryAccounts (geometries.insert id e) users' := by
  constructor
  · intro id'
    rw [Registry.get?_insert]
    by_cases hid : id' = id
    · rw [if_pos hid, hid, husers]
      rfl
    · rw [if_neg hid, hother id' hid]
      exact haccounts.count id'
  · intro id' e' he'
    rw [Registry.get?_insert] at he'
    split at he'
    · cases he'
      exact hused
    · exact haccounts.used id' e' he'

theorem erase (haccounts : GeometryAccounts geometries users) {id : GeometryId}
    {users' : GeometryId → Nat} (husers : users' id = 0)
    (hother : ∀ id', id' ≠ id → users' id' = users id') :
    GeometryAccounts (geometries.erase id) users' := by
  constructor
  · intro id'
    rw [Registry.get?_erase]
    by_cases hid : id' = id
    · rw [if_pos hid, hid, husers]
      rfl
    · rw [if_neg hid, hother id' hid]
      exact haccounts.count id'
  · intro id' e' he'
    rw [Registry.get?_erase] at he'
    split at he'
    · cases he'
    · exact haccounts.used id' e' he'

end GeometryAccounts

namespace Renderer

variable {δ : Type} [Device δ] {alive : δ → ProgramId → Prop} {users : GeometryId → Nat}

/-- Taking a geometry changes the geometries and the device only; where it fails, the device. -/
theorem retainGeometry_spec (hdevice : KeepsPrograms alive) (r : Renderer δ) (g : Geometry)
    (haccounts : GeometryAccounts r.geometries users) :
    ∃ device geometries, (r.retainGeometry g).2 = { r with device, geometries } ∧
      Outlives alive r.device device ∧
      match (r.retainGeometry g).1 with
      | .ok () => GeometryAccounts geometries fun id ↦ users id + geometryUse g.id id
      | .error _ => geometries = r.geometries := by
  have hother : ∀ id', id' ≠ g.id → users id' + geometryUse g.id id' = users id' := by
    intro id' hid
    rw [geometryUse_of_ne hid, Nat.add_zero]
  unfold retainGeometry
  cases he : r.geometries.get? g.id with
  | some entry =>
    refine ⟨r.device, _, rfl, .refl _, ?_⟩
    refine haccounts.insert (Nat.succ_pos _) ?_ hother
    rw [geometryUse_self, ← haccounts.users_eq he]
  | none =>
    have hunused : users g.id = 0 := by
      have hcount := haccounts.count g.id
      rw [he] at hcount
      exact hcount.symm
    have houtlives := hdevice.upload r.device g
    have hkept (buffers : Option GeometryBuffers) :
        GeometryAccounts (r.geometries.insert g.id ⟨buffers, 1⟩)
          fun id ↦ users id + geometryUse g.id id :=
      haccounts.insert Nat.one_pos (by rw [geometryUse_self, hunused]) hother
    rcases hupload : GeometryBuffers.upload r.device g with ⟨e | buffers, device⟩
    · rw [hupload] at houtlives
      cases e with
      | emptyGeometry =>
        exact ⟨device, _, rfl, houtlives, hkept none⟩
      | _ => exact ⟨device, r.geometries, rfl, houtlives, rfl⟩
    · rw [hupload] at houtlives
      exact ⟨device, _, rfl, houtlives, hkept (some buffers)⟩

/-- Giving a geometry back changes the geometries and the device only. -/
theorem releaseGeometry_spec (hdevice : KeepsPrograms alive) (r : Renderer δ) (id : GeometryId)
    (haccounts : GeometryAccounts r.geometries fun id' ↦ users id' + geometryUse id id') :
    ∃ device geometries, r.releaseGeometry id = { r with device, geometries } ∧
      Outlives alive r.device device ∧ GeometryAccounts geometries users := by
  have hother : ∀ id', id' ≠ id → users id' = users id' + geometryUse id id' := by
    intro id' hid
    rw [geometryUse_of_ne hid, Nat.add_zero]
  have hpos : 0 < users id + geometryUse id id := by
    rw [geometryUse_self]
    exact Nat.succ_pos _
  obtain ⟨e, he⟩ := (haccounts.exists_iff id).mpr hpos
  have husers := haccounts.users_eq he
  rw [geometryUse_self] at husers
  unfold releaseGeometry
  rw [he]
  dsimp only
  split
  · refine ⟨_, _, rfl, ?_, haccounts.erase (by omega) hother⟩
    refine hdevice.submitAll (fun c hc ↦ ?_) r.device
    obtain ⟨b, _, hb⟩ := List.mem_flatMap.mp hc
    exact b.sparesPrograms_destroy c hb
  · refine ⟨r.device, _, rfl, .refl _, ?_⟩
    refine haccounts.insert ?_ ?_ hother
    · show 0 < e.users - 1
      omega
    · show users id = e.users - 1
      omega

end Renderer

end SceneRenderer
