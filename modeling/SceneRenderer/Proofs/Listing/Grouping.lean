import Mathlib.Data.List.Induction
import SceneRenderer.Listing.Report

/-!
Grouping drawables by their programs. Groups are found by the slots of programs alone, and stay in
the order of the slots. No drawable is lost or listed twice (`perm_groupsBy`); where no two programs
have the same slot, a group has just the drawables of its program (`grouped_groupsBy`).
-/

set_option autoImplicit false
set_option relaxedAutoImplicit false

namespace SceneRenderer.LoadedScene

/-! ### One drawable -/

section AddToGroup

variable {handle : ProgramHandle} {id : DrawableId} {groups : List ProgramGroup} {g : ProgramGroup}

theorem perm_addToGroup (handle : ProgramHandle) (id : DrawableId) (groups : List ProgramGroup) :
    ((addToGroup handle id groups).flatMap (·.drawables)).Perm
      (groups.flatMap (·.drawables) ++ [id]) := by
  induction groups with
  | nil => exact .refl _
  | cons first rest ih =>
    unfold addToGroup
    split
    · simp only [List.flatMap_cons, List.append_assoc]
      exact List.perm_append_comm.append_left _
    · split
      · exact (List.perm_append_singleton id _).symm
      · simp only [List.flatMap_cons, List.append_assoc]
        exact ih.append_left _

/-- A group is as it was, or it is the group of the slot, with the drawable in the last place. -/
theorem of_mem_addToGroup (hascending : groups.Pairwise (·.handle.index < ·.handle.index))
    (hg : g ∈ addToGroup handle id groups) :
    (g ∈ groups ∧ g.handle.index ≠ handle.index) ∨
      (∃ before ∈ groups, before.handle.index = handle.index ∧
        g = ⟨before.handle, before.drawables ++ [id]⟩) ∨
      (g = ⟨handle, [id]⟩ ∧ ∀ other ∈ groups, other.handle.index ≠ handle.index) := by
  induction groups with
  | nil => exact .inr (.inr ⟨List.mem_singleton.mp hg, List.forall_mem_nil _⟩)
  | cons first rest ih =>
    obtain ⟨hfirst, hrest⟩ := List.pairwise_cons.mp hascending
    unfold addToGroup at hg
    split at hg
    · rename_i hsame
      rcases List.mem_cons.mp hg with rfl | hg
      · exact .inr (.inl ⟨first, List.mem_cons_self, hsame, rfl⟩)
      · exact .inl ⟨List.mem_cons_of_mem _ hg, fun heq ↦
          UInt32.lt_irrefl _ (heq ▸ hsame ▸ hfirst g hg)⟩
    · rename_i hother
      split at hg
      · rename_i hless
        have hbehind : ∀ other ∈ first :: rest, handle.index < other.handle.index :=
          List.forall_mem_cons.mpr ⟨hless, fun other ho ↦ UInt32.lt_trans hless (hfirst other ho)⟩
        rcases List.mem_cons.mp hg with rfl | hg
        · exact .inr (.inr ⟨rfl, fun other ho ↦ (UInt32.ne_of_lt (hbehind other ho)).symm⟩)
        · exact .inl ⟨hg, (UInt32.ne_of_lt (hbehind g hg)).symm⟩
      · rcases List.mem_cons.mp hg with rfl | hg
        · exact .inl ⟨List.mem_cons_self, hother⟩
        · rcases ih hrest hg with ⟨hin, hne⟩ | ⟨before, hin, hbefore⟩ | ⟨hnew, hnone⟩
          · exact .inl ⟨List.mem_cons_of_mem _ hin, hne⟩
          · exact .inr (.inl ⟨before, List.mem_cons_of_mem _ hin, hbefore⟩)
          · exact .inr (.inr ⟨hnew, List.forall_mem_cons.mpr ⟨hother, hnone⟩⟩)

/-- Every slot that had a group has one still, and so does that of the drawable. -/
theorem exists_mem_addToGroup (handle : ProgramHandle) (id : DrawableId)
    (groups : List ProgramGroup) :
    (∀ g ∈ groups, ∃ g' ∈ addToGroup handle id groups, g'.handle = g.handle) ∧
      ∃ g ∈ addToGroup handle id groups, g.handle.index = handle.index := by
  induction groups with
  | nil => exact ⟨List.forall_mem_nil _, _, List.mem_cons_self, rfl⟩
  | cons first rest ih =>
    obtain ⟨hkept, g, hg, hindex⟩ := ih
    unfold addToGroup
    split
    · rename_i hsame
      refine ⟨List.forall_mem_cons.mpr ⟨⟨_, List.mem_cons_self, rfl⟩, fun g hg ↦
        ⟨g, List.mem_cons_of_mem _ hg, rfl⟩⟩, _, List.mem_cons_self, hsame⟩
    · split
      · exact ⟨fun g hg ↦ ⟨g, List.mem_cons_of_mem _ hg, rfl⟩, _, List.mem_cons_self, rfl⟩
      · refine ⟨List.forall_mem_cons.mpr ⟨⟨first, List.mem_cons_self, rfl⟩, fun g' hg' ↦ ?_⟩,
          g, List.mem_cons_of_mem _ hg, hindex⟩
        obtain ⟨g'', hg'', hhandle⟩ := hkept g' hg'
        exact ⟨g'', List.mem_cons_of_mem _ hg'', hhandle⟩

theorem ascending_addToGroup (hascending : groups.Pairwise (·.handle.index < ·.handle.index)) :
    (addToGroup handle id groups).Pairwise (·.handle.index < ·.handle.index) := by
  induction groups with
  | nil => exact List.pairwise_singleton _ _
  | cons first rest ih =>
    obtain ⟨hfirst, hrest⟩ := List.pairwise_cons.mp hascending
    unfold addToGroup
    split
    · exact List.pairwise_cons.mpr ⟨hfirst, hrest⟩
    · rename_i hother
      split
      · rename_i hless
        exact List.pairwise_cons.mpr ⟨List.forall_mem_cons.mpr
          ⟨hless, fun g hg ↦ UInt32.lt_trans hless (hfirst g hg)⟩, hascending⟩
      · rename_i hnotLess
        have hgreater : first.handle.index < handle.index :=
          UInt32.lt_of_le_of_ne (UInt32.not_lt.mp hnotLess) hother
        refine List.pairwise_cons.mpr ⟨fun g hg ↦ ?_, ih hrest⟩
        rcases of_mem_addToGroup hrest hg with ⟨hin, _⟩ | ⟨before, hin, _, rfl⟩ | ⟨rfl, _⟩
        · exact hfirst g hin
        · exact hfirst before hin
        · exact hgreater

end AddToGroup

/-! ### All drawables -/

/-- The groups of drawables, given their programs. -/
def groupsBy (programOf? : DrawableId → Option ProgramHandle) (ids : List DrawableId) :
    List ProgramGroup :=
  ids.foldl
    (fun groups id ↦
      match programOf? id with
      | some handle => addToGroup handle id groups
      | none => groups) []

variable {programOf? : DrawableId → Option ProgramHandle} {ids : List DrawableId}

theorem groupsBy_concat (programOf? : DrawableId → Option ProgramHandle) (ids : List DrawableId)
    (id : DrawableId) : groupsBy programOf? (ids ++ [id]) =
      match programOf? id with
      | some handle => addToGroup handle id (groupsBy programOf? ids)
      | none => groupsBy programOf? ids := by
  simp [groupsBy, List.foldl_append]

/-- Every drawable is in one group, or has no program. -/
theorem perm_groupsBy (programOf? : DrawableId → Option ProgramHandle) (ids : List DrawableId) :
    ((groupsBy programOf? ids).flatMap (·.drawables) ++
      ids.filter fun id ↦ (programOf? id).isNone).Perm ids := by
  induction ids using List.reverseRecOn with
  | nil => exact .refl _
  | append_singleton ids id ih =>
    rw [groupsBy_concat, List.filter_append]
    cases hprogram : programOf? id with
    | none =>
      have hlast : [id].filter (fun id ↦ (programOf? id).isNone) = [id] := by simp [hprogram]
      rw [hlast, ← List.append_assoc]
      exact ih.append_right _
    | some handle =>
      have hlast : [id].filter (fun id ↦ (programOf? id).isNone) = [] := by simp [hprogram]
      rw [hlast, List.append_nil]
      refine ((perm_addToGroup handle id _).append_right _).trans ?_
      rw [List.append_assoc]
      refine (List.perm_append_comm.append_left _).trans ?_
      rw [← List.append_assoc]
      exact ih.append_right _

/-- Groups that have just the drawables of their programs. -/
structure Grouped (programOf? : DrawableId → Option ProgramHandle) (ids : List DrawableId)
    (groups : List ProgramGroup) : Prop where
  ascending : groups.Pairwise (·.handle.index < ·.handle.index)
  program : ∀ g ∈ groups, ∃ id ∈ ids, programOf? id = some g.handle
  drawables : ∀ g ∈ groups, g.drawables = ids.filter fun id ↦ programOf? id = some g.handle
  collected : ∀ id ∈ ids, ∀ handle, programOf? id = some handle → ∃ g ∈ groups, g.handle = handle

theorem Grouped.addToGroup {groups : List ProgramGroup} {id : DrawableId} {handle : ProgramHandle}
    (hgroups : Grouped programOf? ids groups) (hprogram : programOf? id = some handle)
    (hslots : ∀ id' handle', programOf? id' = some handle' → handle'.index = handle.index →
      handle' = handle) :
    Grouped programOf? (ids ++ [id]) (addToGroup handle id groups) := by
  obtain ⟨hkept, hown⟩ := exists_mem_addToGroup handle id groups
  have hhandle : ∀ g ∈ groups, g.handle.index = handle.index → g.handle = handle := by
    intro g hg hindex
    obtain ⟨id', _, hid'⟩ := hgroups.program g hg
    exact hslots id' _ hid' hindex
  have hcases := fun g (hg : g ∈ LoadedScene.addToGroup handle id groups) ↦
    of_mem_addToGroup hgroups.ascending hg
  refine ⟨ascending_addToGroup hgroups.ascending, fun g hg ↦ ?_, fun g hg ↦ ?_, ?_⟩
  · rcases hcases g hg with ⟨hin, _⟩ | ⟨before, hin, _, rfl⟩ | ⟨rfl, _⟩
    · obtain ⟨id', hid', hprogram'⟩ := hgroups.program g hin
      exact ⟨id', List.mem_append_left _ hid', hprogram'⟩
    · obtain ⟨id', hid', hprogram'⟩ := hgroups.program before hin
      exact ⟨id', List.mem_append_left _ hid', hprogram'⟩
    · exact ⟨id, List.mem_append_right _ (List.mem_singleton_self _), hprogram⟩
  · rw [List.filter_append]
    rcases hcases g hg with ⟨hin, hne⟩ | ⟨before, hin, hindex, rfl⟩ | ⟨rfl, hnone⟩
    · have hother : handle ≠ g.handle := fun heq ↦ hne (congrArg ProgramHandle.index heq.symm)
      simp [hgroups.drawables g hin, hprogram, hother]
    · simp [hgroups.drawables before hin, hprogram, hhandle before hin hindex]
    · have hfirst : ids.filter (fun id ↦ programOf? id = some handle) = [] := by
        refine List.filter_eq_nil_iff.mpr fun id' hid' hprogram' ↦ ?_
        obtain ⟨g, hg, hg'⟩ := hgroups.collected id' hid' handle (of_decide_eq_true hprogram')
        exact hnone g hg (congrArg ProgramHandle.index hg')
      simp [hfirst, hprogram]
  · intro id' hid' handle' hprogram'
    rcases List.mem_append.mp hid' with hbefore | hlast
    · obtain ⟨g, hg, rfl⟩ := hgroups.collected id' hbefore handle' hprogram'
      exact hkept g hg
    · rw [List.mem_singleton.mp hlast, hprogram] at hprogram'
      obtain rfl := Option.some_inj.mp hprogram'
      obtain ⟨g, hg, hindex⟩ := hown
      refine ⟨g, hg, ?_⟩
      rcases hcases g hg with ⟨_, hne⟩ | ⟨before, hin, hindex', rfl⟩ | ⟨rfl, _⟩
      · exact absurd hindex hne
      · exact hhandle before hin hindex'
      · rfl

/-- Where no two programs have one slot, each group has the drawables of its program. -/
theorem grouped_groupsBy (hslots : ∀ id id' handle handle', programOf? id = some handle →
      programOf? id' = some handle' → handle.index = handle'.index → handle = handle')
    (ids : List DrawableId) : Grouped programOf? ids (groupsBy programOf? ids) := by
  induction ids using List.reverseRecOn with
  | nil => exact ⟨.nil, nofun, nofun, nofun⟩
  | append_singleton ids id ih =>
    rw [groupsBy_concat]
    cases hprogram : programOf? id with
    | some handle =>
      exact ih.addToGroup hprogram fun id' handle' hprogram' ↦
        hslots id' id handle' handle hprogram' hprogram
    | none =>
      refine ⟨ih.ascending, fun g hg ↦ ?_, fun g hg ↦ ?_, fun id' hid' handle' hprogram' ↦ ?_⟩
      · obtain ⟨id', hid', hprogram'⟩ := ih.program g hg
        exact ⟨id', List.mem_append_left _ hid', hprogram'⟩
      · simp [List.filter_append, ih.drawables g hg, hprogram]
      · rcases List.mem_append.mp hid' with hbefore | hlast
        · exact ih.collected id' hbefore handle' hprogram'
        · rw [List.mem_singleton.mp hlast, hprogram] at hprogram'
          cases hprogram'

end SceneRenderer.LoadedScene
