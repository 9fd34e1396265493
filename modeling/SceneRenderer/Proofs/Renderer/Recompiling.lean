import SceneRenderer.Proofs.Renderer.RefusedChanges
import SceneRenderer.Proofs.Renderer.UpToDate

/-!
Compiling again. A change of the scene marks drawables, but costs no program unless the keys of a
drawable change with it: compiling then finds every slot in order, asks nothing of the device and
leaves nothing but the marks different. A slot whose program could not be built is in order too, so
the program is not tried again, however often the renderer is compiled in between, until the
drawable asks for another.

`Renderer.samePrograms_perform` says that changing the scene touches no program,
`Renderer.compileIn_upToDate` that compiling does nothing where every drawable is up to date, and
`Renderer.failed_compileDrawable` is the step lemma for programs that failed. The main statement is
`Renderer.reached_recompile`.
-/

set_option autoImplicit false
set_option relaxedAutoImplicit false

namespace SceneRenderer

open Shader

/-! ### Changing the scene -/

/-- The operation changes something in the scene: it adds no drawable, takes none out and compiles
none. -/
def Operation.IsSetter : Operation → Prop
  | .addDrawable _ | .removeDrawable _ | .compile | .render => False
  | _ => True

/-- The programs of a drawable. -/
def DrawableState.slots (s : DrawableState) : ProgramSlot × ProgramSlot := (s.draw, s.depth)

namespace Renderer

variable {δ : Type} {r r' : Renderer δ}

/-- The cache is the same, with its entries, their uses and its statistics, and so are the handles
and the failed keys of every drawable. -/
structure SamePrograms (r r' : Renderer δ) : Prop where
  cache : r'.cache = r.cache
  slots : ∀ id, (r'.drawables.get? id).map (·.slots) = (r.drawables.get? id).map (·.slots)
  refusals : r'.refusals = r.refusals

namespace SamePrograms

theorem refl (r : Renderer δ) : SamePrograms r r := ⟨rfl, fun _ ↦ rfl, rfl⟩

theorem trans {r'' : Renderer δ} (hfirst : SamePrograms r r') (hsecond : SamePrograms r' r'') :
    SamePrograms r r'' where
  cache := hsecond.cache.trans hfirst.cache
  slots id := (hsecond.slots id).trans (hfirst.slots id)
  refusals := hsecond.refusals.trans hfirst.refusals

theorem of_kept (hcache : r'.cache = r.cache) (hdrawables : r'.drawables = r.drawables)
    (hrefusals : r'.refusals = r.refusals) : SamePrograms r r' :=
  ⟨hcache, fun _ ↦ by rw [hdrawables], hrefusals⟩

/-- A change of one drawable that leaves its programs. -/
theorem modify (r : Renderer δ) (id : DrawableId) (f : DrawableState → DrawableState)
    (hf : ∀ s, (f s).slots = s.slots) (draws : DrawRenderer) :
    SamePrograms r { r with drawables := r.drawables.modify id f, draws } where
  cache := rfl
  slots id' := by
    rw [Registry.get?_modify]
    split
    · rw [Option.map_map]
      exact congrArg (Option.map · _) (funext hf)
    · rfl
  refusals := rfl

theorem update (r : Renderer δ) (id : DrawableId) (f : Drawable → Drawable) :
    SamePrograms r (r.update id f).2 := by
  unfold Renderer.update
  split
  · exact modify r id (fun s ↦ { s with drawable := f s.drawable, dirty := true }) (fun _ ↦ rfl) _
  · exact refl r

theorem markAll (r : Renderer δ) (scene : Scene) : SamePrograms r { r with scene }.markAll where
  cache := rfl
  slots id := by
    show ((r.drawables.mapValues fun _ s ↦ { s with dirty := true }).get? id).map _ = _
    rw [Registry.get?_mapValues, Option.map_map]
    rfl
  refusals := rfl

variable [Device δ]

theorem setGeometry (r : Renderer δ) (id : DrawableId) (g : Geometry) :
    SamePrograms r (r.setGeometry id g).2 := by
  have hretained : ∃ device geometries, (r.retainGeometry g).2 = { r with device, geometries } := by
    unfold retainGeometry
    split
    · exact ⟨_, _, rfl⟩
    · dsimp only
      split <;> exact ⟨_, _, rfl⟩
  obtain ⟨device, geometries, hretained⟩ := hretained
  unfold Renderer.setGeometry
  split
  · exact refl r
  · split
    · rename_i hretain
      rw [hretain] at hretained
      rw [hretained]
      exact of_kept rfl rfl rfl
    · rename_i hretain
      rw [hretain] at hretained
      obtain ⟨device', geometries', hreleased, _⟩ := releaseGeometry_eq (δ := δ) _ _
      dsimp only at hretained ⊢
      rw [hreleased, hretained]
      have hkept : SamePrograms r { r with device := device', geometries := geometries' } :=
        .of_kept rfl rfl rfl
      exact hkept.trans (update _ id fun d ↦ { d with geometry := g })

end SamePrograms

variable [Device δ]

theorem samePrograms_perform {op : Operation} {outcome : Outcome} (hop : op.IsSetter)
    (hperform : r.perform op = .ok (outcome, r')) : SamePrograms r r' := by
  have hpure {answer : Outcome × Renderer δ} (hanswer : answer = (outcome, r')) : r' = answer.2 :=
    (congrArg Prod.snd hanswer).symm
  cases op with
  | addDrawable _ | removeDrawable _ | compile | render => exact hop.elim
  | setGeometry id g =>
    rw [hpure (Except.ok.inj hperform), outcomeOf_snd]
    exact .setGeometry r id g
  | setMaterial id material =>
    rw [hpure (Except.ok.inj hperform)]
    exact .update r id fun d ↦ { d with material }
  | setModes id modes =>
    rw [hpure (Except.ok.inj hperform)]
    exact .update r id fun d ↦ { d with modes }
  | setTransform id transform =>
    rw [hpure (Except.ok.inj hperform)]
    exact .modify r id (fun s ↦ { s with drawable := { s.drawable with transform } }) (fun _ ↦ rfl)
      r.draws
  | setLights lights =>
    rw [hpure (Except.ok.inj hperform), outcomeOf_snd]
    have hmarked := SamePrograms.markAll r { r.scene with lights }
    exact ⟨hmarked.cache, hmarked.slots, hmarked.refusals⟩
  | setClips clips =>
    rw [hpure (Except.ok.inj hperform)]
    exact .markAll r { r.scene with clips }
  | setEnvironment environment =>
    rw [hpure (Except.ok.inj hperform)]
    exact .markAll r { r.scene with environment }
  | setCamera _ | setViewport _ _ | setClearColor _ =>
    rw [hpure (Except.ok.inj hperform)]
    exact .of_kept rfl rfl rfl

/-- What changes of the scene make of a renderer, refused ones among them. The device may be
exchanged at any time. -/
inductive Retouched (r : Renderer δ) : Renderer δ → Prop
  | refl : Retouched r r
  | perform {r' r'' : Renderer δ} {outcome : Outcome} (hr' : Retouched r r') {op : Operation}
    (hop : op.IsSetter) (hperform : r'.perform op = .ok (outcome, r'')) : Retouched r r''
  | exchange {r' : Renderer δ} (hr' : Retouched r r') (device : δ) :
    Retouched r { r' with device }

theorem Retouched.samePrograms (hr : Retouched r r') : SamePrograms r r' := by
  induction hr with
  | refl => exact .refl r
  | perform _ hop hperform ih => exact ih.trans (samePrograms_perform hop hperform)
  | exchange _ device ih => exact ⟨ih.cache, ih.slots, ih.refusals⟩

/-! ### Compiling drawables that are up to date -/

omit [Device δ] in
/-- What a drawable is up to date with: the scene, the cache, and its own content. -/
theorem UpToDate.of_content {s s' : DrawableState} (hs : r.UpToDate s)
    (hcontent : s'.content = s.content) : r.UpToDate s' := by
  obtain ⟨hdrawable, hslots⟩ := Prod.mk.inj hcontent
  obtain ⟨hdraw, hdepth⟩ := Prod.mk.inj hslots
  unfold UpToDate
  rw [hdrawable, hdraw, hdepth]
  exact hs

/-- Pointing a slot at the key it stands for does nothing. -/
theorem retarget_of_standsFor {cache : ProgramCache} {slot : ProgramSlot} {key : Option ProgramKey}
    (hstands : slot.StandsFor cache key) (device : δ) :
    retarget cache device slot key = .ok ⟨none, slot, cache, device, []⟩ := by
  obtain ⟨handle, failed⟩ := slot
  cases key with
  | none =>
    obtain ⟨rfl, rfl⟩ := hstands
    rfl
  | some k =>
    have hsettled : settled cache k ⟨handle, failed⟩ = true := by
      rcases hstands with ⟨h, rfl, hkey, rfl⟩ | ⟨rfl, rfl⟩
      · simp [settled, hkey]
      · simp [settled]
    rw [retarget, if_pos hsettled]

theorem compileDrawable_upToDate (hr : ∀ id s, r.drawables.get? id = some s → r.UpToDate s)
    (id : DrawableId) : ∃ drawables, r.compileDrawable id = .ok ([], { r with drawables }) ∧
      ∀ id', (drawables.get? id').map (·.content) = (r.drawables.get? id').map (·.content) := by
  unfold compileDrawable
  cases hs : r.drawables.get? id with
  | none => exact ⟨r.drawables, rfl, fun _ ↦ rfl⟩
  | some s =>
    obtain ⟨hdraw, hdepth⟩ := hr id s hs
    dsimp only
    split
    · simp only [bind, Except.bind, retarget_of_standsFor hdraw, retarget_of_standsFor hdepth]
      refine ⟨r.drawables.insert id ⟨s.drawable, s.draw, s.depth, false⟩, ?_, fun id' ↦ ?_⟩
      · simp [pure, Except.pure]
      · rw [Registry.get?_insert]
        split
        · rename_i hid
          rw [hid, hs]
          rfl
        · rfl
    · exact ⟨r.drawables, rfl, fun _ ↦ rfl⟩

/-- Compiling drawables that are up to date clears marks, in any order, and does nothing else. -/
theorem compileIn_upToDate (hr : ∀ id s, r.drawables.get? id = some s → r.UpToDate s)
    (visits : List DrawableId) :
    ∃ drawables, r.compileIn visits = .ok ([], { r with drawables }) ∧
      ∀ id, (drawables.get? id).map (·.content) = (r.drawables.get? id).map (·.content) := by
  induction visits generalizing r with
  | nil => exact ⟨r.drawables, rfl, fun _ ↦ rfl⟩
  | cons id rest ih =>
    obtain ⟨drawables, hnow, hsame⟩ := compileDrawable_upToDate hr id
    have hnext : ∀ id s, drawables.get? id = some s → { r with drawables }.UpToDate s := by
      intro id' s' hs'
      have hcontent := hsame id'
      rw [hs'] at hcontent
      obtain ⟨s, hs, heq⟩ := Option.map_eq_some_iff.mp hcontent.symm
      exact (hr id' s hs).of_content heq.symm
    obtain ⟨drawables', hlater, hsame'⟩ := ih (r := { r with drawables }) hnext
    exact ⟨drawables', compileIn_cons_eq hnow hlater, fun id' ↦ (hsame' id').trans (hsame id')⟩

/-- Every drawable asks for the programs that it asked for before. -/
def SameKeys (r r' : Renderer δ) : Prop :=
  ∀ id s s', r.drawables.get? id = some s → r'.drawables.get? id = some s' →
    r'.drawKey s'.drawable = r.drawKey s.drawable ∧
      r'.depthKey? s'.drawable = r.depthKey? s.drawable

omit [Device δ] in
theorem SamePrograms.upToDate (hsame : SamePrograms r r') (hkeys : SameKeys r r')
    (hr : ∀ id s, r.drawables.get? id = some s → r.UpToDate s) :
    ∀ id s, r'.drawables.get? id = some s → r'.UpToDate s := by
  intro id s' hs'
  have hslots := hsame.slots id
  rw [hs'] at hslots
  obtain ⟨s, hs, heq⟩ := Option.map_eq_some_iff.mp hslots.symm
  obtain ⟨hdraw, hdepth⟩ := Prod.mk.inj heq
  obtain ⟨hdrawKey, hdepthKey⟩ := hkeys id s s' hs hs'
  have hbefore := hr id s hs
  unfold UpToDate at hbefore ⊢
  rwa [hsame.cache, hdrawKey, hdepthKey, ← hdraw, ← hdepth]

/-! ### Programs that failed -/

end Renderer

/-- What a drawable has programs for: to be drawn, and to cast shadows. -/
inductive ProgramRole
  | draw
  | depth

namespace ProgramRole

variable {δ : Type}

def slot : ProgramRole → DrawableState → ProgramSlot
  | draw => (·.draw)
  | depth => (·.depth)

/-- The key of the program that is needed. -/
def key? (r : Renderer δ) (d : Drawable) : ProgramRole → Option ProgramKey
  | draw => some (r.drawKey d)
  | depth => r.depthKey? d

theorem slot_eq_of_slots {s s' : DrawableState} (hslots : s'.slots = s.slots) (role : ProgramRole) :
    role.slot s' = role.slot s := by
  obtain ⟨hdraw, hdepth⟩ := Prod.mk.inj hslots
  cases role
  · exact hdraw
  · exact hdepth

end ProgramRole

/-- The operation compiles nothing, and neither adds nor removes the drawable. -/
def Operation.Spares (id : DrawableId) : Operation → Prop
  | .addDrawable d => d.id ≠ id
  | .removeDrawable id' => id' ≠ id
  | op => op.IsSetter

namespace Renderer

variable {δ : Type} [Device δ] {r r' : Renderer δ} {role : ProgramRole} {id : DrawableId}
  {k : ProgramKey} {s : DrawableState}

theorem get?_addDrawable_of_ne (r : Renderer δ) {d : Drawable} (hne : d.id ≠ id) :
    (r.addDrawable d).2.drawables.get? id = r.drawables.get? id := by
  have hretained (r : Renderer δ) : (r.retainGeometry d.geometry).2.drawables = r.drawables := by
    unfold retainGeometry
    split
    · rfl
    · dsimp only
      split <;> rfl
  have hremoved : (r.removeDrawable d.id).2.drawables.get? id = r.drawables.get? id := by
    rw [get?_removeDrawable, if_neg (Ne.symm hne)]
  have hdrawables := hretained (r.removeDrawable d.id).2
  unfold addDrawable
  dsimp only
  split
  · rename_i hretain
    rw [hretain] at hdrawables
    rw [← hremoved, ← hdrawables]
  · rename_i hretain
    rw [hretain] at hdrawables
    show ( Registry.insert _ d.id _).get? id = _
    rw [Registry.get?_insert, if_neg (Ne.symm hne), hdrawables, hremoved]

theorem slots_perform {op : Operation} {outcome : Outcome} (hop : op.Spares id)
    (hperform : r.perform op = .ok (outcome, r')) :
    (r'.drawables.get? id).map (·.slots) = (r.drawables.get? id).map (·.slots) := by
  have hpure {answer : Outcome × Renderer δ} (hanswer : answer = (outcome, r')) : r' = answer.2 :=
    (congrArg Prod.snd hanswer).symm
  cases op with
  | addDrawable d =>
    rw [hpure (Except.ok.inj hperform), outcomeOf_snd, get?_addDrawable_of_ne r hop]
  | removeDrawable id' =>
    rw [hpure (Except.ok.inj hperform)]
    show ((r.removeDrawable id').2.drawables.get? id).map _ = _
    rw [get?_removeDrawable, if_neg (Ne.symm hop)]
  | compile | render => exact hop.elim
  | setGeometry _ _ | setMaterial _ _ | setModes _ _ | setTransform _ _ | setCamera _ | setLights _
  | setClips _ | setEnvironment _ | setViewport _ _ | setClearColor _ =>
    exact (samePrograms_perform (by trivial) hperform).slots id

theorem retarget_of_failed {cache : ProgramCache} {device : δ} {slot : ProgramSlot}
    {t : Retargeted δ} (hfailed : slot.failed = some k)
    (hretarget : retarget cache device slot (some k) = .ok t) :
    t.slot = slot ∧ t.error = none := by
  rw [retarget, if_pos (by simp [settled, hfailed])] at hretarget
  rw [← Except.ok.inj hretarget]
  exact ⟨rfl, rfl⟩

/-- A slot that stands for a failed key is left as it is, and nothing is reported for it, as long as
the key is still the one that is needed. -/
theorem failed_compileDrawable {visited : DrawableId} {failures : List CompileFailure}
    (hcompile : r.compileDrawable visited = .ok (failures, r'))
    (hs : r.drawables.get? id = some s) (hfailed : (role.slot s).failed = some k)
    (hkey : role.key? r s.drawable = some k) :
    (∃ s', r'.drawables.get? id = some s' ∧ s'.drawable = s.drawable ∧
      role.slot s' = role.slot s) ∧ ∀ f ∈ failures, f.drawable = id → f.key ≠ k := by
  rcases compileDrawable_cases hcompile with
    ⟨_, rfl, rfl⟩ | ⟨visitedState, draw, depth, hvisited, _, hdraw, hdepth, rfl, rfl⟩
  · exact ⟨⟨s, hs, rfl, rfl⟩, fun f hf ↦ absurd hf List.not_mem_nil⟩
  · by_cases hid : id = visited
    · subst hid
      obtain rfl : s = visitedState := Option.some.inj (hs.symm.trans hvisited)
      have hget : (r.drawables.insert id ⟨s.drawable, draw.slot, depth.slot, false⟩).get? id =
          some ⟨s.drawable, draw.slot, depth.slot, false⟩ :=
        (Registry.get?_insert _ _ _ _).trans (if_pos rfl)
      -- The other slot of the drawable asks for keys of the other kind.
      cases role with
      | draw =>
        obtain rfl : r.drawKey s.drawable = k := Option.some.inj hkey
        obtain ⟨hslot, herror⟩ := retarget_of_failed hfailed hdraw
        refine ⟨⟨_, hget, rfl, hslot⟩, ?_⟩
        rintro ⟨_, key, e⟩ hf rfl rfl
        obtain ⟨_, ⟨_, he⟩ | ⟨hdepthKey, _⟩⟩ := exists_failure_iff.mp ⟨e, hf⟩
        · rw [herror] at he
          exact he.elim nofun
        · cases eq_of_depthKey? hdepthKey
      | depth =>
        have hdepthKey : r.depthKey? s.drawable = some k := hkey
        rw [hdepthKey] at hdepth
        obtain ⟨hslot, herror⟩ := retarget_of_failed hfailed hdepth
        refine ⟨⟨_, hget, rfl, hslot⟩, ?_⟩
        rintro ⟨_, key, e⟩ hf rfl rfl
        obtain ⟨_, ⟨hdrawKey, _⟩ | ⟨_, he⟩⟩ := exists_failure_iff.mp ⟨e, hf⟩
        · cases hdrawKey.trans (eq_of_depthKey? hdepthKey)
        · rw [herror] at he
          exact he.elim nofun
    · refine ⟨⟨s, ?_, rfl, rfl⟩, ?_⟩
      · exact (Registry.get?_insert _ _ _ _).trans ((if_neg hid).trans hs)
      · rintro ⟨_, key, e⟩ hf rfl
        exact absurd (exists_failure_iff.mp ⟨e, hf⟩).1 hid

theorem failed_compileIn {visits : List DrawableId} {failures : List CompileFailure}
    (hcompile : r.compileIn visits = .ok (failures, r')) (hs : r.drawables.get? id = some s)
    (hfailed : (role.slot s).failed = some k) (hkey : role.key? r s.drawable = some k) :
    (∃ s', r'.drawables.get? id = some s' ∧ role.slot s' = role.slot s) ∧
      ∀ f ∈ failures, f.drawable = id → f.key ≠ k := by
  induction visits generalizing r s failures with
  | nil =>
    cases hcompile
    exact ⟨⟨s, hs, rfl⟩, fun f hf ↦ absurd hf List.not_mem_nil⟩
  | cons visited rest ih =>
    obtain ⟨now, middle, later, hnow, hlater⟩ := compileIn_cons hcompile
    obtain ⟨⟨m, hm, hdrawable, hslot⟩, hreported⟩ := failed_compileDrawable hnow hs hfailed hkey
    have hscene := sameScene_compileDrawable hnow
    have hkey' : role.key? middle m.drawable = some k := by
      rw [hdrawable, ← hkey]
      cases role
      · exact congrArg some (hscene.drawKey_eq _)
      · exact hscene.depthKey?_eq _
    obtain ⟨⟨s', hs', hslot'⟩, hreported'⟩ := ih hlater hm (hslot ▸ hfailed) hkey'
    have hall : failures = now ++ later := by
      have hcons := compileIn_cons_eq hnow hlater
      rw [hcompile] at hcons
      exact (Prod.mk.inj (Except.ok.inj hcons)).1
    rw [hall]
    exact ⟨⟨s', hs', hslot'.trans hslot⟩, List.forall_mem_append.mpr ⟨hreported, hreported'⟩⟩

/-- What becomes of a renderer, with the failures that are reported, as long as a drawable stays in
it and needs the same key whenever the renderer is compiled or draws a frame. The device may be
exchanged at any time, and other drawables may come and go. -/
inductive Needs (role : ProgramRole) (id : DrawableId) (k : ProgramKey) (r : Renderer δ) :
    List CompileFailure → Renderer δ → Prop
  | refl : Needs role id k r [] r
  | exchange {reported : List CompileFailure} {r' : Renderer δ}
    (hr' : Needs role id k r reported r') (device : δ) :
    Needs role id k r reported { r' with device }
  | perform {reported : List CompileFailure} {r' r'' : Renderer δ} {outcome : Outcome}
    (hr' : Needs role id k r reported r') {op : Operation} (hop : op.Spares id)
    (hperform : r'.perform op = .ok (outcome, r'')) : Needs role id k r reported r''
  | compile {reported failures : List CompileFailure} {r' r'' : Renderer δ}
    {visits : List DrawableId} (hr' : Needs role id k r reported r')
    (hkey : ∀ s, r'.drawables.get? id = some s → role.key? r' s.drawable = some k)
    (hcompile : r'.compileIn visits = .ok (failures, r'')) :
    Needs role id k r (reported ++ failures) r''
  | render {reported failures : List CompileFailure} {r' compiled r'' : Renderer δ}
    {visits order : List DrawableId} {report : FrameReport} (hr' : Needs role id k r reported r')
    (hkey : ∀ s, r'.drawables.get? id = some s → role.key? r' s.drawable = some k)
    (hcompile : r'.compileIn visits = .ok (failures, compiled))
    (hrender : r'.renderIn visits order = .ok (report, r'')) :
    Needs role id k r (reported ++ failures) r''

/-- A program that could not be built is not tried again as long as the drawable needs the same
key. -/
theorem Needs.failed {reported : List CompileFailure} (hneeds : Needs role id k r reported r')
    (hs : r.drawables.get? id = some s) (hfailed : (role.slot s).failed = some k) :
    (∃ s', r'.drawables.get? id = some s' ∧ role.slot s' = role.slot s) ∧
      ∀ f ∈ reported, f.drawable = id → f.key ≠ k := by
  induction hneeds with
  | refl => exact ⟨⟨s, hs, rfl⟩, fun f hf ↦ absurd hf List.not_mem_nil⟩
  | exchange _ device ih => exact ih
  | perform _ hop hperform ih =>
    obtain ⟨⟨m, hm, hslot⟩, hreported⟩ := ih
    have hslots := slots_perform hop hperform
    rw [hm] at hslots
    obtain ⟨s', hs', heq⟩ := Option.map_eq_some_iff.mp hslots
    exact ⟨⟨s', hs', (role.slot_eq_of_slots heq).trans hslot⟩, hreported⟩
  | compile _ hkey hcompile ih =>
    obtain ⟨⟨m, hm, hslot⟩, hreported⟩ := ih
    obtain ⟨⟨s', hs', hslot'⟩, hreported'⟩ :=
      failed_compileIn hcompile hm (hslot ▸ hfailed) (hkey m hm)
    exact ⟨⟨s', hs', hslot'.trans hslot⟩, List.forall_mem_append.mpr ⟨hreported, hreported'⟩⟩
  | render _ hkey hcompile hrender ih =>
    obtain ⟨⟨m, hm, hslot⟩, hreported⟩ := ih
    obtain ⟨failures, compiled, hcompile', rfl⟩ := renderIn_ok hrender
    rw [hcompile] at hcompile'
    cases hcompile'
    obtain ⟨⟨s', hs', hslot'⟩, hreported'⟩ :=
      failed_compileIn hcompile hm (hslot ▸ hfailed) (hkey m hm)
    exact ⟨⟨s', hs', hslot'.trans hslot⟩, List.forall_mem_append.mpr ⟨hreported, hreported'⟩⟩

/-! ### Reachable renderers -/

variable {alive : δ → ProgramId → Prop}

/-- Compiling once more is free. If changes of the scene leave every drawable with the keys it had,
and whatever has become of the device meanwhile, compiling in any order reports nothing and leaves
the device, which may be one that counts its calls, the cache and the slots of all drawables as they
are. A program that could not be built is tried again only after its drawable has needed another. -/
theorem reached_recompile (hdevice : KeepsPrograms alive) {device : δ} {config : RendererConfig}
    {ops : List Operation} (hreached : Reached device config ops r) {visits : List DrawableId}
    (hvisits : visits.Perm r.drawables.keys) {failures : List CompileFailure}
    {compiled : Renderer δ} (hcompile : r.compileIn visits = .ok (failures, compiled)) :
    (∀ changed, Retouched compiled changed → SameKeys compiled changed → ∀ again,
      ∃ recompiled, changed.compileIn again = .ok ([], recompiled) ∧
        recompiled.device = changed.device ∧ SamePrograms compiled recompiled) ∧
    ∀ (role : ProgramRole) id s k reported later, compiled.drawables.get? id = some s →
      (role.slot s).failed = some k → Needs role id k compiled reported later →
      (∃ s', later.drawables.get? id = some s' ∧ role.slot s' = role.slot s) ∧
        ∀ f ∈ reported, f.drawable = id → f.key ≠ k := by
  refine ⟨fun changed hretouched hkeys again ↦ ?_,
    fun role id s k reported later hs hfailed hneeds ↦ hneeds.failed hs hfailed⟩
  have hupToDate : ∀ id s, compiled.drawables.get? id = some s → compiled.UpToDate s :=
    fun id s hs ↦ (hreached.consistent hdevice).upToDate hdevice hvisits hcompile hs
  have hsame := hretouched.samePrograms
  obtain ⟨drawables, hagain, hcontent⟩ :=
    compileIn_upToDate (hsame.upToDate hkeys hupToDate) again
  refine ⟨{ changed with drawables }, hagain, rfl, hsame.trans ⟨rfl, fun id ↦ ?_, rfl⟩⟩
  have hslots := congrArg (Option.map Prod.snd) (hcontent id)
  rwa [Option.map_map, Option.map_map] at hslots

/-- A new drawable whose program cannot be built remembers its key. -/
theorem compileDrawable_refused {d : Drawable} (hs : r.drawables.get? id = some (.new d))
    (hfind : r.cache.find? (r.drawKey d) = none) (hdepth : r.depthKey? d = none)
    {source : ProgramSource} (hsource : synthesize r.cache.options (r.drawKey d) = .ok source)
    {e : ProgramError} {device : δ}
    (hlink : LinkedProgram.link r.device source = (.error e, device)) :
    ∃ failures, r.compileDrawable id = .ok (failures, { r with
      cache := r.cache.fail
      device
      drawables := r.drawables.insert id ⟨d, ⟨none, some (r.drawKey d)⟩, .empty, false⟩ }) := by
  have hdraw : retarget r.cache r.device .empty (some (r.drawKey d)) =
      .ok ⟨some e, ⟨none, some (r.drawKey d)⟩, r.cache.fail, device, []⟩ := by
    simp only [retarget]
    rw [if_neg (by simp [settled, ProgramSlot.empty]), ProgramCache.acquire,
      ProgramCache.acquireWith_miss hfind hsource, hlink]
    rfl
  have hother : retarget r.cache.fail device .empty (r.depthKey? d) =
      .ok ⟨none, .empty, r.cache.fail, device, []⟩ := by
    rw [hdepth]
    rfl
  exact compileDrawable_eq hs rfl hdraw hother

/-- The device refuses fragment stages at first. After the program of the only drawable has failed
on it, it is exchanged for one that would take the program, and the drawable is marked again. -/
theorem reached_recompile_refused :
    let refusing : Recorder := { Recorder.standard with failingStage := some .fragment }
    KeepsPrograms Recorder.Alive ∧ ∃ (r compiled changed recompiled : Renderer Recorder)
        (failures : List CompileFailure) (s : DrawableState) (k : ProgramKey),
      Reached refusing .standard [.addDrawable (twin ⟨1⟩)] r ∧ [⟨1⟩].Perm r.drawables.keys ∧
        r.compileIn [⟨1⟩] = .ok (failures, compiled) ∧
        compiled.drawables.get? ⟨1⟩ = some s ∧ s.draw = ⟨none, some k⟩ ∧
        Retouched compiled changed ∧ changed.device = .standard ∧
        (changed.drawables.get? ⟨1⟩).map (·.dirty) = some true ∧ SameKeys compiled changed ∧
        changed.compileIn [⟨1⟩] = .ok ([], recompiled) ∧ recompiled.device = changed.device ∧
        SamePrograms compiled recompiled ∧ Needs .draw ⟨1⟩ k compiled ([] ++ []) recompiled ∧
        ∃ s', recompiled.drawables.get? ⟨1⟩ = some s' ∧ s'.draw = s.draw := by
  intro refusing
  obtain ⟨r, hreached, hcache, hstage, hdrawables, hdepth⟩ : ∃ r : Renderer Recorder,
      Reached refusing .standard [.addDrawable (twin ⟨1⟩)] r ∧
        r.cache = .new RendererConfig.standard.shaderOptions ∧
        r.device.failingStage = some .fragment ∧
        r.drawables.toList = [(⟨1⟩, .new (twin ⟨1⟩))] ∧ ∀ d, r.depthKey? d = none :=
    ⟨_, .perform .new _ rfl, rfl, rfl, rfl, fun _ ↦ rfl⟩
  have hvisits : [⟨1⟩].Perm r.drawables.keys := by
    rw [Registry.keys, hdrawables]
    exact .refl _
  have hget : r.drawables.get? ⟨1⟩ = some (.new (twin ⟨1⟩)) := by
    rw [Registry.get?_eq_some_iff, hdrawables]
    exact List.mem_singleton_self _
  obtain ⟨source, hsource⟩ := synthesize_ok (show r.cache.options.kernelRadius ≤ _ by
    rw [hcache]; decide) (r.drawKey (twin ⟨1⟩))
  obtain ⟨e, hlink⟩ := r.device.link_refused hstage source
  have hfind : r.cache.find? (r.drawKey (twin ⟨1⟩)) = none := by
    rw [hcache]
    rfl
  obtain ⟨failures, hnow⟩ := compileDrawable_refused hget hfind (hdepth _) hsource hlink
  let k : ProgramKey := r.drawKey (twin ⟨1⟩)
  let s : DrawableState := ⟨twin ⟨1⟩, ⟨none, some k⟩, .empty, false⟩
  let compiled : Renderer Recorder :=
    { r with cache := r.cache.fail, drawables := r.drawables.insert ⟨1⟩ s }
  let changed : Renderer Recorder :=
    { compiled with device := Recorder.standard }.setClips r.scene.clips
  have hcompile : r.compileIn [⟨1⟩] = .ok (failures ++ [], compiled) := compileIn_cons_eq hnow rfl
  have hs : compiled.drawables.get? ⟨1⟩ = some s :=
    (Registry.get?_insert _ _ _ _).trans (if_pos rfl)
  have hmarked (id : DrawableId) : changed.drawables.get? id =
      (compiled.drawables.get? id).map fun s ↦ { s with dirty := true } :=
    Registry.get?_mapValues compiled.drawables (fun _ s ↦ { s with dirty := true }) id
  have hperform : { compiled with device := Recorder.standard }.perform (.setClips r.scene.clips) =
      .ok (.done, changed) := rfl
  have hretouched : Retouched compiled changed :=
    .perform (.exchange .refl .standard) (by trivial) hperform
  have hkeys : SameKeys compiled changed := by
    intro id s s' hs hs'
    rw [hmarked, hs] at hs'
    cases hs'
    exact ⟨rfl, rfl⟩
  obtain ⟨hfree, hfails⟩ := reached_recompile Recorder.keepsPrograms hreached hvisits hcompile
  obtain ⟨recompiled, hagain, hdevice, hsame⟩ := hfree changed hretouched hkeys [⟨1⟩]
  have hneeds : Needs .draw ⟨1⟩ k compiled ([] ++ []) recompiled := by
    refine .compile (.perform (.exchange .refl .standard) (by trivial) hperform) ?_ hagain
    intro s' hs'
    rw [hmarked, hs] at hs'
    cases hs'
    rfl
  obtain ⟨⟨s', hs', hslot⟩, _⟩ := hfails .draw ⟨1⟩ s k _ recompiled hs rfl hneeds
  refine ⟨Recorder.keepsPrograms, r, compiled, changed, recompiled, _, s, k, hreached, hvisits,
    hcompile, hs, rfl, hretouched, rfl, ?_, hkeys, hagain, hdevice, hsame, hneeds, s', hs', hslot⟩
  rw [hmarked, hs]
  rfl

end Renderer

end SceneRenderer
