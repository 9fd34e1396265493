import SceneRenderer.Proofs.Renderer.Consistent
import SceneRenderer.Proofs.Shader.CanonicalKey
import SceneRenderer.Renderer.Render

/-!
Compiling and rendering keep the renderer consistent, in whatever order drawables are visited and
collected. Compiling has a result as long as the filter of shadow maps is not too wide.
-/

set_option autoImplicit false
set_option relaxedAutoImplicit false

namespace SceneRenderer

open Shader ProgramCache

namespace Renderer

variable {δ : Type}

/-- The commands of a frame delete nothing. -/
theorem sparesObjects_frameIn (r : Renderer δ) (order : List DrawableId) :
    ∀ c ∈ (r.frameIn order).1, c.SparesObjects := by
  intro c hc
  unfold frameIn at hc
  simp only [List.mem_append, List.mem_cons, List.not_mem_nil, or_false] at hc
  rcases hc with (hc | rfl | rfl | rfl) | hc
  · exact ShadowRenderer.sparesObjects_render _ _ _ _ c hc
  · trivial
  · trivial
  · trivial
  · exact DrawState.sparesObjects_drawAll _ _ _ _ c hc

theorem isShadowDepth_drawKey {r : Renderer δ} {d : Drawable} {k : ProgramKey}
    (hk : some (r.drawKey d) = some k) : k.isShadowDepth = false := by
  cases hk
  rfl

theorem isShadowDepth_depthKey? {r : Renderer δ} {d : Drawable} {k : ProgramKey}
    (hk : r.depthKey? d = some k) : k.isShadowDepth = true := by
  unfold depthKey? at hk
  split at hk
  · cases hk
    rfl
  · cases hk

variable [Device δ] {alive : δ → ProgramId → Prop} {r : Renderer δ}

/-! ### What compiling and rendering do -/

/-- A compiled drawable is pointed at its programs if it was marked, and those that could not be
built are reported. -/
theorem compileDrawable_cases {id : DrawableId} {failures : List CompileFailure} {r' : Renderer δ}
    (hcompile : r.compileDrawable id = .ok (failures, r')) :
    ((∀ s, r.drawables.get? id = some s → s.dirty = false) ∧ failures = [] ∧ r' = r) ∨
    ∃ s draw depth, r.drawables.get? id = some s ∧ s.dirty = true ∧
      retarget r.cache r.device s.draw (some (r.drawKey s.drawable)) = .ok draw ∧
      retarget draw.cache draw.device s.depth (r.depthKey? s.drawable) = .ok depth ∧
      failures = (draw.error.toList.map (⟨id, r.drawKey s.drawable, ·⟩)) ++
        (r.depthKey? s.drawable).toList.flatMap (fun key ↦
          depth.error.toList.map (⟨id, key, ·⟩)) ∧
      r' = { r with
        cache := depth.cache
        device := depth.device
        drawables := r.drawables.insert id ⟨s.drawable, draw.slot, depth.slot, false⟩
        refusals := depth.refusals ++ draw.refusals ++ r.refusals } := by
  unfold Renderer.compileDrawable at hcompile
  cases hs : r.drawables.get? id with
  | none =>
    rw [hs] at hcompile
    cases hcompile
    exact .inl ⟨fun s hs ↦ (by cases hs), rfl, rfl⟩
  | some s =>
    rw [hs] at hcompile
    dsimp only at hcompile
    split at hcompile
    · rename_i hmarked
      rcases hdraw : retarget r.cache r.device s.draw (some (r.drawKey s.drawable)) with
        fault | draw
      · rw [hdraw] at hcompile
        cases hcompile
      · rw [hdraw] at hcompile
        rcases hdepth : retarget draw.cache draw.device s.depth (r.depthKey? s.drawable) with
          fault | depth
        · simp only [bind, Except.bind, hdepth] at hcompile
          cases hcompile
        · simp only [bind, Except.bind, hdepth] at hcompile
          cases hcompile
          exact .inr ⟨s, draw, depth, rfl, hmarked, hdraw, hdepth, rfl, rfl⟩
    · rename_i hclean
      cases hcompile
      refine .inl ⟨?_, rfl, rfl⟩
      rintro _ ⟨⟩
      exact Bool.eq_false_iff.mpr hclean

/-- A compiled drawable is pointed at its programs if it was marked. -/
theorem compileDrawable_ok {id : DrawableId} {failures : List CompileFailure} {r' : Renderer δ}
    (hcompile : r.compileDrawable id = .ok (failures, r')) :
    ((∀ s, r.drawables.get? id = some s → s.dirty = false) ∧ r' = r) ∨
    ∃ s draw depth, r.drawables.get? id = some s ∧
      retarget r.cache r.device s.draw (some (r.drawKey s.drawable)) = .ok draw ∧
      retarget draw.cache draw.device s.depth (r.depthKey? s.drawable) = .ok depth ∧
      r' = { r with
        cache := depth.cache
        device := depth.device
        drawables := r.drawables.insert id ⟨s.drawable, draw.slot, depth.slot, false⟩
        refusals := depth.refusals ++ draw.refusals ++ r.refusals } := by
  rcases compileDrawable_cases hcompile with
    ⟨hclean, _, rfl⟩ | ⟨s, draw, depth, hs, _, hdraw, hdepth, _, rfl⟩
  · exact .inl ⟨hclean, rfl⟩
  · exact .inr ⟨s, draw, depth, hs, hdraw, hdepth, rfl⟩

/-- The failures of a drawable are those of its two slots. -/
theorem exists_failure_iff {id id' : DrawableId} {drawKey k : ProgramKey}
    {depthKey? : Option ProgramKey} {drawError depthError : Option ProgramError} :
    (∃ e, CompileFailure.mk id' k e ∈ drawError.toList.map (⟨id, drawKey, ·⟩) ++
        depthKey?.toList.flatMap fun key ↦ depthError.toList.map (⟨id, key, ·⟩)) ↔
      id' = id ∧ (drawKey = k ∧ (∃ e, drawError = some e) ∨
        depthKey? = some k ∧ ∃ e, depthError = some e) := by
  simp only [List.mem_append, List.mem_map, List.mem_flatMap, Option.mem_toList,
    CompileFailure.mk.injEq]
  constructor
  · rintro ⟨e, ⟨e', he, rfl, rfl, rfl⟩ | ⟨key, hkey, e', he, rfl, rfl, rfl⟩⟩
    · exact ⟨rfl, .inl ⟨rfl, _, he⟩⟩
    · exact ⟨rfl, .inr ⟨hkey, _, he⟩⟩
  · rintro ⟨rfl, ⟨rfl, e, he⟩ | ⟨hkey, e, he⟩⟩
    · exact ⟨e, .inl ⟨e, he, rfl, rfl, rfl⟩⟩
    · exact ⟨e, .inr ⟨k, hkey, e, he, rfl, rfl, rfl⟩⟩

/-- Compiling in an order compiles the first drawable, then the others. -/
theorem compileIn_cons {id : DrawableId} {rest : List DrawableId} {failures : List CompileFailure}
    {r' : Renderer δ} (hcompile : r.compileIn (id :: rest) = .ok (failures, r')) :
    ∃ now middle later, r.compileDrawable id = .ok (now, middle) ∧
      middle.compileIn rest = .ok (later, r') := by
  unfold Renderer.compileIn at hcompile
  rcases hnow : r.compileDrawable id with fault | ⟨now, middle⟩
  · rw [hnow] at hcompile
    exact absurd hcompile nofun
  · rw [hnow] at hcompile
    rcases hlater : middle.compileIn rest with fault | ⟨later, last⟩
    · simp only [bind, Except.bind, hlater] at hcompile
      exact absurd hcompile nofun
    · simp only [bind, Except.bind, hlater] at hcompile
      cases hcompile
      exact ⟨now, middle, later, rfl, hlater⟩

/-- What compiling a drawable leaves as it is, compiling a run of them does too. -/
theorem compileIn_keeps {β : Type} (f : Renderer δ → β)
    (hf : ∀ (r r' : Renderer δ) (id : DrawableId) (failures : List CompileFailure),
      r.compileDrawable id = .ok (failures, r') → f r' = f r) {visits : List DrawableId}
    {failures : List CompileFailure} {r' : Renderer δ}
    (hcompile : r.compileIn visits = .ok (failures, r')) : f r' = f r := by
  induction visits generalizing r failures with
  | nil =>
    cases hcompile
    rfl
  | cons id rest ih =>
    obtain ⟨now, middle, later, hnow, hlater⟩ := compileIn_cons hcompile
    exact (ih hlater).trans (hf r middle id now hnow)

/-- Compiling leaves every drawable what it is, and clears the marks of those it visits. -/
theorem drawables_compileIn {visits : List DrawableId} {failures : List CompileFailure}
    {r' : Renderer δ} (hcompile : r.compileIn visits = .ok (failures, r')) {id : DrawableId}
    {s' : DrawableState} (hs' : r'.drawables.get? id = some s') :
    ∃ s, r.drawables.get? id = some s ∧ s'.drawable = s.drawable ∧
      (id ∈ visits ∨ s.dirty = false → s'.dirty = false) := by
  induction visits generalizing r failures with
  | nil =>
    cases hcompile
    exact ⟨s', hs', rfl, fun hclean ↦ hclean.resolve_left List.not_mem_nil⟩
  | cons visited rest ih =>
    obtain ⟨now, middle, later, hnow, hlater⟩ := compileIn_cons hcompile
    obtain ⟨m, hm, hdrawable, hclean⟩ := ih hlater
    rcases compileDrawable_ok hnow with ⟨hmarked, rfl⟩ | ⟨s, draw, depth, hs, _, _, rfl⟩
    · refine ⟨m, hm, hdrawable, fun hvisited ↦ hclean ?_⟩
      rcases hvisited with hvisited | hunmarked
      · rcases List.mem_cons.mp hvisited with rfl | hrest
        · exact .inr (hmarked m hm)
        · exact .inl hrest
      · exact .inr hunmarked
    · change (r.drawables.insert visited _).get? id = some m at hm
      rw [Registry.get?_insert] at hm
      split at hm
      · rename_i hid
        cases hm
        exact ⟨s, hid ▸ hs, hdrawable, fun _ ↦ hclean (.inr rfl)⟩
      · rename_i hid
        refine ⟨m, hm, hdrawable, fun hvisited ↦ hclean ?_⟩
        rcases hvisited with hvisited | hunmarked
        · exact .inl ((List.mem_cons.mp hvisited).resolve_left hid)
        · exact .inr hunmarked

/-- A rendered frame is compiled, and then told to the device. -/
theorem renderIn_ok {visits order : List DrawableId} {report : FrameReport} {r' : Renderer δ}
    (hrender : r.renderIn visits order = .ok (report, r')) :
    ∃ failures compiled, r.compileIn visits = .ok (failures, compiled) ∧
      r' = { compiled with
        device := Device.submitAll compiled.device (compiled.frameIn order).1
        draws := (compiled.frameIn order).2.2
        shadowStats := (compiled.frameIn order).2.1.shadow } := by
  unfold Renderer.renderIn at hrender
  rcases hcompile : r.compileIn visits with fault | ⟨failures, compiled⟩
  · rw [hcompile] at hrender
    exact absurd hrender nofun
  · rw [hcompile] at hrender
    cases hrender
    exact ⟨failures, compiled, rfl, rfl⟩

/-! ### Consistency -/

namespace Consistent

/-- The state after both slots of a marked drawable were pointed at its programs. -/
theorem retargeted (hdevice : KeepsPrograms alive) (hr : r.Consistent alive)
    {id : DrawableId} {s : DrawableState} (hs : r.drawables.get? id = some s)
    {draw depth : Retargeted δ}
    (hdraw : retarget r.cache r.device s.draw (some (r.drawKey s.drawable)) = .ok draw)
    (hdepth : retarget draw.cache draw.device s.depth (r.depthKey? s.drawable) = .ok depth) :
    { r with
      cache := depth.cache
      device := depth.device
      drawables := r.drawables.insert id ⟨s.drawable, draw.slot, depth.slot, false⟩
      refusals := depth.refusals ++ draw.refusals ++ r.refusals }.Consistent alive := by
  let rest (h : ProgramHandle) : Nat := (r.drawables.erase id).total (·.holds h)
  obtain ⟨hexclusiveDraw, hexclusiveDepth⟩ := hr.exclusive id s hs
  have hfirst := retargets hdevice hexclusiveDraw (hr.programs_of hs) hdraw
  have hreorder : Accounts alive draw.cache draw.device
      fun h ↦ (rest h + held draw.slot.handle h) + held s.depth.handle h :=
    hfirst.accounts.of_eq fun h ↦ Nat.add_right_comm _ _ _
  have hsecond := retargets hdevice hexclusiveDepth hreorder hdepth
  have hkept {h : ProgramHandle} (hpos : 0 < rest h) : depth.cache.key? h = r.cache.key? h :=
    (hsecond.kept h (Nat.lt_of_lt_of_le hpos (Nat.le_add_right _ _))).trans
      (hfirst.kept h (Nat.lt_of_lt_of_le hpos (Nat.le_add_right _ _)))
  have hdrawKept (h : ProgramHandle) (hhandle : draw.slot.handle = some h) :
      depth.cache.key? h = draw.cache.key? h := by
    refine hsecond.kept h ?_
    rw [hhandle, held_self]
    exact Nat.succ_pos _
  refine ⟨?_, ?_, ?_, ?_, ?_, ?_, ?_⟩
  · refine hsecond.accounts.of_eq fun h ↦ ?_
    show (r.drawables.insert id _).total (·.holds h) = _
    rw [Registry.total_insert]
    show rest h + (held draw.slot.handle h + held depth.slot.handle h) = _
    omega
  · refine hr.geometries.of_eq fun i ↦ ?_
    show (r.drawables.insert id _).total (·.usesGeometry i) = _
    rw [Registry.total_insert, geometryUsers_eq hs]
    rfl
  · show depth.refusals ++ draw.refusals ++ r.refusals = []
    rw [hsecond.refusals, hfirst.refusals, hr.refusals]
    rfl
  · intro id' s' hs'
    change (r.drawables.insert id _).get? id' = some s' at hs'
    rw [Registry.get?_insert] at hs'
    split at hs'
    · cases hs'
      exact ⟨hfirst.exclusive, hsecond.exclusive⟩
    · exact hr.exclusive id' s' hs'
  · intro id' s' hs'
    change (r.drawables.insert id _).get? id' = some s' at hs'
    rw [Registry.get?_insert] at hs'
    split at hs'
    · cases hs'
      exact ⟨(hfirst.stands.ofKind fun _ hk ↦ isShadowDepth_drawKey hk).of_kept hdrawKept,
        hsecond.stands.ofKind fun _ hk ↦ isShadowDepth_depthKey? hk⟩
    · rename_i hne
      exact OfKinds.of_kept (hr.kinds id' s' hs') fun h hheld ↦ hkept (pos_of_other hne hs' hheld)
  · intro id' s' hs' hclean
    change (r.drawables.insert id _).get? id' = some s' at hs'
    rw [Registry.get?_insert] at hs'
    split at hs'
    · cases hs'
      exact ⟨hfirst.stands.of_kept hdrawKept, hsecond.stands⟩
    · rename_i hne
      exact (hr.current id' s' hs' hclean).of_kept rfl rfl fun h hheld ↦
        hkept (pos_of_other hne hs' hheld)
  · exact (hsecond.options.trans hfirst.options).trans hr.options

theorem compileDrawable (hdevice : KeepsPrograms alive) (hr : r.Consistent alive)
    {id : DrawableId} {failures : List CompileFailure} {r' : Renderer δ}
    (hcompile : r.compileDrawable id = .ok (failures, r')) : r'.Consistent alive := by
  rcases compileDrawable_ok hcompile with ⟨_, rfl⟩ | ⟨s, draw, depth, hs, hdraw, hdepth, rfl⟩
  · exact hr
  · exact hr.retargeted hdevice hs hdraw hdepth

theorem compileIn (hdevice : KeepsPrograms alive) {visits : List DrawableId}
    (hr : r.Consistent alive) {failures : List CompileFailure} {r' : Renderer δ}
    (hcompile : r.compileIn visits = .ok (failures, r')) : r'.Consistent alive := by
  induction visits generalizing r failures with
  | nil =>
    cases hcompile
    exact hr
  | cons id rest ih =>
    obtain ⟨now, middle, later, hnow, hlater⟩ := compileIn_cons hcompile
    exact ih (hr.compileDrawable hdevice hnow) hlater

theorem renderIn (hdevice : KeepsPrograms alive) (hr : r.Consistent alive)
    {visits order : List DrawableId} {report : FrameReport} {r' : Renderer δ}
    (hrender : r.renderIn visits order = .ok (report, r')) : r'.Consistent alive := by
  obtain ⟨failures, compiled, hcompile, rfl⟩ := renderIn_ok hrender
  have hcompiled := hr.compileIn hdevice hcompile
  have hdrawn := hcompiled.of_outlives
    (hdevice.submitAll (fun c hc ↦ (sparesObjects_frameIn compiled order c hc).sparesPrograms)
      compiled.device)
  exact ⟨hdrawn.programs, hdrawn.geometries, hdrawn.refusals, hdrawn.exclusive, hdrawn.kinds,
    hdrawn.current, hdrawn.options⟩

end Consistent

/-! ### Compiling has a result -/

theorem exists_acquire {cache : ProgramCache}
    (hradius : cache.options.kernelRadius ≤ maxKernelRadius) {key : ProgramKey}
    (hshareable : cache.Shareable key) (device : δ) :
    ∃ result cache' device', cache.acquire device key = .ok (result, cache', device') := by
  cases hfind : cache.find? key with
  | none =>
    obtain ⟨source, hsource⟩ := synthesize_ok hradius key
    rw [acquire, acquireWith_miss hfind hsource]
    split <;> exact ⟨_, _, _, rfl⟩
  | some h =>
    obtain ⟨e, he⟩ := exists_entry?_of_find? hfind
    have huses : (UInt32.ofNat (e.useCount.toNat + 1)).toNat = e.useCount.toNat + 1 :=
      UInt32.toNat_ofNat_of_lt' (hshareable h e hfind he)
    exact ⟨_, _, _, acquireWith_hit hfind he huses⟩

theorem exists_retarget {cache : ProgramCache}
    (hradius : cache.options.kernelRadius ≤ maxKernelRadius) (device : δ) {slot : ProgramSlot}
    {key : Option ProgramKey}
    (hshareable : ∀ k, key = some k → settled cache k slot = false → cache.Shareable k) :
    ∃ t, retarget cache device slot key = .ok t := by
  cases key with
  | none => exact ⟨_, rfl⟩
  | some key =>
    simp only [retarget]
    split
    · exact ⟨_, rfl⟩
    · rename_i hunsettled
      obtain ⟨result, cache', device', hacquire⟩ := exists_acquire hradius
        (hshareable key rfl (Bool.eq_false_iff.mpr hunsettled)) device
      rw [hacquire]
      cases result <;> exact ⟨_, rfl⟩

/-- A program that neither of two slots holds is held by other drawables only, each of which has it
once at most. -/
theorem shareable_of_others {cache : ProgramCache} {device : δ} {slot other : ProgramSlot}
    {drawables : Registry DrawableId DrawableState} {key : ProgramKey}
    (haccounts : Accounts alive cache device fun h ↦
      (drawables.total (·.holds h) + held other.handle h) + held slot.handle h)
    (hkinds : ∀ id s, drawables.get? id = some s → s.OfKinds cache)
    (hother : other.OfKind (!key.isShadowDepth) cache) (hunsettled : settled cache key slot = false)
    (hsize : drawables.size + 1 < 2 ^ 32) : cache.Shareable key := by
  intro h e hfind he
  have hkey : cache.key? h = some key := by
    obtain ⟨e', he', hkey⟩ := (find?_eq_some_iff haccounts.sound).mp hfind
    rw [key?, he', Option.map_some, hkey]
  have hslot : held slot.handle h = 0 := by
    refine if_neg fun hheld ↦ ?_
    simp [settled, hheld, hkey] at hunsettled
  have hheld : held other.handle h = 0 := by
    refine if_neg fun hheld ↦ ?_
    have hkind := hother h hheld
    rw [hkey] at hkind
    simp at hkind
  have hothers := drawables.total_le_size fun id s hs ↦ OfKinds.holds_le_one (hkinds id s hs) h
  rw [haccounts.useCount_eq he, hslot, hheld]
  omega

/-- A marked drawable that can be compiled. -/
theorem compileDrawable_eq {id : DrawableId} {s : DrawableState}
    (hs : r.drawables.get? id = some s) (hmarked : s.dirty = true) {draw depth : Retargeted δ}
    (hdraw : retarget r.cache r.device s.draw (some (r.drawKey s.drawable)) = .ok draw)
    (hdepth : retarget draw.cache draw.device s.depth (r.depthKey? s.drawable) = .ok depth) :
    ∃ failures, r.compileDrawable id = .ok (failures, { r with
      cache := depth.cache
      device := depth.device
      drawables := r.drawables.insert id ⟨s.drawable, draw.slot, depth.slot, false⟩
      refusals := depth.refusals ++ draw.refusals ++ r.refusals }) := by
  unfold Renderer.compileDrawable
  rw [hs]
  dsimp only
  rw [if_pos hmarked]
  simp only [bind, Except.bind, hdraw, hdepth]
  exact ⟨_, rfl⟩

theorem size_compileDrawable {id : DrawableId} {failures : List CompileFailure} {r' : Renderer δ}
    (hcompile : r.compileDrawable id = .ok (failures, r')) :
    r'.drawables.size = r.drawables.size := by
  rcases compileDrawable_ok hcompile with ⟨_, rfl⟩ | ⟨s, draw, depth, hs, _, _, rfl⟩
  · rfl
  · exact Registry.size_insert_of_get? hs _

/-- A new drawable whose program is not there yet gets one. -/
theorem compileDrawable_new {id : DrawableId} {d : Drawable}
    (hs : r.drawables.get? id = some (.new d)) (hfind : r.cache.find? (r.drawKey d) = none)
    (hdepth : r.depthKey? d = none) {source : ProgramSource}
    (hsource : synthesize r.cache.options (r.drawKey d) = .ok source) {p : LinkedProgram}
    {device : δ} (hlink : LinkedProgram.link r.device source = (.ok p, device)) :
    ∃ failures, r.compileDrawable id = .ok (failures, { r with
      cache := (r.cache.store ⟨r.drawKey d, source, p, 1⟩).2
      device
      drawables := r.drawables.insert id
        ⟨d, ⟨some (r.cache.store ⟨r.drawKey d, source, p, 1⟩).1, none⟩, .empty, false⟩ }) := by
  have hretarget :
      retarget (r.cache.store ⟨r.drawKey d, source, p, 1⟩).2 device .empty (r.depthKey? d) =
        .ok ⟨none, .empty, (r.cache.store ⟨r.drawKey d, source, p, 1⟩).2, device, []⟩ := by
    rw [hdepth]
    rfl
  exact compileDrawable_eq hs rfl (retarget_new hfind hsource hlink) hretarget

/-- A new drawable that casts gets two programs, if neither is there yet. -/
theorem compileDrawable_new_cast {id : DrawableId} {d : Drawable}
    (hs : r.drawables.get? id = some (.new d)) {key key' : ProgramKey} (hkey : r.drawKey d = key)
    (hkey' : r.depthKey? d = some key') (hfind : r.cache.find? key = none)
    {source source' : ProgramSource} (hsource : synthesize r.cache.options key = .ok source)
    (hsource' : synthesize r.cache.options key' = .ok source') {p p' : LinkedProgram}
    {device device' : δ} (hlink : LinkedProgram.link r.device source = (.ok p, device))
    (hlink' : LinkedProgram.link device source' = (.ok p', device'))
    (hfind' : (r.cache.store ⟨key, source, p, 1⟩).2.find? key' = none) :
    let drawn := r.cache.store ⟨key, source, p, 1⟩
    let cast := drawn.2.store ⟨key', source', p', 1⟩
    ∃ failures, r.compileDrawable id = .ok (failures, { r with
      cache := cast.2
      device := device'
      drawables := r.drawables.insert id
        ⟨d, ⟨some drawn.1, none⟩, ⟨some cast.1, none⟩, false⟩ }) := by
  subst hkey
  rw [← options_store] at hsource'
  have hcast := retarget_new hfind' hsource' hlink'
  rw [← hkey'] at hcast
  exact compileDrawable_eq hs rfl (retarget_new hfind hsource hlink) hcast

/-- A new drawable whose program is there shares it. -/
theorem compileDrawable_found {id : DrawableId} {d : Drawable}
    (hs : r.drawables.get? id = some (.new d)) {h : ProgramHandle} {e : CacheEntry}
    (hfind : r.cache.find? (r.drawKey d) = some h) (he : r.cache.entry? h = some e)
    {uses : UInt32} (huses : uses.toNat = e.useCount.toNat + 1) (hdepth : r.depthKey? d = none) :
    ∃ failures, r.compileDrawable id = .ok (failures, { r with
      cache := r.cache.hit h uses
      drawables := r.drawables.insert id ⟨d, ⟨some h, none⟩, .empty, false⟩ }) := by
  have hretarget : retarget (r.cache.hit h uses) r.device .empty (r.depthKey? d) =
      .ok ⟨none, .empty, r.cache.hit h uses, r.device, []⟩ := by
    rw [hdepth]
    rfl
  exact compileDrawable_eq hs rfl (retarget_found r.device hfind he huses) hretarget

theorem compileIn_cons_eq {id : DrawableId} {rest : List DrawableId}
    {now later : List CompileFailure} {middle r' : Renderer δ}
    (hnow : r.compileDrawable id = .ok (now, middle))
    (hlater : middle.compileIn rest = .ok (later, r')) :
    r.compileIn (id :: rest) = .ok (now ++ later, r') := by
  unfold Renderer.compileIn
  simp only [bind, Except.bind, hnow, hlater]
  rfl

namespace Consistent

theorem exists_compileDrawable (hdevice : KeepsPrograms alive) (hr : r.Consistent alive)
    (hradius : r.config.shaderOptions.kernelRadius ≤ maxKernelRadius)
    (hsize : r.drawables.size < 2 ^ 32) (id : DrawableId) :
    ∃ failures r', r.compileDrawable id = .ok (failures, r') := by
  cases hs : r.drawables.get? id with
  | none =>
    unfold Renderer.compileDrawable
    rw [hs]
    exact ⟨_, _, rfl⟩
  | some s =>
    by_cases hmarked : s.dirty = true
    · rw [← hr.options] at hradius
      rw [Registry.size_erase hs] at hsize
      have hothers (id' : DrawableId) (s' : DrawableState)
          (hs' : (r.drawables.erase id).get? id' = some s') : s'.OfKinds r.cache := by
        rw [Registry.get?_erase] at hs'
        split at hs'
        · cases hs'
        · exact hr.kinds id' s' hs'
      obtain ⟨draw, hdraw⟩ : ∃ t,
          retarget r.cache r.device s.draw (some (r.drawKey s.drawable)) = .ok t := by
        refine exists_retarget hradius r.device fun k hk hunsettled ↦ ?_
        refine shareable_of_others (hr.programs_of hs) hothers ?_ hunsettled hsize
        rw [isShadowDepth_drawKey hk]
        exact (hr.kinds id s hs).2
      have hretargets := retargets hdevice (hr.exclusive id s hs).1 (hr.programs_of hs) hdraw
      rw [← hretargets.options] at hradius
      obtain ⟨depth, hdepth⟩ : ∃ t,
          retarget draw.cache draw.device s.depth (r.depthKey? s.drawable) = .ok t := by
        refine exists_retarget hradius draw.device fun k hk hunsettled ↦ ?_
        have haccounts : Accounts _ draw.cache draw.device fun h ↦
            ((r.drawables.erase id).total (·.holds h) + held draw.slot.handle h) +
              held s.depth.handle h :=
          hretargets.accounts.of_eq fun h ↦ Nat.add_right_comm _ _ _
        refine shareable_of_others haccounts (fun id' s' hs' ↦ ?_) ?_ hunsettled hsize
        · refine OfKinds.of_kept (hothers id' s' hs') fun h hheld ↦ hretargets.kept h ?_
          exact Nat.lt_of_lt_of_le (Nat.lt_of_lt_of_le hheld (Registry.le_total _ hs' (·.holds h)))
            (Nat.le_add_right _ _)
        · rw [isShadowDepth_depthKey? hk]
          exact hretargets.stands.ofKind fun _ hk ↦ isShadowDepth_drawKey hk
      obtain ⟨failures, hcompile⟩ := compileDrawable_eq hs hmarked hdraw hdepth
      exact ⟨failures, _, hcompile⟩
    · unfold Renderer.compileDrawable
      rw [hs]
      dsimp only
      rw [if_neg hmarked]
      exact ⟨_, _, rfl⟩

/-- Compiling has a result, in whatever order drawables are visited. -/
theorem exists_compileIn (hdevice : KeepsPrograms alive) (hr : r.Consistent alive)
    (hradius : r.config.shaderOptions.kernelRadius ≤ maxKernelRadius)
    (hsize : r.drawables.size < 2 ^ 32) (visits : List DrawableId) :
    ∃ failures r', r.compileIn visits = .ok (failures, r') := by
  induction visits generalizing r with
  | nil => exact ⟨_, _, rfl⟩
  | cons id rest ih =>
    obtain ⟨now, middle, hnow⟩ := hr.exists_compileDrawable hdevice hradius hsize id
    have hconfig : middle.config = r.config := by
      rcases compileDrawable_ok hnow with ⟨_, rfl⟩ | ⟨_, _, _, _, _, _, rfl⟩ <;> rfl
    rw [← hconfig] at hradius
    rw [← size_compileDrawable hnow] at hsize
    obtain ⟨later, r', hlater⟩ := ih (hr.compileDrawable hdevice hnow) hradius hsize
    exact ⟨_, _, compileIn_cons_eq hnow hlater⟩

end Consistent

end Renderer

end SceneRenderer
