import SceneRenderer.Proofs.Renderer.Reachable

/-!
Whose buffers a drawable is drawn with. The buffers of a geometry come from one upload of a geometry
that was handed over, made in the same run: an entry which was not there before an operation was
uploaded by it (`Renderer.Step.origin`), and so it is for every entry of a renderer that can be
reached (`Renderer.Reached.uploadedIn`).

A geometry is uploaded once for all drawables that name it, so the buffers under an identity are
those of the drawable that named it first. They are a drawable's own where equal identities of
geometries mean equal geometries, which is `Renderer.Reached.ownBuffers`.
-/

set_option autoImplicit false
set_option relaxedAutoImplicit false

namespace SceneRenderer

/-- The geometries that an operation hands over. -/
def Operation.handed : Operation → List Geometry
  | .addDrawable d => [d.geometry]
  | .setGeometry _ g => [g]
  | _ => []

namespace Renderer

section Uploads

variable {δ : Type} [Device δ] {r r' : Renderer δ}

/-- Compiling uploads no geometry. -/
theorem geometries_compileIn {visits : List DrawableId} {failures : List CompileFailure}
    {compiled : Renderer δ} (hcompile : r.compileIn visits = .ok (failures, compiled)) :
    compiled.geometries = r.geometries :=
  compileIn_keeps (·.geometries) (fun r r' id failures hnow ↦ by
    rcases compileDrawable_ok hnow with ⟨_, rfl⟩ | ⟨_, _, _, _, _, _, rfl⟩ <;> rfl) hcompile

/-! ### Uploads of a run -/

/-- The geometry is not there, and uploading it gives the buffers, or none for an empty geometry. -/
def Uploads (r : Renderer δ) (g : Geometry) (buffers : Option GeometryBuffers) : Prop :=
  r.geometries.get? g.id = none ∧
    (GeometryBuffers.upload r.device g).1 =
      match buffers with
      | some b => .ok b
      | none => .error .emptyGeometry

/-- The operation uploads the geometry. A drawable that is replaced is taken out before. -/
def UploadsBy (r : Renderer δ) (g : Geometry) (buffers : Option GeometryBuffers) :
    Operation → Prop
  | .addDrawable d => d.geometry = g ∧ (r.removeDrawable d.id).2.Uploads g buffers
  | .setGeometry id given => given = g ∧ r.contains id = true ∧ r.Uploads g buffers
  | _ => False

/-- One operation of a run. -/
inductive Step : Renderer δ → Operation → Renderer δ → Prop
  | perform {r r' : Renderer δ} {outcome : Outcome} (op : Operation)
    (hperform : r.perform op = .ok (outcome, r')) : Step r op r'
  | compile {r r' : Renderer δ} {visits : List DrawableId} {failures : List CompileFailure}
    (hcompile : r.compileIn visits = .ok (failures, r')) : Step r .compile r'
  | render {r r' : Renderer δ} {visits order : List DrawableId} {report : FrameReport}
    (hrender : r.renderIn visits order = .ok (report, r')) : Step r .render r'

/-- The buffers under the identity of a geometry were uploaded from it by an operation of the run,
and have been there since. -/
inductive UploadedIn (device : δ) (config : RendererConfig) (g : Geometry)
    (buffers : Option GeometryBuffers) : List Operation → Renderer δ → Prop
  | now {ops : List Operation} {op : Operation} {r r' : Renderer δ}
    (hr : Reached device config ops r) (hstep : Step r op r')
    (huploads : r.UploadsBy g buffers op) : UploadedIn device config g buffers (op :: ops) r'
  | later {ops : List Operation} {op : Operation} {r r' : Renderer δ}
    (hr : UploadedIn device config g buffers ops r) (hstep : Step r op r')
    (hkept : ∃ e, r'.geometries.get? g.id = some e ∧ e.buffers = buffers) :
    UploadedIn device config g buffers (op :: ops) r'

/-- Every entry has the buffers that it had. -/
def KeepsBuffers (r r' : Renderer δ) : Prop :=
  ∀ i e', r'.geometries.get? i = some e' →
    ∃ e, r.geometries.get? i = some e ∧ e.buffers = e'.buffers

omit [Device δ] in
theorem KeepsBuffers.of_eq (hgeometries : r'.geometries = r.geometries) : KeepsBuffers r r' := by
  intro i e' he'
  rw [hgeometries] at he'
  exact ⟨e', he', rfl⟩

theorem keepsBuffers_releaseGeometry (r : Renderer δ) (id : GeometryId) :
    KeepsBuffers r (r.releaseGeometry id) := by
  intro i e' he'
  unfold releaseGeometry at he'
  split at he'
  · exact ⟨e', he', rfl⟩
  · rename_i entry hentry
    split at he'
    · rw [Registry.get?_erase] at he'
      split at he'
      · cases he'
      · exact ⟨e', he', rfl⟩
    · rw [Registry.get?_insert] at he'
      split at he'
      · rename_i heq
        cases he'
        exact ⟨entry, heq ▸ hentry, rfl⟩
      · exact ⟨e', he', rfl⟩

theorem keepsBuffers_removeDrawable (r : Renderer δ) (id : DrawableId) :
    KeepsBuffers r (r.removeDrawable id).2 := by
  intro i e' he'
  unfold removeDrawable at he'
  split at he'
  · exact ⟨e', he', rfl⟩
  · rename_i s _
    let first := releaseHandle r.cache r.device s.draw.handle
    let second := releaseHandle first.2.1 first.2.2 s.depth.handle
    exact keepsBuffers_releaseGeometry { r with
      cache := second.2.1
      device := second.2.2
      drawables := r.drawables.erase id
      refusals := second.1 ++ first.1 ++ r.refusals } s.drawable.geometry.id i e' he'

/-- A geometry that is taken was there, or is uploaded. -/
theorem origin_retainGeometry (r : Renderer δ) (g : Geometry) {i : GeometryId} {e' : GeometryEntry}
    (he' : (r.retainGeometry g).2.geometries.get? i = some e') :
    (∃ e, r.geometries.get? i = some e ∧ e.buffers = e'.buffers) ∨
      g.id = i ∧ r.Uploads g e'.buffers := by
  have hnew (buffers : Option GeometryBuffers) {geometries : Registry GeometryId GeometryEntry}
      (hupload : r.Uploads g buffers)
      (hgeometries : geometries = r.geometries.insert g.id ⟨buffers, 1⟩)
      (hget : geometries.get? i = some e') :
      (∃ e, r.geometries.get? i = some e ∧ e.buffers = e'.buffers) ∨
        g.id = i ∧ r.Uploads g e'.buffers := by
    rw [hgeometries, Registry.get?_insert] at hget
    split at hget
    · rename_i heq
      cases hget
      exact .inr ⟨heq.symm, hupload⟩
    · exact .inl ⟨e', hget, rfl⟩
  unfold retainGeometry at he'
  cases hentry : r.geometries.get? g.id with
  | some entry =>
    rw [hentry] at he'
    dsimp only at he'
    rw [Registry.get?_insert] at he'
    split at he'
    · rename_i heq
      cases he'
      exact .inl ⟨entry, heq ▸ hentry, rfl⟩
    · exact .inl ⟨e', he', rfl⟩
  | none =>
    rw [hentry] at he'
    rcases hupload : GeometryBuffers.upload r.device g with ⟨e | buffers, device⟩
    · rw [hupload] at he'
      cases e with
      | emptyGeometry =>
        exact hnew none ⟨hentry, by rw [hupload]⟩ rfl he'
      | _ => exact .inl ⟨e', he', rfl⟩
    · rw [hupload] at he'
      exact hnew (some buffers) ⟨hentry, by rw [hupload]⟩ rfl he'

/-- An entry was there before an operation, or the operation uploaded its geometry. -/
def Origin (r : Renderer δ) (op : Operation) (i : GeometryId) (e' : GeometryEntry) : Prop :=
  (∃ e, r.geometries.get? i = some e ∧ e.buffers = e'.buffers) ∨
    ∃ g, g.id = i ∧ r.UploadsBy g e'.buffers op

theorem KeepsBuffers.origin (h : KeepsBuffers r r') {op : Operation} {i : GeometryId}
    {e' : GeometryEntry} (he' : r'.geometries.get? i = some e') : r.Origin op i e' :=
  .inl (h i e' he')

theorem origin_addDrawable (r : Renderer δ) (d : Drawable) {i : GeometryId} {e' : GeometryEntry}
    (he' : (r.addDrawable d).2.geometries.get? i = some e') :
    r.Origin (.addDrawable d) i e' := by
  have hretained : ((r.removeDrawable d.id).2.retainGeometry d.geometry).2.geometries.get? i =
      some e' := by
    unfold addDrawable at he'
    dsimp only at he'
    split at he' <;> rename_i heq <;> rw [heq] <;> exact he'
  rcases origin_retainGeometry _ _ hretained with ⟨e, he, hbuffers⟩ | ⟨hid, hupload⟩
  · obtain ⟨e₀, he₀, hbuffers₀⟩ := keepsBuffers_removeDrawable r d.id i e he
    exact .inl ⟨e₀, he₀, hbuffers₀.trans hbuffers⟩
  · exact .inr ⟨d.geometry, hid, rfl, hupload⟩

omit [Device δ] in
theorem keepsBuffers_update (r : Renderer δ) (id : DrawableId) (f : Drawable → Drawable) :
    KeepsBuffers r (r.update id f).2 := by
  unfold update
  split <;> exact .of_eq rfl

theorem origin_setGeometry (r : Renderer δ) (id : DrawableId) (g : Geometry) {i : GeometryId}
    {e' : GeometryEntry} (he' : (r.setGeometry id g).2.geometries.get? i = some e') :
    r.Origin (.setGeometry id g) i e' := by
  cases hs : r.drawables.get? id with
  | none =>
    unfold setGeometry at he'
    rw [hs] at he'
    exact .inl ⟨e', he', rfl⟩
  | some s =>
    obtain ⟨e, hretained, hbuffers⟩ : ∃ e, (r.retainGeometry g).2.geometries.get? i = some e ∧
        e.buffers = e'.buffers := by
      unfold setGeometry at he'
      rw [hs] at he'
      dsimp only at he'
      split at he'
      · rename_i heq
        rw [heq]
        exact ⟨e', he', rfl⟩
      · rename_i retained heq
        rw [heq]
        obtain ⟨e, he, hbuffers⟩ := keepsBuffers_update _ _ _ i e' he'
        obtain ⟨e₀, he₀, hbuffers₀⟩ := keepsBuffers_releaseGeometry retained _ i e he
        exact ⟨e₀, he₀, hbuffers₀.trans hbuffers⟩
    rcases origin_retainGeometry _ _ hretained with ⟨e₀, he₀, hbuffers₀⟩ | ⟨hid, hupload⟩
    · exact .inl ⟨e₀, he₀, hbuffers₀.trans hbuffers⟩
    · refine .inr ⟨g, hid, rfl, ?_, hbuffers ▸ hupload⟩
      rw [contains, Registry.contains, hs]
      rfl

theorem Step.origin {op : Operation} (hstep : Step r op r') {i : GeometryId} {e' : GeometryEntry}
    (he' : r'.geometries.get? i = some e') : r.Origin op i e' := by
  have hpure {answer : Outcome × Renderer δ} {outcome : Outcome} {r' : Renderer δ}
      (hanswer : answer = (outcome, r')) : r' = answer.2 :=
    (congrArg Prod.snd hanswer).symm
  have hcompiled {r r' : Renderer δ} {visits : List DrawableId} {failures : List CompileFailure}
      (hcompile : r.compileIn visits = .ok (failures, r')) : KeepsBuffers r r' :=
    .of_eq (geometries_compileIn hcompile)
  have hrendered {r r' : Renderer δ} {visits order : List DrawableId} {report : FrameReport}
      (hrender : r.renderIn visits order = .ok (report, r')) : KeepsBuffers r r' := by
    obtain ⟨failures, compiled, hcompile, rfl⟩ := renderIn_ok hrender
    exact fun i e' he' ↦ hcompiled hcompile i e' he'
  cases hstep with
  | compile hcompile => exact (hcompiled hcompile).origin he'
  | render hrender => exact (hrendered hrender).origin he'
  | perform op hperform =>
    cases op with
    | addDrawable d =>
      rw [hpure (Except.ok.inj hperform), outcomeOf_snd] at he'
      exact origin_addDrawable r d he'
    | setGeometry id g =>
      rw [hpure (Except.ok.inj hperform), outcomeOf_snd] at he'
      exact origin_setGeometry r id g he'
    | removeDrawable id =>
      rw [hpure (Except.ok.inj hperform)] at he'
      exact (keepsBuffers_removeDrawable r id).origin he'
    | setMaterial id material =>
      rw [hpure (Except.ok.inj hperform)] at he'
      exact (keepsBuffers_update r id fun d ↦ { d with material }).origin he'
    | setModes id modes =>
      rw [hpure (Except.ok.inj hperform)] at he'
      exact (keepsBuffers_update r id fun d ↦ { d with modes }).origin he'
    | setLights lights =>
      rw [hpure (Except.ok.inj hperform), outcomeOf_snd] at he'
      exact .inl ⟨e', he', rfl⟩
    | setTransform _ _ | setCamera _ | setClips _ | setEnvironment _ | setViewport _ _
    | setClearColor _ =>
      rw [hpure (Except.ok.inj hperform)] at he'
      exact .inl ⟨e', he', rfl⟩
    | compile =>
      obtain ⟨⟨failures, compiled⟩, hcompile, hanswer⟩ := exists_of_map_eq_ok hperform
      rw [hpure hanswer] at he'
      exact (hcompiled hcompile).origin he'
    | render =>
      obtain ⟨⟨report, rendered⟩, hrender, hanswer⟩ := exists_of_map_eq_ok hperform
      rw [hpure hanswer] at he'
      exact (hrendered hrender).origin he'

variable {device : δ} {config : RendererConfig} {ops : List Operation}

/-- The buffers of every geometry come from an upload in the run. -/
theorem Reached.uploadedIn (hreached : Reached device config ops r) {i : GeometryId}
    {e : GeometryEntry} (he : r.geometries.get? i = some e) :
    ∃ g, g.id = i ∧ UploadedIn device config g e.buffers ops r := by
  have hafter {ops : List Operation} {op : Operation} {r r' : Renderer δ}
      (hr : Reached device config ops r) (hstep : Step r op r')
      (hbefore : ∀ {i e}, r.geometries.get? i = some e →
        ∃ g, g.id = i ∧ UploadedIn device config g e.buffers ops r)
      {i : GeometryId} {e' : GeometryEntry} (he' : r'.geometries.get? i = some e') :
      ∃ g, g.id = i ∧ UploadedIn device config g e'.buffers (op :: ops) r' := by
    rcases hstep.origin he' with ⟨e, he, hbuffers⟩ | ⟨g, hid, huploads⟩
    · obtain ⟨g, rfl, huploaded⟩ := hbefore he
      rw [← hbuffers]
      exact ⟨g, rfl, huploaded.later hstep ⟨e', he', hbuffers.symm⟩⟩
    · exact ⟨g, hid, .now hr hstep huploads⟩
  induction hreached generalizing i e with
  | new => exact absurd he nofun
  | perform hr op hperform ih => exact hafter hr (.perform op hperform) ih he
  | compile hr hvisits hcompile ih => exact hafter hr (.compile hcompile) ih he
  | render hr hvisits horder hrender ih => exact hafter hr (.render hrender) ih he

/-- What was uploaded was handed over. -/
theorem UploadedIn.mem_handed {g : Geometry} {buffers : Option GeometryBuffers}
    (h : UploadedIn device config g buffers ops r) : g ∈ ops.flatMap Operation.handed := by
  induction h with
  | now hr hstep huploads =>
    rename_i op _ _
    rw [List.flatMap_cons]
    refine List.mem_append_left _ ?_
    cases op with
    | addDrawable d => exact List.mem_singleton.mpr huploads.1.symm
    | setGeometry id given => exact List.mem_singleton.mpr huploads.1.symm
    | _ => exact huploads.elim
  | later hr hstep hkept ih =>
    rw [List.flatMap_cons]
    exact List.mem_append_right _ ih

/-- So some device before had answered with them. -/
theorem UploadedIn.exists_upload {g : Geometry} {b : GeometryBuffers}
    (h : UploadedIn device config g (some b) ops r) :
    ∃ before after : δ, GeometryBuffers.upload before g = (.ok b, after) := by
  induction h with
  | now hr hstep huploads =>
    rename_i op before _
    cases op with
    | addDrawable d => exact ⟨_, _, Prod.ext huploads.2.2 rfl⟩
    | setGeometry id given => exact ⟨_, _, Prod.ext huploads.2.2.2 rfl⟩
    | _ => exact huploads.elim
  | later hr hstep hkept ih => exact ih

end Uploads

/-! ### Geometries of drawables -/

variable {δ : Type} {r : Renderer δ} {handed : List Geometry}

/-- The drawables have geometries that were handed over. -/
def DrawsHanded (handed : List Geometry) (r : Renderer δ) : Prop :=
  ∀ id s, r.drawables.get? id = some s → s.drawable.geometry ∈ handed

section Drawables

variable [Device δ]

theorem drawables_retainGeometry (r : Renderer δ) (g : Geometry) :
    (r.retainGeometry g).2.drawables = r.drawables := by
  unfold retainGeometry
  split
  · rfl
  · dsimp only
    split <;> rfl

theorem drawables_releaseGeometry (r : Renderer δ) (id : GeometryId) :
    (r.releaseGeometry id).drawables = r.drawables := by
  unfold releaseGeometry
  split
  · rfl
  · split <;> rfl

end Drawables

namespace DrawsHanded

theorem of_subset {handed' : List Geometry} (hr : r.DrawsHanded handed)
    (hsubset : handed ⊆ handed') : r.DrawsHanded handed' :=
  fun id s hs ↦ hsubset (hr id s hs)

/-- A change of drawables that hands over whatever geometry is new. -/
theorem of_drawables {r' : Renderer δ} (hr : r.DrawsHanded handed)
    (hdrawables : ∀ id s', r'.drawables.get? id = some s' → s'.drawable.geometry ∈ handed ∨
      ∃ s, r.drawables.get? id = some s ∧ s'.drawable.geometry = s.drawable.geometry) :
    r'.DrawsHanded handed := by
  intro id s' hs'
  rcases hdrawables id s' hs' with hgiven | ⟨s, hs, hsame⟩
  · exact hgiven
  · rw [hsame]
    exact hr id s hs

theorem modify (hr : r.DrawsHanded handed) (id : DrawableId) {f : DrawableState → DrawableState}
    (hgeometry : ∀ s, (f s).drawable.geometry ∈ handed ∨
      (f s).drawable.geometry = s.drawable.geometry) {r' : Renderer δ}
    (hdrawables : r'.drawables = r.drawables.modify id f) : r'.DrawsHanded handed := by
  refine hr.of_drawables fun id' s' hs' ↦ ?_
  rw [hdrawables, Registry.get?_modify] at hs'
  split at hs'
  · obtain ⟨s, hs, rfl⟩ := Option.map_eq_some_iff.mp hs'
    exact (hgeometry s).imp_right fun hsame ↦ ⟨s, hs, hsame⟩
  · exact .inr ⟨s', hs', rfl⟩

theorem update (hr : r.DrawsHanded handed) (id : DrawableId) {f : Drawable → Drawable}
    (hgeometry : ∀ d, (f d).geometry ∈ handed ∨ (f d).geometry = d.geometry) :
    (r.update id f).2.DrawsHanded handed := by
  unfold Renderer.update
  split
  · exact hr.modify id (f := fun s ↦ { s with drawable := f s.drawable, dirty := true })
      (fun s ↦ hgeometry s.drawable) rfl
  · exact hr

theorem markAll (hr : r.DrawsHanded handed) : r.markAll.DrawsHanded handed := by
  refine hr.of_drawables fun id s' hs' ↦ ?_
  change (r.drawables.mapValues _).get? id = some s' at hs'
  rw [Registry.get?_mapValues] at hs'
  obtain ⟨s, hs, rfl⟩ := Option.map_eq_some_iff.mp hs'
  exact .inr ⟨s, hs, rfl⟩

variable [Device δ]

theorem removeDrawable (hr : r.DrawsHanded handed) (id : DrawableId) :
    (r.removeDrawable id).2.DrawsHanded handed := by
  unfold Renderer.removeDrawable
  split
  · exact hr
  · refine hr.of_drawables fun id' s' hs' ↦ ?_
    dsimp only at hs'
    rw [drawables_releaseGeometry, Registry.get?_erase] at hs'
    split at hs'
    · cases hs'
    · exact .inr ⟨s', hs', rfl⟩

theorem addDrawable (hr : r.DrawsHanded handed) {d : Drawable} (hd : d.geometry ∈ handed) :
    (r.addDrawable d).2.DrawsHanded handed := by
  have hremoved := hr.removeDrawable d.id
  have hretain := drawables_retainGeometry (r.removeDrawable d.id).2 d.geometry
  unfold Renderer.addDrawable
  dsimp only
  split
  · rename_i hresult
    rw [hresult] at hretain
    intro id s hs
    rw [show _ = _ from hretain] at hs
    exact hremoved id s hs
  · rename_i hresult
    rw [hresult] at hretain
    intro id s hs
    dsimp only at hs
    rw [show _ = _ from hretain, Registry.get?_insert] at hs
    split at hs
    · cases hs
      exact hd
    · exact hremoved id s hs

theorem setGeometry (hr : r.DrawsHanded handed) (id : DrawableId) {g : Geometry}
    (hg : g ∈ handed) : (r.setGeometry id g).2.DrawsHanded handed := by
  have hretain := drawables_retainGeometry r g
  unfold Renderer.setGeometry
  split
  · exact hr
  · split
    · rename_i hresult
      rw [hresult] at hretain
      intro id s hs
      rw [show _ = _ from hretain] at hs
      exact hr id s hs
    · rename_i retained hresult
      rw [hresult] at hretain
      refine DrawsHanded.update (fun id s hs ↦ ?_) id fun d ↦ .inl hg
      rw [drawables_releaseGeometry, show _ = _ from hretain] at hs
      exact hr id s hs

theorem compileIn (hr : r.DrawsHanded handed) {visits : List DrawableId}
    {failures : List CompileFailure} {compiled : Renderer δ}
    (hcompile : r.compileIn visits = .ok (failures, compiled)) : compiled.DrawsHanded handed := by
  refine hr.of_drawables fun id s' hs' ↦ ?_
  obtain ⟨s, hs, hdrawable, _⟩ := drawables_compileIn hcompile hs'
  exact .inr ⟨s, hs, congrArg Drawable.geometry hdrawable⟩

theorem renderIn (hr : r.DrawsHanded handed) {visits order : List DrawableId}
    {report : FrameReport} {rendered : Renderer δ}
    (hrender : r.renderIn visits order = .ok (report, rendered)) : rendered.DrawsHanded handed := by
  obtain ⟨failures, compiled, hcompile, rfl⟩ := renderIn_ok hrender
  exact fun id s hs ↦ hr.compileIn hcompile id s hs

/-- Drawables that were in place before an operation keep their geometry or are handed one. -/
theorem perform (hr : r.DrawsHanded handed) {op : Operation} {outcome : Outcome} {r' : Renderer δ}
    (hperform : r.perform op = .ok (outcome, r')) : r'.DrawsHanded (op.handed ++ handed) := by
  have hpure {answer : Outcome × Renderer δ} (hanswer : answer = (outcome, r')) : r' = answer.2 :=
    (congrArg Prod.snd hanswer).symm
  replace hr : r.DrawsHanded (op.handed ++ handed) := hr.of_subset (List.subset_append_right _ _)
  cases op with
  | addDrawable d =>
    rw [hpure (Except.ok.inj hperform), outcomeOf_snd]
    exact hr.addDrawable List.mem_cons_self
  | removeDrawable id =>
    rw [hpure (Except.ok.inj hperform)]
    exact hr.removeDrawable id
  | setGeometry id g =>
    rw [hpure (Except.ok.inj hperform), outcomeOf_snd]
    exact hr.setGeometry id List.mem_cons_self
  | setMaterial id material =>
    rw [hpure (Except.ok.inj hperform)]
    exact hr.update id (f := fun d ↦ { d with material }) fun _ ↦ .inr rfl
  | setModes id modes =>
    rw [hpure (Except.ok.inj hperform)]
    exact hr.update id (f := fun d ↦ { d with modes }) fun _ ↦ .inr rfl
  | setTransform id transform =>
    rw [hpure (Except.ok.inj hperform)]
    exact hr.modify id (f := fun s ↦ { s with drawable := { s.drawable with transform } })
      (fun _ ↦ .inr rfl) rfl
  | setLights lights =>
    rw [hpure (Except.ok.inj hperform), outcomeOf_snd]
    exact DrawsHanded.markAll (r := { r with scene := { r.scene with lights } }) hr
  | setClips clips =>
    rw [hpure (Except.ok.inj hperform)]
    exact DrawsHanded.markAll (r := { r with scene := { r.scene with clips } }) hr
  | setEnvironment environment =>
    rw [hpure (Except.ok.inj hperform)]
    exact DrawsHanded.markAll (r := { r with scene := { r.scene with environment } }) hr
  | setCamera _ | setViewport _ _ | setClearColor _ =>
    rw [hpure (Except.ok.inj hperform)]
    exact hr
  | compile =>
    obtain ⟨⟨failures, compiled⟩, hcompile, hanswer⟩ := exists_of_map_eq_ok hperform
    rw [hpure hanswer]
    exact hr.compileIn hcompile
  | render =>
    obtain ⟨⟨report, rendered⟩, hrender, hanswer⟩ := exists_of_map_eq_ok hperform
    rw [hpure hanswer]
    exact hr.renderIn hrender

end DrawsHanded

theorem Reached.drawsHanded [Device δ] {device : δ} {config : RendererConfig}
    {ops : List Operation} (hreached : Reached device config ops r) :
    r.DrawsHanded (ops.flatMap Operation.handed) := by
  induction hreached with
  | new => exact fun _ _ hs ↦ absurd hs nofun
  | perform hr op hperform ih => exact ih.perform hperform
  | compile hr hvisits hcompile ih => exact ih.compileIn hcompile
  | render hr hvisits horder hrender ih => exact ih.renderIn hrender

/-! ### Own buffers -/

section Own

variable {δ : Type} [Device δ] {r : Renderer δ} {device : δ} {config : RendererConfig}
  {ops : List Operation}

/-- The buffers under the identity of a drawable's geometry were uploaded, in this run, from this
geometry. -/
def OwnBuffers (device : δ) (config : RendererConfig) (ops : List Operation) (r : Renderer δ) :
    Prop :=
  ∀ id s b, r.drawables.get? id = some s → r.buffers? s.drawable.geometry.id = some b →
    UploadedIn device config s.drawable.geometry (some b) ops r

/-- Where equal identities of geometries mean equal geometries, drawables have their own buffers. -/
theorem Reached.ownBuffers (hreached : Reached device config ops r)
    (hgeometries : ∀ g ∈ ops.flatMap Operation.handed, ∀ g' ∈ ops.flatMap Operation.handed,
      g.id = g'.id → g = g') : r.OwnBuffers device config ops := by
  intro id s b hs hb
  obtain ⟨e, he, hbuffers⟩ := Option.bind_eq_some_iff.mp hb
  obtain ⟨g, hid, huploaded⟩ := hreached.uploadedIn he
  rw [hbuffers, hgeometries g huploaded.mem_handed _ (hreached.drawsHanded id s hs) hid]
    at huploaded
  exact huploaded

/-- So they have where one geometry was handed over all the time. -/
theorem Reached.ownBuffers_of_replicate (hreached : Reached device config ops r) {n : Nat}
    {g : Geometry} (hhanded : ops.flatMap Operation.handed = List.replicate n g) :
    r.OwnBuffers device config ops := by
  refine hreached.ownBuffers fun g₁ hg₁ g₂ hg₂ _ ↦ ?_
  rw [hhanded] at hg₁ hg₂
  exact (List.eq_of_mem_replicate hg₁).trans (List.eq_of_mem_replicate hg₂).symm

theorem OwnBuffers.compileIn (hown : r.OwnBuffers device config ops) {visits : List DrawableId}
    {failures : List CompileFailure} {compiled : Renderer δ}
    (hcompile : r.compileIn visits = .ok (failures, compiled)) :
    compiled.OwnBuffers device config (.compile :: ops) := by
  intro id s b hs hb
  obtain ⟨t, ht, hdrawable, _⟩ := drawables_compileIn hcompile hs
  obtain ⟨e, he, hbuffers⟩ := Option.bind_eq_some_iff.mp hb
  rw [buffers?, geometries_compileIn hcompile, hdrawable] at hb
  rw [hdrawable] at he ⊢
  exact (hown id t b ht hb).later (.compile hcompile) ⟨e, he, hbuffers⟩

end Own

end Renderer

end SceneRenderer
