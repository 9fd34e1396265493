import SceneRenderer.Proofs.Gl.Histories
import SceneRenderer.Proofs.Gl.Programs

/-!
Uploads of uniforms. A location of the device is a program and a place in the list of what was found
in it, and the context has names and locations of its own; both come from the requests that were
served, one by one.

`Tracks` says that the lists of the backend tell what its history does. `Tracks.serve` is the step
lemma, `Served.tracks` the run lemma; the main statement is `Served.upload_reaches`.
-/

set_option autoImplicit false
set_option relaxedAutoImplicit false

namespace SceneRenderer.Gl.Backend

open Shader

variable {history : History} {b b' : Backend} {request : Request} {id : ProgramId}
  {native : UInt32} {name : String} {location : Int32} {l : UniformLocation}

/-! ### Lists and histories -/

/-- The lists of a backend tell what its history does. No location was returned for a number that
was not given away yet, and any that was is the place of its name in the list of its program. -/
structure Tracks (history : History) (b : Backend) : Prop where
  within : b.programs.Within (·.raw) b.lastId
  native : ∀ id, (b.programs.get? id).map (·.name) = native? id history
  current : b.current = current? history
  answered : ∀ {id native name location}, location? id native name history = some location →
    ∃ l, Returned history id name l
  places : ∀ {id p}, b.programs.get? id = some p → Places p.locations id p.name history
  returned : ∀ {id name l}, Returned history id name l → l.program = id ∧
    id.raw.toNat ≤ b.lastId.toNat ∧ ∀ {p}, b.programs.get? id = some p →
      ∃ location, p.locations[l.slot.toNat]? = some (name, location)

theorem tracks_new (context : Context) : Tracks [] (.new context) where
  within := Registry.within_empty
  native _ := rfl
  current := rfl
  answered h := absurd h nofun
  places h := absurd h nofun
  returned h := absurd h.choose_spec.1 List.not_mem_nil

namespace Tracks

variable (ht : Tracks history b)

include ht

theorem numbered (hsome : location? id native name history = some location) :
    id.raw.toNat ≤ b.lastId.toNat :=
  let ⟨_, hreturned⟩ := ht.answered hsome
  (ht.returned hreturned).2.1

/-- A request that asks for no uniform adds programs in which nothing was found yet, at most. -/
theorem of_unasked (hne : ∀ id name, request ≠ .uniformLocation id name)
    (hwithin : b'.programs.Within (·.raw) b'.lastId) (hlast : b.lastId.toNat ≤ b'.lastId.toNat)
    (hprograms : ∀ {id p}, b'.programs.get? id = some p →
      b.programs.get? id = some p ∨ b.lastId.toNat < id.raw.toNat ∧ p.locations = [])
    (hnative : ∀ id, (b'.programs.get? id).map (·.name) = native? id ((b, request) :: history))
    (hcurrent : b'.current = current? ((b, request) :: history)) :
    Tracks ((b, request) :: history) b' where
  within := hwithin
  native := hnative
  current := hcurrent
  answered h := (ht.answered (location?_cons_of_ne hne ▸ h)).imp fun _ h ↦ h.cons _
  places {id p} hp := by
    rcases hprograms hp with hbefore | ⟨hnew, hnone⟩
    · obtain ⟨hnodup, hmem⟩ := ht.places hbefore
      exact ⟨hnodup, hmem.trans (by rw [location?_cons_of_ne hne])⟩
    · rw [hnone]
      refine ⟨List.nodup_nil, ⟨nofun, fun h ↦ ?_⟩⟩
      exact absurd (ht.numbered (location?_cons_of_ne hne ▸ h)) (Nat.not_le.mpr hnew)
  returned {id name l} h := by
    obtain ⟨hid, hle, hplace⟩ := ht.returned (h.of_cons_of_ne hne)
    refine ⟨hid, hle.trans hlast, fun hp ↦ ?_⟩
    rcases hprograms hp with hbefore | ⟨hnew, _⟩
    · exact hplace hbefore
    · exact absurd hle (Nat.not_le.mpr hnew)

theorem of_spares (hne : ∀ id name, request ≠ .uniformLocation id name) (hspares : Spares b b')
    (hnative : ∀ id, native? id ((b, request) :: history) = native? id history)
    (hcurrent : current? ((b, request) :: history) = current? history) :
    Tracks ((b, request) :: history) b' := by
  obtain ⟨hprograms, hsame, hlast⟩ := hspares
  refine ht.of_unasked hne ?_ hlast (fun hp ↦ .inl (hprograms ▸ hp)) (fun id ↦ ?_) ?_
  · rw [hprograms]
    exact ht.within.mono hlast
  · rw [hprograms, ht.native, hnative]
  · rw [hsame, ht.current, hcurrent]

/-- A program is created under a number of which nothing is known. -/
theorem createProgram (vertex fragment : String) (attributes : List (String × UInt32)) :
    Tracks ((b, .createProgram vertex fragment attributes) :: history)
      (b.createProgram vertex fragment attributes).2 := by
  have hstep (id : ProgramId) :
      native? id ((b, .createProgram vertex fragment attributes) :: history) =
        if (b.createProgram vertex fragment attributes).1 = .ok id then
          (buildProgram b.context vertex fragment attributes).1.toOption
        else native? id history := rfl
  rcases b.createProgram_cases vertex fragment attributes with
    ⟨e, context, fault, heq⟩ | ⟨hnext, name, context, hbuild, heq⟩
  · rw [heq] at hstep ⊢
    exact ht.of_spares nofun ⟨rfl, rfl, Nat.le_refl _⟩
      (fun id ↦ (hstep id).trans (if_neg nofun)) rfl
  · rw [heq] at hstep ⊢
    have hlast := lt_next hnext
    refine ht.of_unasked nofun ((ht.within.mono hlast.le).insert le_rfl _) hlast.le
      (fun {id p} hp ↦ ?_) (fun id ↦ ?_) ht.current
    · dsimp only at hp
      rw [Registry.get?_insert] at hp
      split at hp
      · rename_i hid
        obtain rfl := Option.some_inj.mp hp
        exact .inr ⟨hid ▸ hlast, rfl⟩
      · exact .inl hp
    · rw [hstep, hbuild]
      dsimp only
      rw [Registry.get?_insert]
      by_cases hid : id = ⟨b.lastId + 1⟩
      · rw [if_pos hid, hid, if_pos rfl]
        rfl
      · rw [if_neg hid, if_neg fun h ↦ hid (Except.ok.inj h).symm, ht.native]

/-- A deleted program takes its locations along. -/
theorem deleteProgram (id : ProgramId) :
    Tracks ((b, .submit (.deleteProgram id)) :: history) (b.submit (.deleteProgram id)) := by
  have herased (other : ProgramId) : (b.submit (.deleteProgram id)).programs.get? other =
      if other = id then none else b.programs.get? other := Registry.get?_erase b.programs id other
  refine ht.of_unasked Request.submit_ne (ht.within.erase id) (Nat.le_refl _)
    (fun {other p} hp ↦ ?_) (fun other ↦ ?_) ?_
  · rw [herased] at hp
    split at hp
    · cases hp
    · exact .inl hp
  · show _ = if other = id then none else native? other history
    rw [herased, ← ht.native]
    split <;> rfl
  · show (if b.current = some id then none else b.current) =
      if current? history = some id then none else current? history
    rw [ht.current]

theorem useProgram (id : ProgramId) :
    Tracks ((b, .submit (.useProgram id)) :: history) (b.submit (.useProgram id)) := by
  have hcurrent : current? ((b, .submit (.useProgram id)) :: history) =
      if (native? id history).isSome then some id else current? history := rfl
  rw [← ht.native, ← ht.current, Option.isSome_map] at hcurrent
  rcases hp : b.programs.get? id with _ | p
  · have hsame : b.submit (.useProgram id) = b := by rw [Backend.submit, hp]
    rw [hp] at hcurrent
    rw [hsame]
    exact ht.of_unasked Request.submit_ne ht.within (Nat.le_refl _) .inl ht.native hcurrent.symm
  · have hused : b.submit (.useProgram id) =
        { b.logAll [.useProgram p.name] with current := some id } := by rw [Backend.submit, hp]
    rw [hp] at hcurrent
    rw [hused]
    exact ht.of_unasked Request.submit_ne ht.within (Nat.le_refl _) .inl ht.native hcurrent.symm

theorem submit (command : Command) :
    Tracks ((b, .submit command) :: history) (b.submit command) := by
  by_cases hdelete : ∃ id, command = .deleteProgram id
  · obtain ⟨id, rfl⟩ := hdelete
    exact ht.deleteProgram id
  by_cases huse : ∃ id, command = .useProgram id
  · obtain ⟨id, rfl⟩ := huse
    exact ht.useProgram id
  have hnot : ∀ id, command ≠ .deleteProgram id := fun id heq ↦ hdelete ⟨id, heq⟩
  obtain ⟨hlast, hprograms⟩ := b.programs_submit command
  refine ht.of_spares Request.submit_ne
    ⟨hprograms hnot, b.current_submit_eq ?_ hnot, hlast ▸ Nat.le_refl _⟩ (fun id ↦ ?_) ?_
  all_goals cases command
  all_goals first
    | rfl
    | exact absurd ⟨_, rfl⟩ hdelete
    | exact absurd ⟨_, rfl⟩ huse

theorem destroy : Tracks ((b, .destroy) :: history) b.destroy :=
  ht.of_unasked nofun Registry.within_empty (Nat.le_refl _) (fun h ↦ absurd h nofun)
    (fun _ ↦ rfl) rfl

/-- A live program has an answer for each name for which the context has a location. -/
theorem exists_answer (hnative : native? id history = some native)
    (hlocation : (b.context.getUniformLocation native name).1 = some location) :
    ∃ l, (b.uniformLocation id name).1 = some l := by
  rw [← ht.native] at hnative
  obtain ⟨p, hp, rfl⟩ := Option.map_eq_some_iff.mp hnative
  simp only [Backend.uniformLocation, hp]
  split
  · exact ⟨_, rfl⟩
  · split <;> rename_i hasked <;> rw [hasked] at hlocation
    · cases hlocation
    · exact ⟨_, rfl⟩

/-- A request for a uniform adds to the lists of the programs, at most, and its answer is a place of
the name that was asked for. -/
theorem of_asked (hwithin : b'.programs.Within (·.raw) b'.lastId)
    (hlast : b.lastId.toNat ≤ b'.lastId.toNat) (hcurrent : b'.current = b.current)
    (hnative : ∀ other, (b'.programs.get? other).map (·.name) =
      (b.programs.get? other).map (·.name))
    (hgrown : ∀ {other q}, b'.programs.get? other = some q →
      ∃ p, b.programs.get? other = some p ∧ p.locations <+: q.locations)
    (hplaces : ∀ {other q}, b'.programs.get? other = some q →
      Places q.locations other q.name ((b, .uniformLocation id name) :: history))
    (hplace : ∀ {l}, (b.uniformLocation id name).1 = some l → l.program = id ∧
      id.raw.toNat ≤ b'.lastId.toNat ∧ ∀ {q}, b'.programs.get? id = some q →
        ∃ location, q.locations[l.slot.toNat]? = some (name, location)) :
    Tracks ((b, .uniformLocation id name) :: history) b' where
  within := hwithin
  native other := (hnative other).trans (ht.native other)
  current := hcurrent.trans ht.current
  answered h := by
    rcases Option.or_eq_some_iff.mp h with hbefore | ⟨_, hnow⟩
    · exact (ht.answered hbefore).imp fun _ h ↦ h.cons _
    · split at hnow
      · rename_i hsame
        obtain ⟨rfl, rfl, hnative⟩ := hsame
        exact (ht.exists_answer hnative hnow).imp fun l hl ↦ ⟨b, List.mem_cons_self, hl⟩
      · cases hnow
  places := hplaces
  returned {other asked l} h := by
    obtain ⟨before, hmem, hanswer⟩ := h
    rcases List.mem_cons.mp hmem with heq | hmem
    · cases heq
      exact hplace hanswer
    · obtain ⟨hid, hle, hslot⟩ := ht.returned ⟨before, hmem, hanswer⟩
      refine ⟨hid, hle.trans hlast, fun {q} hq ↦ ?_⟩
      obtain ⟨p, hp, more, hmore⟩ := hgrown hq
      obtain ⟨location, hlocation⟩ := hslot hp
      refine ⟨location, ?_⟩
      rw [← hmore, List.getElem?_append_left (List.getElem?_eq_some_iff.mp hlocation).1, hlocation]

/-- The answer is a place that is there already, if there is one. -/
theorem of_unlocated (hspares : Spares b b')
    (hknown : ∀ native, native? id history = some native →
      (location? id native name history).isSome ∨
        (b.context.getUniformLocation native name).1 = none)
    (hplace : ∀ {l}, (b.uniformLocation id name).1 = some l → l.program = id ∧
      ∃ p location, b.programs.get? id = some p ∧
        p.locations[l.slot.toNat]? = some (name, location)) :
    Tracks ((b, .uniformLocation id name) :: history) b' := by
  have hsame (other : ProgramId) (native : UInt32) (asked : String) :
      location? other native asked ((b, .uniformLocation id name) :: history) =
        location? other native asked history := by
    show (location? _ _ _ history).or (if id = other ∧ name = asked ∧ _ then _ else _) = _
    split
    · rename_i h
      obtain ⟨rfl, rfl, hnative⟩ := h
      rcases hknown native hnative with hsome | hnone
      · exact Option.or_of_isSome hsome
      · rw [hnone, Option.or_none]
    · exact Option.or_none
  obtain ⟨hprograms, hcurrent, hlast⟩ := hspares
  refine ht.of_asked (hprograms ▸ ht.within.mono hlast) hlast hcurrent (fun _ ↦ by rw [hprograms])
    (fun {other q} hq ↦ ⟨q, hprograms ▸ hq, List.prefix_refl _⟩) (fun {other q} hq ↦ ?_)
    fun {l} hl ↦ ?_
  · obtain ⟨hnodup, hmem⟩ := ht.places (hprograms ▸ hq)
    exact ⟨hnodup, hmem.trans (by rw [hsame])⟩
  · obtain ⟨hid, p, location, hp, hslot⟩ := hplace hl
    refine ⟨hid, (ht.within _ (Registry.mem_keys_of_get? hp)).trans hlast, fun {q} hq ↦ ?_⟩
    rw [hprograms, hp] at hq
    exact ⟨location, Option.some_inj.mp hq ▸ hslot⟩

/-- A uniform that is found in its program takes the next place there. -/
theorem locate {p : NativeProgram} {context : Context} (hp : b.programs.get? id = some p)
    (hmissing : p.locations.findIdx? (·.1 == name) = none)
    (hlocation : (b.context.getUniformLocation p.name name).1 = some location)
    (hanswer : (b.uniformLocation id name).1 = some ⟨id, UInt32.ofNat p.locations.length⟩)
    (huniforms : LocatesUniforms ((b, .uniformLocation id name) :: history)) :
    Tracks ((b, .uniformLocation id name) :: history) { b with
      context
      programs := b.programs.insert id
        { p with locations := p.locations ++ [(name, location)] } } := by
  have hnative : native? id history = some p.name := by rw [← ht.native, hp, Option.map_some]
  have hplaces := (ht.places hp).append hnative hmissing hlocation
  -- the list with the new place is not too long for 32 bits, so the number is the position
  have hslot : (UInt32.ofNat p.locations.length).toNat = p.locations.length := by
    refine UInt32.toNat_ofNat_of_lt' (Nat.lt_of_succ_le ?_)
    have hle := hplaces.length_le huniforms
    rwa [List.length_append] at hle
  have hkept := ht.within id (Registry.mem_keys_of_get? hp)
  have hprograms (other : ProgramId) := Registry.get?_insert b.programs id other
    { p with locations := p.locations ++ [(name, location)] }
  refine ht.of_asked (ht.within.insert hkept _) (Nat.le_refl _) rfl (fun other ↦ ?_)
    (fun {other q} hq ↦ ?_) (fun {other q} hq ↦ ?_) fun {l} hl ↦ ?_
  · rw [hprograms]
    split
    · rename_i hother
      rw [hother, hp]
      rfl
    · rfl
  · rw [hprograms] at hq
    split at hq
    · rename_i hother
      obtain rfl := Option.some_inj.mp hq
      exact ⟨p, hother ▸ hp, List.prefix_append _ _⟩
    · exact ⟨q, hq, List.prefix_refl _⟩
  · rw [hprograms] at hq
    split at hq
    · rename_i hother
      subst hother
      obtain rfl := Option.some_inj.mp hq
      exact hplaces
    · rename_i hother
      obtain ⟨hnodup, hmem⟩ := ht.places hq
      refine ⟨hnodup, hmem.trans ?_⟩
      show _ ↔ (location? _ _ _ history).or (if id = other ∧ _ ∧ _ then _ else none) = _
      rw [if_neg fun h ↦ hother h.1.symm, Option.or_none]
  · obtain rfl := Option.some_inj.mp (hanswer.symm.trans hl)
    refine ⟨rfl, hkept, fun {q} hq ↦ ⟨location, ?_⟩⟩
    rw [hprograms, if_pos rfl] at hq
    obtain rfl := Option.some_inj.mp hq
    dsimp only
    rw [hslot, List.getElem?_concat_length]

/-- A place that is known is not asked for again; any other is what the context says. -/
theorem uniformLocation (huniforms : LocatesUniforms ((b, .uniformLocation id name) :: history)) :
    Tracks ((b, .uniformLocation id name) :: history) (b.uniformLocation id name).2 := by
  rcases hp : b.programs.get? id with _ | p
  · have hanswer : b.uniformLocation id name = (none, b) := by rw [Backend.uniformLocation, hp]
    have hnone : native? id history = none := by rw [← ht.native, hp, Option.map_none]
    rw [hanswer]
    refine ht.of_unlocated ⟨rfl, rfl, Nat.le_refl _⟩ (fun native h ↦ ?_) fun h ↦ ?_
    · rw [hnone] at h
      cases h
    · rw [hanswer] at h
      cases h
  have hnative : native? id history = some p.name := by rw [← ht.native, hp, Option.map_some]
  have hplaces := ht.places hp
  rcases hslot : p.locations.findIdx? (·.1 == name) with _ | slot
  · rcases hasked : b.context.getUniformLocation p.name name with ⟨_ | location, context⟩
    · have hanswer : b.uniformLocation id name = (none, { b with context }) := by
        simp only [Backend.uniformLocation, hp, hslot, hasked]
      rw [hanswer]
      refine ht.of_unlocated (spares_context b context) (fun native h ↦ ?_) fun h ↦ ?_
      · obtain rfl := Option.some_inj.mp (hnative.symm.trans h)
        exact .inr (congrArg Prod.fst hasked)
      · rw [hanswer] at h
        cases h
    · have hanswer : b.uniformLocation id name = (some ⟨id, UInt32.ofNat p.locations.length⟩,
          { b with
            context
            programs := b.programs.insert id
              { p with locations := p.locations ++ [(name, location)] } }) := by
        simp only [Backend.uniformLocation, hp, hslot, hasked]
      rw [hanswer]
      exact ht.locate hp hslot (congrArg Prod.fst hasked) (congrArg Prod.fst hanswer) huniforms
  · have hanswer : b.uniformLocation id name = (some ⟨id, UInt32.ofNat slot⟩, b) := by
      simp only [Backend.uniformLocation, hp, hslot]
    obtain ⟨hlt, location, hplace⟩ := getElem?_of_findIdx? hslot
    rw [hanswer]
    refine ht.of_unlocated ⟨rfl, rfl, Nat.le_refl _⟩ (fun native h ↦ ?_) fun h ↦ ?_
    · obtain rfl := Option.some_inj.mp (hnative.symm.trans h)
      rw [hplaces.mem_iff.mp (List.mem_of_getElem? hplace)]
      exact .inl rfl
    · rw [hanswer] at h
      obtain rfl := Option.some_inj.mp h
      refine ⟨rfl, p, location, hp, ?_⟩
      rwa [UInt32.toNat_ofNat_of_lt'
        (Nat.lt_of_lt_of_le hlt (hplaces.length_le huniforms.of_cons))]

/-- A request is told by the history as the backend serves it. -/
theorem serve (request : Request) (huniforms : LocatesUniforms ((b, request) :: history)) :
    Tracks ((b, request) :: history) (b.serve request) := by
  cases request with
  | createProgram vertex fragment attributes => exact ht.createProgram vertex fragment attributes
  | uniformLocation id name => exact ht.uniformLocation huniforms
  | attributeLocation id name =>
    exact ht.of_spares nofun (b.spares_attributeLocation id name) (fun _ ↦ rfl) rfl
  | createBuffer target data =>
    exact ht.of_spares nofun (b.spares_createBuffer target data) (fun _ ↦ rfl) rfl
  | createTexture width height pixels =>
    exact ht.of_spares nofun (b.spares_createTexture width height pixels) (fun _ ↦ rfl) rfl
  | createRenderTarget width height color =>
    exact ht.of_spares nofun (b.spares_createRenderTarget width height color) (fun _ ↦ rfl) rfl
  | submit command => exact ht.submit command
  | destroy => exact ht.destroy

end Tracks

theorem Served.tracks (hserved : Served history b) (huniforms : LocatesUniforms history) :
    Tracks history b := by
  induction hserved with
  | new _ => exact tracks_new _
  | adjust _ _ ih =>
    obtain ⟨hwithin, hnative, hcurrent, hanswered, hplaces, hreturned⟩ := ih huniforms
    exact ⟨hwithin, hnative, hcurrent, hanswered, hplaces, hreturned⟩
  | serve _ _ request ih => exact (ih huniforms.of_cons).serve request huniforms

/-! ### Uploads and questions -/

/-- The call hands a value over to a location: a whole number for a flag or a texture unit, and the
components of anything else, those of a matrix column after column. -/
def Hands (call : Call) (location : Int32) : UniformValue → Prop
  | .bool flag => call = .uniformInt location (if flag then 1 else 0)
  | .float x => call = .uniformFloats location [x]
  | .vec2 v => call = .uniformFloats location [v.x, v.y]
  | .vec3 v => call = .uniformFloats location [v.x, v.y, v.z]
  | .vec4 v => call = .uniformFloats location [v.x, v.y, v.z, v.w]
  | .mat3 m => call = .uniformMatrix location 3
      [m.x.x, m.x.y, m.x.z, m.y.x, m.y.y, m.y.z, m.z.x, m.z.y, m.z.z]
  | .mat4 m => call = .uniformMatrix location 4
      [m.x.x, m.x.y, m.x.z, m.x.w, m.y.x, m.y.y, m.y.z, m.y.w,
        m.z.x, m.z.y, m.z.z, m.z.w, m.w.x, m.w.y, m.w.z, m.w.w]
  | .sampler unit => call = .uniformInt location unit.toInt32

theorem hands_uniformCall (location : Int32) (value : UniformValue) :
    Hands (uniformCall location value) location value := by
  cases value <;> rfl

/-- Nothing reaches the context for a program that is gone, or while another one is current. -/
theorem context_setUniform (h : b.programs.get? l.program = none ∨ b.current ≠ some l.program)
    (value : UniformValue) : (b.setUniform l value).context = b.context := by
  unfold setUniform
  split
  · rename_i hcurrent
    rw [h.resolve_right fun hne ↦ hne hcurrent]
    rfl
  · rfl

theorem reversed_getUniformLocation (c : Context) (native : UInt32) (name : String) :
    (c.getUniformLocation native name).2.reversed =
      .getUniformLocation native name :: c.reversed := by
  unfold Context.getUniformLocation
  dsimp only
  split <;> rfl

/-- Where every name stands once, the place of a name is the only one at which it stands. -/
theorem findIdx?_of_nodup {locations : List (String × Int32)}
    (hnodup : (locations.map (·.1)).Nodup) {slot : Nat}
    (hslot : locations[slot]? = some (name, location)) :
    locations.findIdx? (·.1 == name) = some slot := by
  rcases hfind : locations.findIdx? (·.1 == name) with _ | first
  · simpa using List.findIdx?_eq_none_iff.mp hfind _ (List.mem_of_getElem? hslot)
  · obtain ⟨hlt, _, hplace⟩ := getElem?_of_findIdx? hfind
    have hsame : (locations.map (·.1))[first]? = (locations.map (·.1))[slot]? := by
      rw [List.getElem?_map, List.getElem?_map, hplace, hslot]
      rfl
    rw [hfind, (List.getElem?_inj (by rwa [List.length_map]) hnodup).mp hsame]

namespace Tracks

variable (ht : Tracks history b)

include ht

/-- A location that was returned for a live program is known by its name. -/
theorem known (hreturned : Returned history id name l) {p : NativeProgram}
    (hp : b.programs.get? id = some p) :
    ∃ location, location? id p.name name history = some location ∧
      p.locations[l.slot.toNat]? = some (name, location) ∧
      b.uniformLocation id name = (some l, b) := by
  obtain ⟨rfl, _, hplace⟩ := ht.returned hreturned
  obtain ⟨location, hslot⟩ := hplace hp
  have hplaces := ht.places hp
  refine ⟨location, hplaces.mem_iff.mp (List.mem_of_getElem? hslot), hslot, ?_⟩
  simp only [Backend.uniformLocation, hp, findIdx?_of_nodup hplaces.nodup hslot,
    UInt32.ofNat_toNat]

/-- A name for which no location was returned is asked for. -/
theorem unknown (hnew : ∀ l, ¬ Returned history id name l) {p : NativeProgram}
    (hp : b.programs.get? id = some p) :
    (b.uniformLocation id name).1.isSome = (b.context.getUniformLocation p.name name).1.isSome ∧
      (b.uniformLocation id name).2.context = (b.context.getUniformLocation p.name name).2 := by
  have hmissing : p.locations.findIdx? (·.1 == name) = none := by
    refine Option.eq_none_iff_forall_ne_some.mpr fun slot hslot ↦ ?_
    obtain ⟨_, location, hplace⟩ := getElem?_of_findIdx? hslot
    obtain ⟨l, hl⟩ := ht.answered ((ht.places hp).mem_iff.mp (List.mem_of_getElem? hplace))
    exact hnew l hl
  simp only [Backend.uniformLocation, hp, hmissing]
  rcases b.context.getUniformLocation p.name name with ⟨_ | location, context⟩ <;> exact ⟨rfl, rfl⟩

end Tracks

/-- Whatever was asked of a backend, and whatever its context refused: a value for a location that
was returned for a name goes out as one call, to the location that the context gave for the name in
the native program, if the program is still there and current, and in no call otherwise. As long as
the program is there, asking for the name again returns the same location without a call, and asking
for a name that has no location yet is one question to the context. -/
theorem Served.upload_reaches (hserved : Served history b) (huniforms : LocatesUniforms history)
    (id : ProgramId) (name : String) :
    (∀ l, Returned history id name l → ∀ value,
      (∀ native, native? id history = some native → current? history = some id →
        ∃ location call, location? id native name history = some location ∧
          Hands call location value ∧
          (b.submit (.setUniform l value)).context = b.context.log call) ∧
      (native? id history = none ∨ current? history ≠ some id →
        (b.submit (.setUniform l value)).context = b.context)) ∧
    ∀ native, native? id history = some native →
      (∀ l, Returned history id name l → b.uniformLocation id name = (some l, b)) ∧
      ((∀ l, ¬ Returned history id name l) →
        (b.uniformLocation id name).1.isSome =
            (b.context.getUniformLocation native name).1.isSome ∧
          (b.uniformLocation id name).2.context.reversed =
            .getUniformLocation native name :: b.context.reversed) := by
  have ht := hserved.tracks huniforms
  have hkept {native : UInt32} (hnative : native? id history = some native) :
      ∃ p, b.programs.get? id = some p ∧ p.name = native := by
    rw [← ht.native] at hnative
    exact Option.map_eq_some_iff.mp hnative
  refine ⟨fun l hreturned value ↦ ⟨fun native hnative hcurrent ↦ ?_, fun h ↦ ?_⟩,
    fun native hnative ↦ ⟨fun l hreturned ↦ ?_, fun hnew ↦ ?_⟩⟩
  · obtain ⟨p, hp, rfl⟩ := hkept hnative
    obtain ⟨location, hlocation, hslot, _⟩ := ht.known hreturned hp
    refine ⟨location, uniformCall location value, hlocation, hands_uniformCall location value, ?_⟩
    have hid := (ht.returned hreturned).1
    show (b.setUniform l value).context = _
    rw [setUniform, hid, if_pos (ht.current.trans hcurrent), hp, Option.bind_some, hslot]
    rfl
  · rw [← (ht.returned hreturned).1, ← ht.native, Option.map_eq_none_iff, ← ht.current] at h
    exact context_setUniform h value
  · obtain ⟨p, hp, rfl⟩ := hkept hnative
    exact (ht.known hreturned hp).choose_spec.2.2
  · obtain ⟨p, hp, rfl⟩ := hkept hnative
    obtain ⟨hsome, hcontext⟩ := ht.unknown hnew hp
    exact ⟨hsome, by rw [hcontext, reversed_getUniformLocation]⟩

/-- Two programs, of which the second is current. A uniform was found in the first, and then the
same one and another in the second; the first program is gone. -/
def sharedNames : History × Backend :=
  [.createProgram "" "" [], .createProgram "" "" [], .uniformLocation ⟨1⟩ "tint",
    .uniformLocation ⟨2⟩ "glow", .uniformLocation ⟨2⟩ "tint", .submit (.useProgram ⟨2⟩),
    .submit (.deleteProgram ⟨1⟩)].foldl History.next ([], .new (.new 16 (640, 480)))

theorem served_sharedNames : Served sharedNames.1 sharedNames.2 := by
  unfold sharedNames
  simp only [List.foldl_cons, List.foldl_nil]
  iterate 7 refine Served.next ?_ (by decide +kernel) _
  exact .new rfl

theorem upload_reaches_sharedNames :
    Served sharedNames.1 sharedNames.2 ∧ LocatesUniforms sharedNames.1 ∧
      Returned sharedNames.1 ⟨2⟩ "tint" ⟨⟨2⟩, 1⟩ ∧ Returned sharedNames.1 ⟨1⟩ "tint" ⟨⟨1⟩, 0⟩ ∧
      (∀ value, ∃ call, Hands call 0 value ∧
        (sharedNames.2.submit (.setUniform ⟨⟨2⟩, 1⟩ value)).context =
          sharedNames.2.context.log call) ∧
      (∀ value, (sharedNames.2.submit (.setUniform ⟨⟨1⟩, 0⟩ value)).context =
        sharedNames.2.context) ∧
      sharedNames.2.uniformLocation ⟨2⟩ "tint" = (some ⟨⟨2⟩, 1⟩, sharedNames.2) := by
  have huniforms : LocatesUniforms sharedNames.1 :=
    .of_found (by decide +kernel) (by decide +kernel)
  have hsecond : Returned sharedNames.1 ⟨2⟩ "tint" ⟨⟨2⟩, 1⟩ :=
    ⟨_, List.mem_of_getElem? (i := 2) rfl, by decide +kernel⟩
  have hfirst : Returned sharedNames.1 ⟨1⟩ "tint" ⟨⟨1⟩, 0⟩ :=
    ⟨_, List.mem_of_getElem? (i := 4) rfl, by decide +kernel⟩
  have hnative : native? ⟨2⟩ sharedNames.1 = some 6 := by decide +kernel
  have hlocation : location? ⟨2⟩ 6 "tint" sharedNames.1 = some 0 := by decide +kernel
  have hreaches := served_sharedNames.upload_reaches huniforms
  refine ⟨served_sharedNames, huniforms, hsecond, hfirst, fun value ↦ ?_, fun value ↦ ?_, ?_⟩
  · obtain ⟨location, call, hfound, hcall⟩ :=
      ((hreaches ⟨2⟩ "tint").1 _ hsecond value).1 6 hnative (by decide +kernel)
    obtain rfl := Option.some_inj.mp (hlocation.symm.trans hfound)
    exact ⟨call, hcall⟩
  · exact ((hreaches ⟨1⟩ "tint").1 _ hfirst value).2 (.inl (by decide +kernel))
  · exact ((hreaches ⟨2⟩ "tint").2 6 hnative).1 _ hsecond

end SceneRenderer.Gl.Backend
