import SceneRenderer.Gl.Backend
import SceneRenderer.Proofs.Device.NumberedPrograms
import SceneRenderer.Proofs.Device.UniformNames

/-!
The programs of a backend. The one that was made current stays bound until another one is made
current or until it is deleted, and the places that were found in a program stay where they are
(`Backend.bindsPrograms`).

So an upload to the bound program, at a place that was found in it, reaches the context
(`Backend.submit_setUniform`); the backend drops any other one. Such a place belongs to one uniform
as long as the program has no more of them than 32 bits tell apart (`Backend.namesUniforms`).
-/

set_option autoImplicit false
set_option relaxedAutoImplicit false

namespace SceneRenderer.Gl.Backend

open Shader

/-- The backend keeps a program that has a property. -/
def Keeps (b : Backend) (id : ProgramId) (p : NativeProgram → Prop) : Prop :=
  b.programs.Keeps b.lastId id p

variable {b : Backend} {id : ProgramId} {p : NativeProgram → Prop}

/-- Either the next number is given away, or there is none. -/
theorem identify_cases {ε α : Type} (b : Backend) (identity : UInt32 → α) (refusal : String → ε)
    (keep : Backend → α → Backend) :
    (b.lastId + 1).toNat = b.lastId.toNat + 1 ∧ b.identify identity refusal keep =
        (.ok (identity (b.lastId + 1)),
          keep { b with lastId := b.lastId + 1 } (identity (b.lastId + 1))) ∨
      b.identify identity refusal keep =
        (.error (refusal Fault.addOverflow.message), b.noteFault .addOverflow) := by
  unfold identify
  by_cases hleft : b.lastId.toNat + (1 : UInt32).toNat < UInt32.size
  · rw [checkedAdd_of_lt hleft, UInt32.toNat_add]
    exact .inl ⟨Nat.mod_eq_of_lt hleft, rfl⟩
  · rw [checkedAdd_of_le (Nat.not_lt.mp hleft)]
    exact .inr rfl

/-- Either no program is made, and those that are there stay as they are, or a new one is kept under
the next number. -/
theorem createProgram_cases (b : Backend) (vertex fragment : String)
    (attributes : List (String × UInt32)) :
    (∃ e context fault, b.createProgram vertex fragment attributes =
      (.error e, { b with context, fault })) ∨
    (b.lastId + 1).toNat = b.lastId.toNat + 1 ∧ ∃ name context,
      buildProgram b.context vertex fragment attributes = (.ok name, context) ∧
      b.createProgram vertex fragment attributes = (.ok ⟨b.lastId + 1⟩,
        { b with
          context, lastId := b.lastId + 1
          programs := b.programs.insert ⟨b.lastId + 1⟩ ⟨name, []⟩ }) := by
  unfold createProgram
  rcases hbuild : buildProgram b.context vertex fragment attributes with ⟨e | name, context⟩
  · exact .inl ⟨e, context, b.fault, rfl⟩
  · rcases identify_cases { b with context } ProgramId.mk ProgramError.device
      (fun b id ↦ { b with programs := b.programs.insert id ⟨name, []⟩ }) with ⟨hnext, heq⟩ | heq
    · exact .inr ⟨hnext, name, context, rfl, heq⟩
    · exact .inl ⟨_, _, _, heq⟩

/-! ### What ends no program -/

/-- The programs are the same, and so is the current one. -/
structure Spares (b b' : Backend) : Prop where
  programs : b'.programs = b.programs
  current : b'.current = b.current
  lastId : b.lastId.toNat ≤ b'.lastId.toNat

theorem spares_context (b : Backend) (context : Context) : Spares b { b with context } :=
  ⟨rfl, rfl, Nat.le_refl _⟩

/-- What is kept under a new identity may be anything but a program. -/
theorem Spares.identify {b' : Backend} (hspares : Spares b b') {ε α : Type}
    {identity : UInt32 → α} {refusal : String → ε} {keep : Backend → α → Backend}
    (hkeep : ∀ b a, (keep b a).programs = b.programs ∧ (keep b a).current = b.current ∧
      (keep b a).lastId = b.lastId) : Spares b (b'.identify identity refusal keep).2 := by
  obtain ⟨hprograms, hcurrent, hlast⟩ := hspares
  rcases b'.identify_cases identity refusal keep with ⟨hnext, heq⟩ | heq
  · rw [heq]
    obtain ⟨hprograms', hcurrent', hlast'⟩ := hkeep { b' with lastId := b'.lastId + 1 }
      (identity (b'.lastId + 1))
    refine ⟨hprograms'.trans hprograms, hcurrent'.trans hcurrent, ?_⟩
    rw [hlast', hnext]
    exact Nat.le_succ_of_le hlast
  · rw [heq]
    exact ⟨hprograms, hcurrent, hlast⟩

theorem spares_attributeLocation (b : Backend) (id : ProgramId) (name : String) :
    Spares b (b.attributeLocation id name).2 := by
  unfold attributeLocation
  split <;> exact ⟨rfl, rfl, Nat.le_refl _⟩

theorem spares_createBuffer (b : Backend) (target : BufferTarget) (data : List UInt8) :
    Spares b (b.createBuffer target data).2 := by
  unfold createBuffer
  split
  · exact spares_context b _
  · exact (spares_context b _).identify fun _ _ ↦ ⟨rfl, rfl, rfl⟩

theorem spares_createTexture (b : Backend) (width height : UInt32) (pixels : Option (List UInt8)) :
    Spares b (b.createTexture width height pixels).2 := by
  unfold createTexture
  split
  · exact spares_context b _
  · exact (spares_context b _).identify fun _ _ ↦ ⟨rfl, rfl, rfl⟩

theorem spares_createRenderTarget (b : Backend) (width height : UInt32) (color : TextureId) :
    Spares b (b.createRenderTarget width height color).2 := by
  unfold createRenderTarget
  split
  · exact ⟨rfl, rfl, Nat.le_refl _⟩
  · split
    · exact spares_context b _
    · exact (spares_context b _).identify fun _ _ ↦ ⟨rfl, rfl, rfl⟩

theorem Keeps.of_spares {b' : Backend} (hb : b.Keeps id p) (hspares : Spares b b') :
    b'.Keeps id p := by
  obtain ⟨hid, hp⟩ := hb
  exact ⟨hid.trans hspares.lastId, hspares.programs ▸ hp⟩

theorem Keeps.createProgram (hb : b.Keeps id p) (vertex fragment : String)
    (attributes : List (String × UInt32)) :
    (b.createProgram vertex fragment attributes).2.Keeps id p := by
  rcases b.createProgram_cases vertex fragment attributes with
    ⟨e, context, fault, heq⟩ | ⟨hnext, name, context, _, heq⟩
  · rw [heq]
    exact hb
  · rw [heq]
    exact Registry.Keeps.insert_next hb hnext _

/-- A place that is found is kept behind those that were found before. -/
theorem Keeps.uniformLocation (hb : b.Keeps id p)
    (hp : ∀ program located, p program →
      p { program with locations := program.locations ++ [located] }) (other : ProgramId)
    (name : String) : (b.uniformLocation other name).2.Keeps id p := by
  unfold Backend.uniformLocation
  split
  · exact hb
  · rename_i asked hasked
    split
    · exact hb
    · split
      · exact hb
      · rename_i location context _
        obtain ⟨hid, program, hprogram, hholds⟩ := hb
        by_cases heq : id = other
        · subst heq
          obtain rfl : asked = program := Option.some_inj.mp (hasked.symm.trans hprogram)
          exact ⟨hid, _, by rw [Registry.get?_insert, if_pos rfl], hp _ (name, location) hholds⟩
        · exact ⟨hid, program, by rw [Registry.get?_insert, if_neg heq, hprogram], hholds⟩

/-! ### Commands -/

/-- Only a deletion changes the programs. -/
theorem programs_submit (b : Backend) (command : Command) :
    (b.submit command).lastId = b.lastId ∧
      ((∀ other, command ≠ .deleteProgram other) → (b.submit command).programs = b.programs) := by
  cases command with
  | deleteProgram other => exact ⟨rfl, fun hne ↦ absurd rfl (hne other)⟩
  | setUniform l value =>
    show (b.setUniform l value).lastId = _ ∧ (_ → (b.setUniform l value).programs = _)
    unfold setUniform
    split
    · split <;> exact ⟨rfl, fun _ ↦ rfl⟩
    · exact ⟨rfl, fun _ ↦ rfl⟩
  | bindTexture unit target texture =>
    show (b.bindTexture unit target texture).lastId = _ ∧
      (_ → (b.bindTexture unit target texture).programs = _)
    unfold bindTexture
    split
    · exact ⟨rfl, fun _ ↦ rfl⟩
    · split <;> exact ⟨rfl, fun _ ↦ rfl⟩
  | useProgram _ | bindAttribute _ _ =>
    simp only [submit]
    split <;> exact ⟨rfl, fun _ ↦ rfl⟩
  | _ => exact ⟨rfl, fun _ ↦ rfl⟩

theorem Keeps.submit (hb : b.Keeps id p) {command : Command} (hne : command ≠ .deleteProgram id) :
    (b.submit command).Keeps id p := by
  obtain ⟨hlast, hprograms⟩ := b.programs_submit command
  by_cases hdeletes : ∃ other, command = .deleteProgram other
  · obtain ⟨other, rfl⟩ := hdeletes
    exact Registry.Keeps.erase hb fun heq ↦ hne (congrArg Command.deleteProgram heq)
  · unfold Keeps
    rw [hlast, hprograms fun other heq ↦ hdeletes ⟨other, heq⟩]
    exact hb

theorem lastsWith (id : ProgramId) {p : NativeProgram → Prop}
    (hp : ∀ program located, p program →
      p { program with locations := program.locations ++ [located] }) :
    LastsWith id fun b : Backend ↦ b.Keeps id p where
  createProgram _ _ _ _ hb := hb.createProgram _ _ _
  uniformLocation _ _ _ hb := hb.uniformLocation hp _ _
  attributeLocation b _ _ hb := hb.of_spares (b.spares_attributeLocation _ _)
  createBuffer b _ _ hb := hb.of_spares (b.spares_createBuffer _ _)
  createTexture b _ _ _ hb := hb.of_spares (b.spares_createTexture _ _ _)
  createRenderTarget b _ _ _ hb := hb.of_spares (b.spares_createRenderTarget _ _ _)
  submit _ _ hne hb := hb.submit hne

/-! ### The bound program -/

/-- A program that was created and not deleted. -/
def Alive (b : Backend) (id : ProgramId) : Prop := b.Keeps id fun _ ↦ True

/-- A place of a live program at which a uniform was found. -/
def Knows (b : Backend) (l : UniformLocation) : Prop :=
  b.Keeps l.program fun p ↦ l.slot.toNat < p.locations.length

/-- The program that uniforms are uploaded to. -/
def Bound (b : Backend) (id : ProgramId) : Prop := b.current = some id

theorem keepsPrograms : KeepsPrograms Alive := by
  refine .of_lasts (fun b vertex fragment attributes id b' hcreate ↦ ?_) fun id ↦
    lastsWith id fun _ _ _ ↦ trivial
  change b.createProgram vertex fragment attributes = _ at hcreate
  rcases b.createProgram_cases vertex fragment attributes with
    ⟨e, context, fault, heq⟩ | ⟨hnext, name, context, _, heq⟩
  · rw [heq] at hcreate
    cases (Prod.mk.inj hcreate).1
  · rw [heq] at hcreate
    obtain ⟨hid, rfl⟩ := Prod.mk.inj hcreate
    obtain rfl := Except.ok.inj hid
    exact ⟨Registry.Keeps.not_next hnext, Registry.Keeps.of_insert trivial⟩

/-- A found place is one of the places of the program. -/
theorem knows_of_uniformLocation {name : String} {l : UniformLocation} {b' : Backend}
    (halive : b.Alive id) (hanswer : b.uniformLocation id name = (some l, b')) :
    l.program = id ∧ b'.Knows l := by
  obtain ⟨hid, program, hprogram, _⟩ := halive
  simp only [Backend.uniformLocation, hprogram] at hanswer
  split at hanswer
  · rename_i slot hslot
    obtain ⟨hl, rfl⟩ := Prod.mk.inj hanswer
    obtain rfl := Option.some_inj.mp hl
    obtain ⟨hbound, _⟩ := List.findIdx?_eq_some_iff_getElem.mp hslot
    exact ⟨rfl, hid, program, hprogram,
      Nat.lt_of_le_of_lt (Recorder.toNat_ofNat_le slot) hbound⟩
  · split at hanswer
    · cases (Prod.mk.inj hanswer).1
    · obtain ⟨hl, rfl⟩ := Prod.mk.inj hanswer
      obtain rfl := Option.some_inj.mp hl
      refine ⟨rfl, hid, _, by rw [Registry.get?_insert, if_pos rfl], ?_⟩
      show (UInt32.ofNat program.locations.length).toNat < (program.locations ++ [_]).length
      rw [List.length_append]
      exact Nat.lt_succ_of_le (Recorder.toNat_ofNat_le _)

/-- A context on which all uniforms are active has a location for each. -/
theorem isSome_uniformLocation (hactive : b.context.activeUniforms = none)
    (hprogram : (b.programs.get? id).isSome) (name : String) :
    (b.uniformLocation id name).1.isSome ∧
      (b.uniformLocation id name).2.context.activeUniforms = none ∧
      ((b.uniformLocation id name).2.programs.get? id).isSome := by
  obtain ⟨program, hprogram⟩ := Option.isSome_iff_exists.mp hprogram
  have hlocation : ∀ native, (b.context.getUniformLocation native name).1.isSome ∧
      (b.context.getUniformLocation native name).2.activeUniforms = none := by
    intro native
    simp only [Context.getUniformLocation, Context.log, hactive, Option.isSome_map,
      List.findIdx?_isSome, and_true]
    split <;> rename_i hasked
    · simpa using hasked
    · simp
  simp only [Backend.uniformLocation, hprogram]
  split
  · exact ⟨rfl, hactive, by rw [hprogram]; rfl⟩
  · obtain ⟨hsome, hactive'⟩ := hlocation program.name
    split <;> rename_i hanswer <;> rw [hanswer] at hsome hactive'
    · cases hsome
    · exact ⟨rfl, hactive', by rw [Registry.get?_insert, if_pos rfl]; rfl⟩

/-- Only commands for a program change which one is current. -/
theorem current_submit_eq (b : Backend) {command : Command} (huse : command.isUse = false)
    (hdelete : ∀ other, command ≠ .deleteProgram other) :
    (b.submit command).current = b.current := by
  cases command with
  | useProgram _ => cases huse
  | deleteProgram other => exact absurd rfl (hdelete other)
  | setUniform l value =>
    show (b.setUniform l value).current = b.current
    unfold setUniform
    split
    · split <;> rfl
    · rfl
  | bindTexture unit target texture =>
    show (b.bindTexture unit target texture).current = b.current
    unfold bindTexture
    split
    · rfl
    · split <;> rfl
  | bindAttribute _ _ =>
    simp only [submit]
    split <;> rfl
  | _ => rfl

/-- A bound program stays bound until another one is, or it is deleted. -/
theorem current_submit {command : Command} (huse : command.isUse = false)
    (hne : command ≠ .deleteProgram id) (hbound : b.Bound id) : (b.submit command).Bound id := by
  by_cases hdeletes : ∃ other, command = .deleteProgram other
  · obtain ⟨other, rfl⟩ := hdeletes
    have hother : b.current ≠ some other := fun hcurrent ↦
      hne (congrArg Command.deleteProgram (Option.some_inj.mp (hcurrent.symm.trans hbound)))
    show (if b.current = some other then none else b.current) = some id
    rw [if_neg hother]
    exact hbound
  · exact (b.current_submit_eq huse fun other heq ↦ hdeletes ⟨other, heq⟩).trans hbound

theorem bindsPrograms : BindsPrograms Alive Knows Bound where
  keepsPrograms := keepsPrograms
  lasts l := lastsWith l.program fun program located hslot ↦ by
    rw [List.length_append]
    exact Nat.lt_add_right _ hslot
  located _ _ _ _ _ := knows_of_uniformLocation
  useProgram b id halive := by
    obtain ⟨_, program, hprogram, _⟩ := halive
    show (b.submit (.useProgram id)).current = some id
    simp only [submit, hprogram]
  submit _ _ _ := current_submit

/-- A context can come to behave in any other way. -/
instance : Adjustable Backend where
  Setting := Context → Context
  adjust change b := { b with context := change b.context }

theorem bindsSteadily : BindsSteadily Alive Knows Bound :=
  { bindsPrograms with
    steadyAlive := fun _ _ _ hb ↦ hb
    steadyKnows := fun _ _ _ hb ↦ hb
    steadyBound := fun _ _ _ hb ↦ hb }

/-- Values for the bound program are uploaded to the location that was found. -/
theorem submit_setUniform {l : UniformLocation} (hbound : b.Bound l.program) (hknows : b.Knows l) :
    ∃ program location, b.programs.get? l.program = some program ∧
      program.locations[l.slot.toNat]? = some location ∧
      ∀ value, b.submit (.setUniform l value) = b.logAll [uniformCall location.2 value] := by
  obtain ⟨_, program, hprogram, hslot⟩ := hknows
  have hcurrent : b.current = some l.program := hbound
  refine ⟨program, _, hprogram, List.getElem?_eq_getElem hslot, fun value ↦ ?_⟩
  show b.setUniform l value = _
  unfold setUniform
  rw [if_pos hcurrent, hprogram, Option.bind_some, List.getElem?_eq_getElem hslot]

/-! ### Names of places -/

/-- The name that a place was asked for by. -/
def nameOf (b : Backend) (l : UniformLocation) : Option String :=
  (b.programs.get? l.program).bind fun p ↦ (p.locations[l.slot.toNat]?).map (·.1)

theorem nameOf_eq {b : Backend} {l : UniformLocation} {p : NativeProgram}
    (hp : b.programs.get? l.program = some p) :
    b.nameOf l = (p.locations[l.slot.toNat]?).map (·.1) := by
  rw [nameOf, hp, Option.bind_some]

theorem notMem_of_findIdx? {locations : List (String × Int32)} {name : String}
    (hnone : locations.findIdx? (·.1 == name) = none) : name ∉ locations.map (·.1) := by
  intro hmem
  obtain ⟨known, hknown, heq⟩ := List.mem_map.mp hmem
  exact absurd (List.findIdx?_eq_none_iff.mp hnone known hknown) (by simp [heq])

/-- A question leaves the backend's programs as they are, or adds a place to one of them behind
those that it has. -/
theorem programs_uniformLocation (b : Backend) (id : ProgramId) (name : String) :
    (b.uniformLocation id name).2.programs = b.programs ∨
      ∃ p location, b.programs.get? id = some p ∧ name ∉ p.locations.map (·.1) ∧
        (b.uniformLocation id name).1 = some ⟨id, UInt32.ofNat p.locations.length⟩ ∧
        (b.uniformLocation id name).2.programs =
          b.programs.insert id { p with locations := p.locations ++ [(name, location)] } := by
  cases hp : b.programs.get? id with
  | none =>
    simp only [Backend.uniformLocation, hp]
    exact .inl trivial
  | some p =>
    simp only [Backend.uniformLocation, hp]
    split
    · exact .inl rfl
    · rename_i hnone
      split
      · exact .inl rfl
      · rename_i location _ _
        exact .inr ⟨p, location, rfl, notMem_of_findIdx? hnone, rfl, rfl⟩

/-- The program that is asked about is kept. Each of its places has another of its names. -/
theorem exists_of_questioned {vertex fragment : String}
    (hb : Questioned vertex fragment id b) :
    ∃ p, b.programs.get? id = some p ∧ (p.locations.map (·.1)).Nodup ∧
      p.locations.map (·.1) ⊆ uniformsOfText vertex fragment := by
  induction hb with
  | @created b b' attributes hcreate =>
    change b.createProgram vertex fragment attributes = _ at hcreate
    rcases b.createProgram_cases vertex fragment attributes with
      ⟨e, context, fault, heq⟩ | ⟨_, native, context, _, heq⟩
    · rw [heq] at hcreate
      cases (Prod.mk.inj hcreate).1
    · rw [heq] at hcreate
      obtain ⟨hid, rfl⟩ := Prod.mk.inj hcreate
      obtain rfl := Except.ok.inj hid
      exact ⟨⟨native, []⟩, by rw [Registry.get?_insert, if_pos rfl], List.nodup_nil,
        List.nil_subset _⟩
  | @asked b name _ hname ih =>
    obtain ⟨p, hp, hnodup, hsubset⟩ := ih
    rcases b.programs_uniformLocation id name with hsame | ⟨p', location, hp', hnew, _, hprograms⟩
    · exact ⟨p, (congrArg (Registry.get? · id) hsame).trans hp, hnodup, hsubset⟩
    · obtain rfl := Option.some.inj (hp.symm.trans hp')
      refine ⟨{ p with locations := p.locations ++ [(name, location)] }, ?_, ?_, ?_⟩
      · change (b.uniformLocation id name).2.programs.get? id = _
        rw [hprograms, Registry.get?_insert, if_pos rfl]
      · rw [List.map_append]
        refine List.nodup_append.mpr ⟨hnodup, List.nodup_singleton name, fun old hold c hc heq ↦ ?_⟩
        obtain rfl := heq.trans (List.mem_singleton.mp hc)
        exact hnew hold
      · rw [List.map_append]
        exact List.append_subset.mpr ⟨hsubset, List.cons_subset.mpr ⟨hname, List.nil_subset _⟩⟩

/-- The backend names the places of its programs. -/
theorem namesUniforms : NamesUniforms nameOf where
  answer := by
    intro vertex fragment id b hquestioned hsize name hname l b' hanswer
    obtain ⟨p, hp, hnodup, hsubset⟩ := exists_of_questioned hquestioned
    change b.uniformLocation id name = _ at hanswer
    have hlength := (List.subperm_of_subset hnodup hsubset).length_le
    rw [List.length_map] at hlength
    simp only [Backend.uniformLocation, hp] at hanswer
    split at hanswer
    · rename_i slot hslot
      obtain ⟨hl, rfl⟩ := Prod.mk.inj hanswer
      obtain rfl := Option.some.inj hl
      obtain ⟨hbound, hfound, _⟩ := List.findIdx?_eq_some_iff_getElem.mp hslot
      have hword : (UInt32.ofNat slot).toNat = slot :=
        UInt32.toNat_ofNat_of_lt' (Nat.lt_of_lt_of_le hbound (hlength.trans hsize))
      rw [nameOf_eq hp, hword, List.getElem?_eq_getElem hbound, Option.map_some, eq_of_beq hfound]
    · rename_i hnone
      split at hanswer
      · cases (Prod.mk.inj hanswer).1
      · obtain ⟨hl, rfl⟩ := Prod.mk.inj hanswer
        obtain rfl := Option.some.inj hl
        -- the new name is one more of the program's, so its place is still a number of 32 bits
        have hmore := (List.subperm_of_subset
          (List.nodup_cons.mpr ⟨notMem_of_findIdx? hnone, hnodup⟩)
          (List.cons_subset.mpr ⟨hname, hsubset⟩)).length_le
        rw [List.length_cons, List.length_map] at hmore
        have hword : (UInt32.ofNat p.locations.length).toNat = p.locations.length :=
          UInt32.toNat_ofNat_of_lt' (Nat.lt_of_lt_of_le hmore hsize)
        rw [nameOf_eq (by rw [Registry.get?_insert, if_pos rfl]), hword,
          List.getElem?_append_right (Nat.le_refl _), Nat.sub_self]
        rfl
  kept := by
    intro b id name l name' hnamed
    change (b.uniformLocation id name).2.nameOf l = _
    rcases b.programs_uniformLocation id name with hsame | ⟨p, location, hp, _, _, hprograms⟩
    · rwa [nameOf, hsame]
    · rw [nameOf, hprograms, Registry.get?_insert]
      split
      · rename_i hid
        rw [nameOf_eq (hid ▸ hp), Option.map_eq_some_iff] at hnamed
        obtain ⟨known, hknown, hname⟩ := hnamed
        obtain ⟨hbound, _⟩ := List.getElem?_eq_some_iff.mp hknown
        rw [Option.bind_some, List.getElem?_append_left hbound, hknown, Option.map_some, hname]
      · exact hnamed

end SceneRenderer.Gl.Backend
