import Mathlib.Algebra.Order.BigOperators.Group.Finset
import SceneRenderer.Proofs.Gl.Balance

/-!
What a request means, by the requests before it and without the lists of the backend: the native
program that an identity stands for (`native?`), the program that is current (`current?`), and the
location that the context gave for a name when it first had one (`location?`).

A list of names with their locations follows a history if it has what was found, each name once
(`Places`). A place in such a list has 32 bits, which is enough because of how a context counts its
locations (`LocatesUniforms`, `Places.length_le`).
-/

set_option autoImplicit false
set_option relaxedAutoImplicit false

namespace SceneRenderer.Gl.Backend

open Shader

/-! ### Histories -/

/-- Requests with the backend that each of them met, latest first. -/
abbrev History := List (Backend × Request)

/-- A backend with the requests that it has served. At any time the context may come to refuse
things or to answer in any other way; only its log stays. After a fault nothing more is asked. -/
inductive Served : History → Backend → Prop
  | new {context : Context} (hlog : context.reversed = []) : Served [] (.new context)
  | adjust {history : History} {b : Backend} (hb : Served history b) {context : Context}
    (hlog : context.reversed = b.context.reversed) : Served history { b with context }
  | serve {history : History} {b : Backend} (hb : Served history b) (hfault : b.fault = none)
    (request : Request) : Served ((b, request) :: history) (b.serve request)

/-- The name that the context gave for a program, as long as it is not deleted. -/
def native? (id : ProgramId) : History → Option UInt32
  | [] => none
  | (b, .createProgram vertex fragment attributes) :: earlier =>
    if (b.createProgram vertex fragment attributes).1 = .ok id then
      (buildProgram b.context vertex fragment attributes).1.toOption
    else native? id earlier
  | (_, .submit (.deleteProgram other)) :: earlier =>
    if id = other then none else native? id earlier
  | (_, .destroy) :: _ => none
  | _ :: earlier => native? id earlier

/-- The program that was made current last, as long as it is not deleted. -/
def current? : History → Option ProgramId
  | [] => none
  | (_, .submit (.useProgram id)) :: earlier =>
    if (native? id earlier).isSome then some id else current? earlier
  | (_, .submit (.deleteProgram id)) :: earlier =>
    if current? earlier = some id then none else current? earlier
  | (_, .destroy) :: _ => none
  | _ :: earlier => current? earlier

/-- The location that the context gave for a name in the native program of an identity, when it was
asked and first had one. -/
def location? (id : ProgramId) (native : UInt32) (name : String) : History → Option Int32
  | [] => none
  | (b, .uniformLocation other asked) :: earlier =>
    (location? id native name earlier).or <|
      if other = id ∧ asked = name ∧ native? id earlier = some native then
        (b.context.getUniformLocation native name).1
      else none
  | _ :: earlier => location? id native name earlier

/-- One of the requests was for a uniform of a program, and was answered with the location. -/
def Returned (history : History) (id : ProgramId) (name : String) (l : UniformLocation) : Prop :=
  ∃ b, (b, .uniformLocation id name) ∈ history ∧ (b.uniformLocation id name).1 = some l

/-- The locations of a context are never below zero, and no more than two names in a program stand
for one of them: the name of an array and that of its first element. -/
structure LocatesUniforms (history : History) : Prop where
  nonneg : ∀ {id native name location}, location? id native name history = some location →
    0 ≤ location
  shared : ∀ {id native location} (names : List String), names.Nodup →
    (∀ name ∈ names, location? id native name history = some location) → names.length ≤ 2

variable {history : History} {b : Backend} {request : Request} {id : ProgramId}
  {native : UInt32} {name : String} {location : Int32} {l : UniformLocation}

/-- A backend with its history, after one more request. -/
def History.next (run : History × Backend) (request : Request) : History × Backend :=
  ((run.2, request) :: run.1, run.2.serve request)

theorem Served.next {run : History × Backend} (hrun : Served run.1 run.2)
    (hfault : run.2.fault = none) (request : Request) :
    Served (History.next run request).1 (History.next run request).2 := hrun.serve hfault request

theorem Request.submit_ne {command : Command} (id : ProgramId) (name : String) :
    Request.submit command ≠ .uniformLocation id name := nofun

/-- A location that was given stays the one of its name. -/
theorem location?_cons_of_some (hsome : location? id native name history = some location)
    (e : Backend × Request) : location? id native name (e :: history) = some location := by
  obtain ⟨asked, request⟩ := e
  cases request with
  | uniformLocation other asked =>
    show (location? id native name history).or _ = _
    rw [hsome, Option.some_or]
  | _ => exact hsome

theorem location?_cons_of_ne (hne : ∀ other asked, request ≠ .uniformLocation other asked) :
    location? id native name ((b, request) :: history) = location? id native name history := by
  cases request with
  | uniformLocation other asked => exact absurd rfl (hne other asked)
  | _ => rfl

theorem LocatesUniforms.of_cons {e : Backend × Request} (h : LocatesUniforms (e :: history)) :
    LocatesUniforms history where
  nonneg hsome := h.nonneg (location?_cons_of_some hsome e)
  shared names hnodup hsome :=
    h.shared names hnodup fun name hname ↦ location?_cons_of_some (hsome name hname) e

theorem Returned.cons (h : Returned history id name l) (e : Backend × Request) :
    Returned (e :: history) id name l :=
  let ⟨asked, hmem, hanswer⟩ := h
  ⟨asked, List.mem_cons_of_mem _ hmem, hanswer⟩

theorem Returned.of_cons_of_ne (hne : ∀ other asked, request ≠ .uniformLocation other asked)
    (h : Returned ((b, request) :: history) id name l) : Returned history id name l := by
  obtain ⟨asked, hmem, hanswer⟩ := h
  rcases List.mem_cons.mp hmem with heq | hmem
  · exact absurd (Prod.mk.inj heq).2.symm (hne id name)
  · exact ⟨asked, hmem, hanswer⟩

/-- What the context found at the requests: the identity and the native program, the name and its
location. -/
def found : History → List ((ProgramId × UInt32) × String × Int32)
  | [] => []
  | (b, .uniformLocation id name) :: earlier =>
    ((native? id earlier).bind fun native ↦ (b.context.getUniformLocation native name).1.map
      fun location ↦ ((id, native), name, location)).toList ++ found earlier
  | _ :: earlier => found earlier

theorem mem_found_of_location? (hsome : location? id native name history = some location) :
    ((id, native), name, location) ∈ found history := by
  induction history with
  | nil => cases hsome
  | cons e earlier ih =>
    obtain ⟨b, request⟩ := e
    cases request with
    | uniformLocation other asked =>
      rcases Option.or_eq_some_iff.mp hsome with hbefore | ⟨_, hnow⟩
      · exact List.mem_append_right _ (ih hbefore)
      · split at hnow
        · rename_i hsame
          obtain ⟨rfl, rfl, hnative⟩ := hsame
          refine List.mem_append_left _ (Option.mem_toList.mpr ?_)
          rw [hnative, Option.bind_some, hnow]
          rfl
        · cases hnow
    | _ => exact ih hsome

/-- Where every name that was found has a location of its own, none is shared. -/
theorem LocatesUniforms.of_found (hnonneg : ∀ e ∈ found history, 0 ≤ e.2.2)
    (hown : ∀ e ∈ found history, ∀ f ∈ found history, e.1 = f.1 → e.2.2 = f.2.2 → e.2.1 = f.2.1) :
    LocatesUniforms history where
  nonneg hsome := hnonneg _ (mem_found_of_location? hsome)
  shared names hnodup hsome := by
    rcases names with _ | ⟨first, _ | ⟨second, rest⟩⟩
    · exact Nat.zero_le 2
    · exact Nat.le_succ 1
    · obtain ⟨hfirst, hrest⟩ := List.forall_mem_cons.mp hsome
      have hsame : first = second := hown _ (mem_found_of_location? hfirst) _
        (mem_found_of_location? (hrest second List.mem_cons_self)) rfl rfl
      exact absurd (hsame ▸ List.mem_cons_self) (List.nodup_cons.mp hnodup).1

/-! ### Places -/

/-- The names of the list are those that a location was given for, each once. -/
structure Places (locations : List (String × Int32)) (id : ProgramId) (native : UInt32)
    (history : History) : Prop where
  nodup : (locations.map (·.1)).Nodup
  mem_iff : ∀ {name location}, (name, location) ∈ locations ↔
    location? id native name history = some location

/-- The place of a name in a list is one at which it stands. -/
theorem getElem?_of_findIdx? {locations : List (String × Int32)} {slot : Nat}
    (hslot : locations.findIdx? (·.1 == name) = some slot) :
    slot < locations.length ∧ ∃ location, locations[slot]? = some (name, location) := by
  obtain ⟨hlt, hname, _⟩ := List.findIdx?_eq_some_iff_getElem.mp hslot
  refine ⟨hlt, locations[slot].2, ?_⟩
  rw [List.getElem?_eq_getElem hlt, ← eq_of_beq hname]

namespace Places

variable {locations : List (String × Int32)}

theorem location?_eq_none (h : Places locations id native history)
    (hmissing : locations.findIdx? (·.1 == name) = none) :
    location? id native name history = none := by
  refine Option.eq_none_iff_forall_ne_some.mpr fun location hlocation ↦ ?_
  simpa using List.findIdx?_eq_none_iff.mp hmissing _ (h.mem_iff.mpr hlocation)

/-- There are at most two names for every location. -/
theorem length_le_two_mul (h : Places locations id native history)
    (huniforms : LocatesUniforms history) :
    locations.length ≤ 2 * (locations.toFinset.image (·.2)).card := by
  have hnodup : locations.Nodup := .of_map _ h.nodup
  rw [← List.toFinset_card_of_nodup hnodup]
  refine Finset.card_le_mul_card_image _ 2 fun location _ ↦ ?_
  -- the entries that share a location, as a list of names
  have hshared : {e ∈ locations.toFinset | e.2 = location} =
      (locations.filter (·.2 = location)).toFinset := by
    ext e
    simp
  rw [hshared, List.toFinset_card_of_nodup (hnodup.filter _), ← List.length_map (·.1)]
  have hlocated : ∀ name ∈ (locations.filter (·.2 = location)).map (·.1),
      location? id native name history = some location := by
    intro name hname
    obtain ⟨e, he, rfl⟩ := List.mem_map.mp hname
    obtain ⟨hmem, hlocation⟩ := List.mem_filter.mp he
    exact of_decide_eq_true hlocation ▸ h.mem_iff.mp hmem
  exact huniforms.shared _ (h.nodup.sublist (List.filter_sublist.map _)) hlocated

/-- Half of the numbers of 32 bits are locations. -/
theorem card_image_le (h : Places locations id native history)
    (huniforms : LocatesUniforms history) :
    (locations.toFinset.image (·.2)).card ≤ 2 ^ 31 := by
  have hnonneg : ∀ location ∈ locations.toFinset.image (·.2), 0 ≤ location.toInt := by
    intro location hlocation
    obtain ⟨e, he, rfl⟩ := Finset.mem_image.mp hlocation
    exact Int32.le_iff_toInt_le.mp (huniforms.nonneg (h.mem_iff.mp (List.mem_toFinset.mp he)))
  rw [← Finset.card_range (2 ^ 31)]
  refine Finset.card_le_card_of_injOn (fun location ↦ location.toInt.toNat) (fun location _ ↦ ?_) ?_
  · have hbound : location.toInt.toNat < 2 ^ 31 := by
      have hlt := location.toInt_lt
      omega
    exact Finset.mem_coe.mpr (Finset.mem_range.mpr hbound)
  · intro first hfirst second hsecond heq
    have hfirst := hnonneg first (Finset.mem_coe.mp hfirst)
    have hsecond := hnonneg second (Finset.mem_coe.mp hsecond)
    refine Int32.toInt_inj.mp ?_
    dsimp only at heq
    omega

/-- Every place in the list can be said in 32 bits. -/
theorem length_le (h : Places locations id native history) (huniforms : LocatesUniforms history) :
    locations.length ≤ UInt32.size :=
  (h.length_le_two_mul huniforms).trans (Nat.mul_le_mul_left 2 (h.card_image_le huniforms))

/-- A name for which there is a location goes to the end. -/
theorem append (h : Places locations id native history) (hnative : native? id history = some native)
    (hmissing : locations.findIdx? (·.1 == name) = none)
    (hlocation : (b.context.getUniformLocation native name).1 = some location) :
    Places (locations ++ [(name, location)]) id native
      ((b, .uniformLocation id name) :: history) where
  nodup := by
    rw [List.map_append, List.map_singleton, List.nodup_append_comm]
    refine List.nodup_cons.mpr ⟨fun hmem ↦ ?_, h.nodup⟩
    obtain ⟨e, he, hname⟩ := List.mem_map.mp hmem
    exact absurd hname (by simpa using List.findIdx?_eq_none_iff.mp hmissing e he)
  mem_iff {name' location'} := by
    have hstep : location? id native name' ((b, .uniformLocation id name) :: history) =
        (location? id native name' history).or (if id = id ∧ name = name' ∧
          native? id history = some native then (b.context.getUniformLocation native name').1
          else none) := rfl
    rw [hstep, List.mem_append, h.mem_iff, List.mem_singleton, Prod.mk.injEq]
    by_cases hname : name = name'
    · subst hname
      rw [if_pos ⟨rfl, rfl, hnative⟩, hlocation, h.location?_eq_none hmissing]
      simp [eq_comm]
    · rw [if_neg fun h ↦ hname h.2.1, Option.or_none]
      simp [Ne.symm hname]

end Places

end SceneRenderer.Gl.Backend
