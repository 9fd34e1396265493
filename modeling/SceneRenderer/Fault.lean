/-!
Faults: conditions that stop the whole run, unlike errors, which an operation returns. Arithmetic
on words faults where its result does not fit.
-/

set_option autoImplicit false
set_option relaxedAutoImplicit false

namespace SceneRenderer

inductive Fault
  | addOverflow
  | multiplyOverflow
  /-- A name was declared with two qualifiers or types. -/
  | conflictingDeclarations (name : String)
deriving Repr, DecidableEq, Inhabited

def Fault.message : Fault → String
  | addOverflow => "attempt to add with overflow"
  | multiplyOverflow => "attempt to multiply with overflow"
  | conflictingDeclarations name => "conflicting declarations of " ++ name

/-- The sum of two words, if it is one. -/
def checkedAdd (a b : UInt32) : Except Fault UInt32 :=
  if a.toNat + b.toNat < UInt32.size then .ok (a + b) else .error .addOverflow

theorem checkedAdd_of_lt {a b : UInt32} (hfits : a.toNat + b.toNat < UInt32.size) :
    checkedAdd a b = .ok (a + b) := if_pos hfits

theorem checkedAdd_of_le {a b : UInt32} (hexceeds : UInt32.size ≤ a.toNat + b.toNat) :
    checkedAdd a b = .error .addOverflow := if_neg (Nat.not_lt.mpr hexceeds)

/-- The sum that is given is that of the numbers. -/
theorem checkedAdd_eq_ok_iff {a b c : UInt32} :
    checkedAdd a b = .ok c ↔ c.toNat = a.toNat + b.toNat := by
  by_cases hfits : a.toNat + b.toNat < UInt32.size
  · rw [checkedAdd_of_lt hfits, Except.ok.injEq, ← UInt32.toNat_inj, UInt32.toNat_add,
      Nat.mod_eq_of_lt hfits, eq_comm]
  · rw [checkedAdd_of_le (Nat.not_lt.mp hfits)]
    exact ⟨nofun, fun hsum ↦ absurd (hsum ▸ c.toNat_lt) hfits⟩

/-- The product of two words, if it is one. -/
def checkedMul (a b : UInt32) : Except Fault UInt32 :=
  if a.toNat * b.toNat < UInt32.size then .ok (a * b) else .error .multiplyOverflow

end SceneRenderer
