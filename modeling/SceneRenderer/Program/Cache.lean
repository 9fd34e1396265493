import SceneRenderer.Program.Link

/-!
A cache of linked programs by their keys. Whoever acquires a program gets a handle and owes one
release; a program lives as long as it has uses. Programs lie in slots, which are used again: each
slot counts the programs that it has lost, and a handle is good only for the count it was made
under.
-/

set_option autoImplicit false
set_option relaxedAutoImplicit false

namespace SceneRenderer

open Shader

structure ProgramHandle where
  /-- The slot, which also orders draws. -/
  index : UInt32
  generation : UInt32
deriving Repr, DecidableEq, Inhabited

def ProgramHandle.text (h : ProgramHandle) : String :=
  "ProgramHandle \x7b index: " ++ toString h.index.toNat ++ ", generation: " ++
    toString h.generation.toNat ++ " \x7d"

/-- Why a handle cannot be released. -/
inductive CacheError
  /-- The program is gone. -/
  | stale (handle : ProgramHandle)
  /-- There is no such slot. -/
  | unknown (handle : ProgramHandle)
deriving Repr, DecidableEq, Inhabited

namespace CacheError

def message : CacheError → String
  | stale handle => "program handle " ++ handle.text ++ " refers to a destroyed program"
  | unknown handle => "program handle " ++ handle.text ++ " was not issued by this cache"

/-- What is reported when a release is refused. -/
def notice (e : CacheError) : String := "release ignored: " ++ e.message

end CacheError

/-- What happened since the cache was made, counted in 64 bits, which no run exhausts. -/
structure CacheStats where
  hits : Nat
  compiles : Nat
  failures : Nat
  destroyed : Nat
deriving Repr, DecidableEq, Inhabited

structure CacheEntry where
  key : ProgramKey
  source : ProgramSource
  program : LinkedProgram
  /-- Acquisitions that are not yet released. -/
  useCount : UInt32
deriving Inhabited

structure CacheSlot where
  generation : UInt32
  entry : Option CacheEntry
deriving Inhabited

/-- The slot without its program. -/
def CacheSlot.vacate (s : CacheSlot) : CacheSlot :=
  if s.entry.isSome then ⟨s.generation + 1, none⟩ else s

structure ProgramCache where
  /-- Fixed for as long as the cache lives. -/
  options : ShaderOptions
  slots : Array CacheSlot
  /-- Slots to use again, the next one first. -/
  free : List UInt32
  /-- The slot of the program with a key. -/
  byKey : Registry ProgramKey UInt32
  stats : CacheStats
deriving Inhabited

namespace ProgramCache

def new (options : ShaderOptions) : ProgramCache := ⟨options, #[], [], .empty, ⟨0, 0, 0, 0⟩⟩

/-- The number of programs. -/
def size (c : ProgramCache) : Nat := c.byKey.size

def isEmpty (c : ProgramCache) : Bool := c.byKey.isEmpty

/-- The entry in a slot. -/
def entryAt? (c : ProgramCache) (index : UInt32) : Option CacheEntry :=
  c.slots[index.toNat]?.bind (·.entry)

/-- The programs that a slot has lost. -/
def generationAt (c : ProgramCache) (index : UInt32) : UInt32 :=
  (c.slots[index.toNat]?.map (·.generation)).getD 0

/-- The entry behind a handle. -/
def entry? (c : ProgramCache) (h : ProgramHandle) : Option CacheEntry :=
  if c.generationAt h.index = h.generation then c.entryAt? h.index else none

def program? (c : ProgramCache) (h : ProgramHandle) : Option LinkedProgram :=
  (c.entry? h).map (·.program)

def key? (c : ProgramCache) (h : ProgramHandle) : Option ProgramKey := (c.entry? h).map (·.key)

def source? (c : ProgramCache) (h : ProgramHandle) : Option ProgramSource :=
  (c.entry? h).map (·.source)

def useCount? (c : ProgramCache) (h : ProgramHandle) : Option UInt32 :=
  (c.entry? h).map (·.useCount)

/-- The handle of the program with a key. -/
def find? (c : ProgramCache) (k : ProgramKey) : Option ProgramHandle := do
  let index ← c.byKey.get? k
  if (c.entryAt? index).isSome then some ⟨index, c.generationAt index⟩ else none

def contains (c : ProgramCache) (k : ProgramKey) : Bool := c.byKey.contains k

/-- The uses of the program with a key; no program has no uses. -/
def useCountOf (c : ProgramCache) (k : ProgramKey) : UInt32 :=
  (((c.byKey.get? k).bind c.entryAt?).map (·.useCount)).getD 0

/-- Changes the entry behind a handle. -/
def modifyEntry (c : ProgramCache) (h : ProgramHandle) (f : CacheEntry → CacheEntry) :
    ProgramCache :=
  { c with slots := c.slots.modify h.index.toNat fun s => { s with entry := s.entry.map f } }

/-- Finds a program again, which has the given uses from now on. -/
def hit (c : ProgramCache) (h : ProgramHandle) (uses : UInt32) : ProgramCache :=
  { c.modifyEntry h fun e => { e with useCount := uses } with
    stats := { c.stats with hits := c.stats.hits + 1 } }

/-- Puts a new program into a slot. -/
def store (c : ProgramCache) (entry : CacheEntry) : ProgramHandle × ProgramCache :=
  let stats := { c.stats with compiles := c.stats.compiles + 1 }
  match c.free with
  | index :: free =>
    (⟨index, c.generationAt index⟩,
      { c with
        slots := c.slots.modify index.toNat fun s => { s with entry := some entry }
        free
        byKey := c.byKey.insert entry.key index
        stats })
  | [] =>
    let index := UInt32.ofNat c.slots.size
    (⟨index, 0⟩,
      { c with
        slots := c.slots.push ⟨0, some entry⟩
        byKey := c.byKey.insert entry.key index
        stats })

variable {δ : Type} [Device δ]

/-- Acquires the program of a key. A program that is there gets one more use, if its uses can still
be counted. The source is built only if the program is not there; a program that fails leaves no
trace but in the statistics. -/
def acquireWith (c : ProgramCache) (device : δ) (k : ProgramKey)
    (build : ShaderOptions → ProgramKey → Except Fault ProgramSource) :
    Except Fault (Except ProgramError ProgramHandle × ProgramCache × δ) :=
  match c.find? k with
  | some handle => do
    let uses ← checkedAdd ((c.useCount? handle).getD 0) 1
    return (.ok handle, c.hit handle uses, device)
  | none => do
    let source ← build c.options k
    match LinkedProgram.link device source with
    | (.error e, device) =>
      return (.error e, { c with stats := { c.stats with failures := c.stats.failures + 1 } },
        device)
    | (.ok program, device) =>
      let (handle, c) := c.store ⟨k, source, program, 1⟩
      return (.ok handle, c, device)

def acquire (c : ProgramCache) (device : δ) (k : ProgramKey) :
    Except Fault (Except ProgramError ProgramHandle × ProgramCache × δ) :=
  c.acquireWith device k synthesize

/-- Takes the program out of a slot. -/
def destroyAt (c : ProgramCache) (index : UInt32) (entry : CacheEntry) :
    List Command × ProgramCache :=
  ([.deleteProgram entry.program.id],
    { c with
      slots := c.slots.modify index.toNat CacheSlot.vacate
      byKey := c.byKey.erase entry.key
      free := index :: c.free
      stats := { c.stats with destroyed := c.stats.destroyed + 1 } })

/-- Gives a use back. The last use takes the program with it. -/
def release (c : ProgramCache) (h : ProgramHandle) :
    Except CacheError (List Command × ProgramCache) :=
  match c.entry? h with
  | some entry =>
    if entry.useCount ≤ 1 then .ok (c.destroyAt h.index entry)
    else .ok ([], c.modifyEntry h fun e => { e with useCount := e.useCount - 1 })
  | none => .error (if h.index.toNat < c.slots.size then .stale h else .unknown h)

/-- Destroys every program whatever its uses. All handles become stale. -/
def clear (c : ProgramCache) : List Command × ProgramCache :=
  let taken := c.slots.toList.zipIdx.filterMap fun s => s.1.entry.map (s.2, ·)
  (taken.map fun t => .deleteProgram t.2.program.id,
    { c with
      slots := c.slots.map CacheSlot.vacate
      byKey := .empty
      free := (taken.map fun t => UInt32.ofNat t.1).reverse ++ c.free
      stats := { c.stats with destroyed := c.stats.destroyed + taken.length } })

end ProgramCache

end SceneRenderer
