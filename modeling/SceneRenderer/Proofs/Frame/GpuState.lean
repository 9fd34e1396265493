import SceneRenderer.Device.Basic

/-!
What a draw sees of the commands before it. The state of the device is taken apart into registers,
each of which keeps what was put there last; a list of commands is observed through its draws, each
with the state in which it happens.
-/

set_option autoImplicit false
set_option relaxedAutoImplicit false

namespace SceneRenderer

/-- A part of the state that commands set on its own. -/
inductive Register
  | program
  | uniform (location : UniformLocation)
  /-- What was bound to a texture unit last, of whatever kind. -/
  | unit (unit : UInt32)
  /-- What was bound to a texture unit last among the textures of one kind. -/
  | texture (unit : UInt32) (target : TextureTarget)
  | attributeSlot (slot : UInt32)
  | indexBuffer
deriving DecidableEq

/-- What a register holds. -/
inductive Binding
  | program (id : ProgramId)
  | value (value : UniformValue)
  | texture (target : TextureTarget) (texture : TextureId)
  | attribute (buffer : BufferId) (layout : AttributeLayout)
  /-- A vertex attribute that no buffer is read for. -/
  | disabled
  | indices (buffer : BufferId)

/-- What a command puts into a register, if anything. -/
def Command.binding : Command → Register → Option Binding
  | .useProgram id, .program => some (.program id)
  | .setUniform location value, .uniform l => if l = location then some (.value value) else none
  | .bindTexture unit target texture, .unit u =>
    if u = unit then some (.texture target texture) else none
  | .bindTexture unit target texture, .texture u t =>
    if u = unit ∧ t = target then some (.texture target texture) else none
  | .bindAttribute buffer layout, .attributeSlot slot =>
    if slot = layout.slot then some (.attribute buffer layout) else none
  | .disableAttribute slot, .attributeSlot s => if s = slot then some .disabled else none
  | .bindIndexBuffer buffer, .indexBuffer => some (.indices buffer)
  | _, _ => none

def Command.isDraw : Command → Bool
  | .drawArrays .. | .drawElements .. => true
  | _ => false

/-- Makes a program current. -/
def Command.isUse : Command → Bool
  | .useProgram _ => true
  | _ => false

/-- Sets something that draws of the program in use read. -/
def Command.isSetting : Command → Bool
  | .setUniform .. | .bindTexture .. | .bindAttribute .. | .disableAttribute _
  | .bindIndexBuffer _ => true
  | _ => false

theorem Command.isDraw_of_isSetting {c : Command} (hc : c.isSetting) : c.isDraw = false := by
  cases c with
  | drawArrays topology first count => exact absurd hc nofun
  | drawElements topology count type => exact absurd hc nofun
  | _ => rfl

theorem Command.isUse_of_isSetting {c : Command} (hc : c.isSetting) : c.isUse = false := by
  cases c with
  | useProgram id => exact absurd hc nofun
  | _ => rfl

/-- What commands leave in a register: what the last of them put there. -/
def effect : List Command → Register → Option Binding
  | [], _ => none
  | c :: rest, r => (effect rest r).or (c.binding r)

/-- The contents of all registers; a register that was never set holds nothing. -/
abbrev GpuState := Register → Option Binding

namespace GpuState

/-- The state after commands. -/
def after (s : GpuState) (commands : List Command) : GpuState :=
  fun r ↦ (effect commands r).or (s r)

/-- The draws among commands, each with the state in which it happens. -/
def observe (s : GpuState) : List Command → List (Command × GpuState)
  | [] => []
  | c :: rest =>
    if c.isDraw then (c, s) :: observe (s.after [c]) rest else observe (s.after [c]) rest

end GpuState

theorem effect_append (commands rest : List Command) (r : Register) :
    effect (commands ++ rest) r = (effect rest r).or (effect commands r) := by
  induction commands with
  | nil => exact (Option.or_none).symm
  | cons c commands ih =>
    show (effect (commands ++ rest) r).or (c.binding r) = _
    rw [ih, Option.or_assoc]
    rfl

theorem effect_eq_none {commands : List Command} {r : Register}
    (hnone : ∀ c ∈ commands, c.binding r = none) : effect commands r = none := by
  induction commands with
  | nil => rfl
  | cons c rest ih =>
    show (effect rest r).or (c.binding r) = none
    rw [ih fun c hc ↦ hnone c (List.mem_cons_of_mem _ hc), hnone c List.mem_cons_self]
    rfl

/-- A register that commands set is set by one of them. -/
theorem exists_of_isSome_effect {commands : List Command} {r : Register}
    (hsome : (effect commands r).isSome) : ∃ c ∈ commands, (c.binding r).isSome := by
  induction commands with
  | nil => exact absurd hsome nofun
  | cons c rest ih =>
    change ((effect rest r).or (c.binding r)).isSome at hsome
    rw [Option.isSome_or, Bool.or_eq_true] at hsome
    rcases hsome with hrest | hc
    · obtain ⟨c', hc', hbinding⟩ := ih hrest
      exact ⟨c', List.mem_cons_of_mem _ hc', hbinding⟩
    · exact ⟨c, List.mem_cons_self, hc⟩

namespace GpuState

variable (s : GpuState)

theorem after_nil : s.after [] = s := rfl

theorem after_append (commands rest : List Command) :
    s.after (commands ++ rest) = (s.after commands).after rest := by
  funext r
  show (effect (commands ++ rest) r).or (s r) = (effect rest r).or ((effect commands r).or (s r))
  rw [effect_append, Option.or_assoc]

/-- Doing the same again changes nothing. -/
theorem after_after (commands : List Command) :
    (s.after commands).after commands = s.after commands := by
  funext r
  show (effect commands r).or ((effect commands r).or (s r)) = (effect commands r).or (s r)
  rw [← Option.or_assoc, Option.or_self]

theorem after_draw {c : Command} (hdraw : c.isDraw) : s.after [c] = s := by
  funext r
  cases c with
  | drawArrays topology first count => rfl
  | drawElements topology count type => rfl
  | _ => exact absurd hdraw nofun

theorem observe_append (commands rest : List Command) :
    observe s (commands ++ rest) = observe s commands ++ observe (s.after commands) rest := by
  induction commands generalizing s with
  | nil => rfl
  | cons c commands ih =>
    have hafter : s.after (c :: commands) = (s.after [c]).after commands :=
      s.after_append [c] commands
    rw [List.cons_append, observe, observe, ih, ← hafter]
    split <;> rfl

/-- Commands that draw nothing show nothing. -/
theorem observe_eq_nil {commands : List Command} (hquiet : ∀ c ∈ commands, c.isDraw = false) :
    observe s commands = [] := by
  induction commands generalizing s with
  | nil => rfl
  | cons c rest ih =>
    have hc := hquiet c List.mem_cons_self
    rw [observe, if_neg (Bool.eq_false_iff.mp hc)]
    exact ih (s.after [c]) fun c' hc' ↦ hquiet c' (List.mem_cons_of_mem _ hc')

/-- A draw after commands that prepare it. -/
theorem observe_prepared {commands : List Command} {draw : Command}
    (hquiet : ∀ c ∈ commands, c.isDraw = false) (hdraw : draw.isDraw) (rest : List Command) :
    observe s (commands ++ [draw] ++ rest) =
      (draw, s.after commands) :: observe (s.after commands) rest := by
  rw [observe_append, observe_append, observe_eq_nil s hquiet, after_append, after_draw _ hdraw,
    observe, if_pos hdraw]
  rfl

end GpuState

end SceneRenderer
