import SceneRenderer.Device.Basic

/-!
A device whose creations can be made to fail: of each kind of object a number of further creations
succeed, and the one after them fails. After that the kind is free again.
-/

set_option autoImplicit false
set_option relaxedAutoImplicit false

namespace SceneRenderer

/-- How many creations succeed before one fails; without a number none is made to fail. -/
abbrev Ration := Option Nat

/-- The ration after a successful creation. -/
def Ration.spend (ration : Ration) : Ration := ration.map (· - 1)

structure Rationed (δ : Type) where
  device : δ
  programs : Ration
  buffers : Ration
  textures : Ration
  targets : Ration
deriving Inhabited

namespace Rationed

variable {δ : Type}

/-- Nothing is made to fail. -/
def of (device : δ) : Rationed δ := ⟨device, none, none, none, none⟩

def reason : String := "injected"

/-- The outcome of one creation under a ration, and the ration that is left. -/
def ration {ε α : Type} (ration : Ration) (refusal : ε) (device : δ) (create : δ → Except ε α × δ) :
    Except ε α × δ × Ration :=
  match ration with
  | some 0 => (.error refusal, device, none)
  | ration =>
    match create device with
    | (.ok a, device) => (.ok a, device, ration.spend)
    | (.error e, device) => (.error e, device, ration)

instance [Device δ] : Device (Rationed δ) where
  maxTextureUnits r := Device.maxTextureUnits r.device
  surfaceSize r := Device.surfaceSize r.device
  createProgram r vertex fragment attributes :=
    let (result, device, programs) := ration r.programs (.device reason) r.device
      (Device.createProgram · vertex fragment attributes)
    (result, { r with device, programs })
  uniformLocation r program name :=
    let (location, device) := Device.uniformLocation r.device program name
    (location, { r with device })
  attributeLocation r program name :=
    let (location, device) := Device.attributeLocation r.device program name
    (location, { r with device })
  createBuffer r target data :=
    let (result, device, buffers) := ration r.buffers (.buffer reason) r.device
      (Device.createBuffer · target data)
    (result, { r with device, buffers })
  createTexture r width height pixels :=
    let (result, device, textures) := ration r.textures (.texture reason) r.device
      (Device.createTexture · width height pixels)
    (result, { r with device, textures })
  createRenderTarget r width height color :=
    let (result, device, targets) := ration r.targets (.renderTarget reason) r.device
      (Device.createRenderTarget · width height color)
    (result, { r with device, targets })
  submit r command := { r with device := Device.submit r.device command }

end Rationed

end SceneRenderer
