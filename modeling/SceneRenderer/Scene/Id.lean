/-!
Identities of scene components. Only equality and order of identities matter to the renderer: an
unchanged identity means that nothing has to be bound again.
-/

set_option autoImplicit false
set_option relaxedAutoImplicit false

namespace SceneRenderer

structure DrawableId where
  raw : UInt32
deriving Repr, DecidableEq, Inhabited

structure GeometryId where
  raw : UInt32
deriving Repr, DecidableEq, Inhabited

structure MaterialId where
  raw : UInt32
deriving Repr, DecidableEq, Inhabited

structure TransformId where
  raw : UInt32
deriving Repr, DecidableEq, Inhabited

/-- A texture owned by the host. -/
structure TextureId where
  raw : UInt32
deriving Repr, DecidableEq, Inhabited

def DrawableId.text (id : DrawableId) : String := "DrawableId#" ++ toString id.raw

def GeometryId.text (id : GeometryId) : String := "GeometryId#" ++ toString id.raw

def MaterialId.text (id : MaterialId) : String := "MaterialId#" ++ toString id.raw

def TransformId.text (id : TransformId) : String := "TransformId#" ++ toString id.raw

def TextureId.text (id : TextureId) : String := "TextureId#" ++ toString id.raw

end SceneRenderer
