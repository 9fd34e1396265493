import SceneRenderer.Device.Basic
import SceneRenderer.Fault
import SceneRenderer.Gl.Context
import SceneRenderer.Text.Basic

/-!
A device on top of a context. The device's identities are its own; each stands for one or two
objects of the context, which are deleted together with it.
-/

set_option autoImplicit false
set_option relaxedAutoImplicit false

namespace SceneRenderer.Gl

open Shader

structure NativeProgram where
  name : UInt32
  /-- The locations of the uniforms that were asked for and found, each once. -/
  locations : List (String × Int32)
deriving Repr, DecidableEq, Inhabited

structure NativeTarget where
  framebuffer : UInt32
  depth : UInt32
deriving Repr, DecidableEq, Inhabited

structure Backend where
  context : Context
  maxTextureUnits : UInt32
  surfaceSize : UInt32 × UInt32
  lastId : UInt32
  programs : Registry ProgramId NativeProgram
  buffers : Registry BufferId UInt32
  textures : Registry TextureId UInt32
  targets : Registry RenderTargetId NativeTarget
  current : Option ProgramId
  /-- What was reported, latest first. -/
  reversedNotices : List String
  /-- The first request that could not be expressed; nothing after it counts. -/
  fault : Option Fault
deriving Inhabited

/-- A size as the interface takes it. -/
def size (n : UInt32) : Int32 := Int32.ofNat (min n.toNat 0x7fffffff)

/-- A reported size; none is below zero. -/
def unsignedSize (n : Int32) : UInt32 := UInt32.ofNat n.toInt.toNat

def mode : Topology → UInt32
  | .points => points
  | .lines => lines
  | .lineLoop => lineLoop
  | .lineStrip => lineStrip
  | .triangles => triangles
  | .triangleStrip => triangleStrip
  | .triangleFan => triangleFan

def componentType : Component → UInt32
  | .float32 => float
  | .uint16 => unsignedShort
  | .int8 => signedByte
  | .uint8 => unsignedByte

def indexType : IndexType → UInt32
  | .uint16 => unsignedShort
  | .uint32 => unsignedInt

def bufferBinding : BufferTarget → UInt32
  | .vertex => arrayBuffer
  | .index => elementArrayBuffer

def textureBinding : TextureTarget → UInt32
  | .plane => texture2d
  | .cube => textureCubeMap

def shaderType : StageKind → UInt32
  | .vertex => vertexShader
  | .fragment => fragmentShader

/-- What is said when an object is refused. -/
def refusal (kind : ObjectKind) : String := "Unable to create " ++ kind.title ++ " object"

/-- The call that uploads a value. -/
def uniformCall (location : Int32) : UniformValue → Call
  | .bool b => .uniformInt location (if b then 1 else 0)
  | .float x => .uniformFloats location [x]
  | .vec2 v => .uniformFloats location v.toList
  | .vec3 v => .uniformFloats location v.toList
  | .vec4 v => .uniformFloats location v.toList
  | .mat3 m => .uniformMatrix location 3 m.toList
  | .mat4 m => .uniformMatrix location 4 m.toList
  | .sampler unit => .uniformInt location unit.toInt32

namespace Backend

/-- A device on a context, with depths compared. -/
def new (context : Context) : Backend where
  context := context.log (.enable depthTest)
  maxTextureUnits := max (unsignedSize context.maxTextureUnits) 1
  surfaceSize := (unsignedSize context.viewport.1, unsignedSize context.viewport.2)
  lastId := 0
  programs := .empty
  buffers := .empty
  textures := .empty
  targets := .empty
  current := none
  reversedNotices := []
  fault := none

def notices (b : Backend) : List String := b.reversedNotices.reverse

def clearNotices (b : Backend) : Backend := { b with reversedNotices := [] }

def logAll (b : Backend) (calls : List Call) : Backend :=
  { b with context := b.context.logAll calls }

def noteFault (b : Backend) (f : Fault) : Backend := { b with fault := b.fault <|> some f }

/-- Gives the next identity away, for which the backend keeps what was made. -/
def identify {ε α : Type} (b : Backend) (identity : UInt32 → α) (refusal : String → ε)
    (keep : Backend → α → Backend) : Except ε α × Backend :=
  match checkedAdd b.lastId 1 with
  | .ok raw => (.ok (identity raw), keep { b with lastId := raw } (identity raw))
  | .error f => (.error (refusal f.message), b.noteFault f)

/-- Compiles the text of one stage. -/
def compileShader (c : Context) (stage : StageKind) (text : String) :
    Except ProgramError UInt32 × Context :=
  match c.create .shader (.createShader (shaderType stage)) with
  | (none, c) => (.error (.device (refusal .shader)), c)
  | (some shader, c) =>
    let c := c.logAll [.shaderSource shader text, .compileShader shader]
    if c.failingStage = some stage then
      (.error (.compile stage c.info), c.log (.delete .shader shader))
    else (.ok shader, c)

/-- Links compiled stages, which are not needed any more after that. -/
def linkProgram (c : Context) (vertex fragment : UInt32) (attributes : List (String × UInt32)) :
    Except ProgramError UInt32 × Context :=
  match c.createObject .program with
  | (none, c) =>
    (.error (.device (refusal .program)),
      c.logAll [.delete .shader vertex, .delete .shader fragment])
  | (some program, c) =>
    let c := c.logAll [.attachShader program vertex, .attachShader program fragment]
    let c := attributes.foldl (fun c a => c.bindAttribLocation program a.2 a.1) c
    let c := c.logAll
      [.linkProgram program, .detachShader program vertex, .detachShader program fragment,
        .delete .shader vertex, .delete .shader fragment]
    if c.failingLink then (.error (.link c.info), c.log (.delete .program program))
    else (.ok program, c)

/-- Compiles both stages and links them. -/
def buildProgram (c : Context) (vertex fragment : String) (attributes : List (String × UInt32)) :
    Except ProgramError UInt32 × Context :=
  match compileShader c .vertex vertex with
  | (.error e, c) => (.error e, c)
  | (.ok first, c) =>
    match compileShader c .fragment fragment with
    | (.error e, c) => (.error e, c.log (.delete .shader first))
    | (.ok second, c) => linkProgram c first second attributes

def createProgram (b : Backend) (vertex fragment : String) (attributes : List (String × UInt32)) :
    Except ProgramError ProgramId × Backend :=
  match buildProgram b.context vertex fragment attributes with
  | (.error e, context) => (.error e, { b with context })
  | (.ok name, context) =>
    { b with context }.identify ProgramId.mk .device fun b id =>
      { b with programs := b.programs.insert id ⟨name, []⟩ }

/-- The place of a uniform; a place that is known is not asked for again. -/
def uniformLocation (b : Backend) (id : ProgramId) (name : String) :
    Option UniformLocation × Backend :=
  match b.programs.get? id with
  | none => (none, b)
  | some p =>
    match p.locations.findIdx? (·.1 == name) with
    | some slot => (some ⟨id, UInt32.ofNat slot⟩, b)
    | none =>
      match b.context.getUniformLocation p.name name with
      | (none, context) => (none, { b with context })
      | (some location, context) =>
        let p' : NativeProgram := { p with locations := p.locations ++ [(name, location)] }
        (some ⟨id, UInt32.ofNat p.locations.length⟩,
          { b with context, programs := b.programs.insert id p' })

def attributeLocation (b : Backend) (id : ProgramId) (name : String) : Option UInt32 × Backend :=
  match b.programs.get? id with
  | none => (none, b)
  | some p =>
    let (slot, context) := b.context.getAttribLocation p.name name
    (slot, { b with context })

def createBuffer (b : Backend) (target : BufferTarget) (data : List UInt8) :
    Except DeviceError BufferId × Backend :=
  match b.context.createObject .buffer with
  | (none, context) => (.error (.buffer (refusal .buffer)), { b with context })
  | (some name, context) =>
    let binding := bufferBinding target
    let context := context.logAll
      [.bindBuffer binding name, .bufferData binding data staticDraw, .bindBuffer binding 0]
    { b with context }.identify BufferId.mk .buffer fun b id =>
      { b with buffers := b.buffers.insert id name }

/-- Textures are neither filtered nor repeated. -/
def textureParameters : List (UInt32 × UInt32) :=
  [(textureMinFilter, nearest), (textureMagFilter, nearest), (textureWrapS, clampToEdge),
    (textureWrapT, clampToEdge)]

def createTexture (b : Backend) (width height : UInt32) (pixels : Option (List UInt8)) :
    Except DeviceError TextureId × Backend :=
  match b.context.createObject .texture with
  | (none, context) => (.error (.texture (refusal .texture)), { b with context })
  | (some name, context) =>
    let context := context.logAll <|
      [.bindTexture texture2d name,
        .texImage texture2d rgba (size width) (size height) unsignedByte pixels.isSome] ++
      (textureParameters.map fun p => .texParameter texture2d p.1 p.2) ++
      [.bindTexture texture2d 0]
    { b with context }.identify TextureId.mk .texture fun b id =>
      { b with textures := b.textures.insert id name }

/-- Makes a framebuffer around a texture, with a renderbuffer for depths. -/
def buildTarget (c : Context) (width height color : UInt32) :
    Except DeviceError NativeTarget × Context :=
  match c.createObject .framebuffer with
  | (none, c) => (.error (.renderTarget (refusal .framebuffer)), c)
  | (some frame, c) =>
    match c.createObject .renderbuffer with
    | (none, c) =>
      (.error (.renderTarget (refusal .renderbuffer)), c.log (.delete .framebuffer frame))
    | (some depth, c) =>
      let c := c.logAll
        [.bindRenderbuffer renderbuffer depth,
          .renderbufferStorage renderbuffer depthComponent16 (size width) (size height),
          .bindFramebuffer framebuffer frame,
          .framebufferTexture framebuffer colorAttachment0 texture2d color,
          .framebufferRenderbuffer framebuffer depthAttachment renderbuffer depth,
          .checkFramebufferStatus framebuffer, .bindFramebuffer framebuffer 0,
          .bindRenderbuffer renderbuffer 0]
      if c.framebufferStatus = framebufferComplete then (.ok ⟨frame, depth⟩, c)
      else
        (.error (.renderTarget
            ("framebuffer incomplete: 0x" ++ plainHex c.framebufferStatus.toNat)),
          c.logAll [.delete .framebuffer frame, .delete .renderbuffer depth])

def createRenderTarget (b : Backend) (width height : UInt32) (color : TextureId) :
    Except DeviceError RenderTargetId × Backend :=
  match b.textures.get? color with
  | none => (.error (.renderTarget ("unknown color texture " ++ color.text)), b)
  | some name =>
    match buildTarget b.context width height name with
    | (.error e, context) => (.error e, { b with context })
    | (.ok target, context) =>
      { b with context }.identify RenderTargetId.mk .renderTarget fun b id =>
        { b with targets := b.targets.insert id target }

/-- Uploads a value to the program that is bound; for any other program it reports. -/
def setUniform (b : Backend) (l : UniformLocation) (value : UniformValue) : Backend :=
  if b.current = some l.program then
    match (b.programs.get? l.program).bind fun p => p.locations[l.slot.toNat]? with
    | some location => b.logAll [uniformCall location.2 value]
    | none => b
  else
    let notice := "uniform upload for program ProgramId(" ++ toString l.program.raw.toNat ++
      ") while another program is bound"
    { b with reversedNotices := notice :: b.reversedNotices }

def bindTexture (b : Backend) (unit : UInt32) (target : TextureTarget) (texture : TextureId) :
    Backend :=
  match b.textures.get? texture with
  | none => b
  | some name =>
    match checkedAdd texture0 unit with
    | .ok unit => b.logAll [.activeTexture unit, .bindTexture (textureBinding target) name]
    | .error f => b.noteFault f

def targetCalls (t : NativeTarget) : List Call :=
  [.delete .framebuffer t.framebuffer, .delete .renderbuffer t.depth]

def submit (b : Backend) : Command → Backend
  | .deleteProgram id =>
    let calls : List Call :=
      (b.programs.get? id).toList.map fun p => .delete .program p.name
    { b.logAll calls with
      programs := b.programs.erase id
      current := if b.current = some id then none else b.current }
  | .useProgram id =>
    match b.programs.get? id with
    | some p => { b.logAll [.useProgram p.name] with current := some id }
    | none => b
  | .setUniform location value => b.setUniform location value
  | .deleteBuffer id =>
    { b.logAll ((b.buffers.get? id).toList.map fun name => .delete .buffer name) with
      buffers := b.buffers.erase id }
  | .bindAttribute id layout =>
    match b.buffers.get? id with
    | some name =>
      b.logAll
        [.bindBuffer arrayBuffer name, .enableVertexAttribArray layout.slot,
          .vertexAttribPointer layout.slot (size layout.components)
            (componentType layout.component) layout.normalized]
    | none => b
  | .disableAttribute slot => b.logAll [.disableVertexAttribArray slot]
  | .bindIndexBuffer id =>
    b.logAll ((b.buffers.get? id).toList.map fun name => .bindBuffer elementArrayBuffer name)
  | .deleteTexture id =>
    { b.logAll ((b.textures.get? id).toList.map fun name => .delete .texture name) with
      textures := b.textures.erase id }
  | .bindTexture unit target texture => b.bindTexture unit target texture
  | .deleteRenderTarget id =>
    { b.logAll ((b.targets.get? id).toList.flatMap targetCalls) with
      targets := b.targets.erase id }
  | .bindRenderTarget target =>
    let name := (target.bind b.targets.get?).map (·.framebuffer)
    b.logAll [.bindFramebuffer framebuffer (name.getD 0)]
  | .setViewport width height => b.logAll [.viewport (size width) (size height)]
  | .clear color depth =>
    let colorBit := if color.isSome then colorBufferBit else 0
    let mask := colorBit ||| if depth then depthBufferBit else 0
    b.logAll <|
      (color.toList.map .clearColor) ++ (if depth then [.clearDepth 1.0] else []) ++
        if mask = 0 then [] else [.clear mask]
  | .drawArrays topology first count =>
    b.logAll [.drawArrays (mode topology) (size first) (size count)]
  | .drawElements topology count type =>
    b.logAll [.drawElements (mode topology) (size count) (indexType type)]

instance : Device Backend where
  maxTextureUnits := maxTextureUnits
  surfaceSize := surfaceSize
  createProgram := createProgram
  uniformLocation := uniformLocation
  attributeLocation := attributeLocation
  createBuffer := createBuffer
  createTexture := createTexture
  createRenderTarget := createRenderTarget
  submit := submit

/-- Deletes whatever the device still owns. -/
def destroy (b : Backend) : Backend :=
  { b.logAll <|
      (b.programs.values.map fun p => .delete .program p.name) ++
        (b.buffers.values.map fun name => .delete .buffer name) ++
        (b.textures.values.map fun name => .delete .texture name) ++
        b.targets.values.flatMap targetCalls with
    programs := .empty
    buffers := .empty
    textures := .empty
    targets := .empty
    current := none }

end Backend

end SceneRenderer.Gl
