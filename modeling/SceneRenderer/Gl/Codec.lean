import SceneRenderer.Device.Codec
import SceneRenderer.Gl.Call
import SceneRenderer.Gl.Context
import SceneRenderer.Text.Basic

/-!
Logged calls in JSON, each an array of the name of the function and its arguments; and the failures
that a context is set to.
-/

set_option autoImplicit false
set_option relaxedAutoImplicit false

namespace SceneRenderer.Gl

open Codec

def ObjectKind.all : List ObjectKind :=
  [shader, program, buffer, texture, framebuffer, renderbuffer]

def ObjectKind.jsonName : ObjectKind → String
  | shader => "shader"
  | program => "program"
  | buffer => "buffer"
  | texture => "texture"
  | framebuffer => "framebuffer"
  | renderbuffer => "renderbuffer"

instance : Codec ObjectKind where
  write k := .string k.jsonName
  read
    | .string name => ObjectKind.all.find? (·.jsonName == name)
    | _ => none

def ObjectKind.isSingle : ObjectKind → Bool
  | shader | program => true
  | _ => false

/-- Shaders and programs are made and deleted one at a time, the others in groups. -/
def ObjectKind.createName (k : ObjectKind) : String :=
  if k.isSingle then "glCreate" ++ k.title else "glGen" ++ k.title ++ "s"

def ObjectKind.deleteName (k : ObjectKind) : String :=
  if k.isSingle then "glDelete" ++ k.title else "glDelete" ++ k.title ++ "s"

def signed (n : Int32) : Json := .integer n.toInt

def flag (b : Bool) : Json := .integer (if b then 1 else 0)

def number (x : Float32) : Json := .float (widen x)

def words (ws : List UInt32) : List Json := ws.map write

/-- The name of the function and the arguments. -/
def Call.entry : Call → String × List Json
  | enable capability => ("glEnable", words [capability])
  | createShader type name => ("glCreateShader", words [type, name])
  | create kind name => (kind.createName, words [name])
  | delete kind name => (kind.deleteName, words [name])
  | shaderSource shader text => ("glShaderSource", [write shader, .string text])
  | compileShader shader => ("glCompileShader", words [shader])
  | attachShader program shader => ("glAttachShader", words [program, shader])
  | detachShader program shader => ("glDetachShader", words [program, shader])
  | bindAttribLocation program slot name =>
    ("glBindAttribLocation", [write program, write slot, .string name])
  | linkProgram program => ("glLinkProgram", words [program])
  | useProgram program => ("glUseProgram", words [program])
  | getUniformLocation program name => ("glGetUniformLocation", [write program, .string name])
  | getAttribLocation program name => ("glGetAttribLocation", [write program, .string name])
  | uniformInt location value => ("glUniform1i", [signed location, signed value])
  | uniformFloats location values =>
    ("glUniform" ++ toString values.length ++ "f", signed location :: values.map number)
  | uniformMatrix location order entries =>
    ("glUniformMatrix" ++ toString order ++ "fv",
      [signed location, .integer 1, flag false, .array (entries.map number)])
  | bindBuffer target buffer => ("glBindBuffer", words [target, buffer])
  | bufferData target data usage =>
    ("glBufferData",
      [write target, .integer data.length, .string (hexText data), write usage])
  | enableVertexAttribArray slot => ("glEnableVertexAttribArray", words [slot])
  | vertexAttribPointer slot size type normalized =>
    ("glVertexAttribPointer",
      [write slot, signed size, write type, flag normalized, .integer 0, .integer 0])
  | disableVertexAttribArray slot => ("glDisableVertexAttribArray", words [slot])
  | activeTexture unit => ("glActiveTexture", words [unit])
  | bindTexture target texture => ("glBindTexture", words [target, texture])
  | texImage target format width height type hasPixels =>
    ("glTexImage2D",
      [write target, .integer 0, write format, signed width, signed height, .integer 0,
        write format, write type, write hasPixels])
  | texParameter target parameter value => ("glTexParameteri", words [target, parameter, value])
  | bindRenderbuffer target renderbuffer => ("glBindRenderbuffer", words [target, renderbuffer])
  | renderbufferStorage target format width height =>
    ("glRenderbufferStorage", [write target, write format, signed width, signed height])
  | bindFramebuffer target framebuffer => ("glBindFramebuffer", words [target, framebuffer])
  | framebufferTexture target attachment textarget texture =>
    ("glFramebufferTexture2D", words [target, attachment, textarget, texture, 0])
  | framebufferRenderbuffer target attachment renderbufferTarget renderbuffer =>
    ("glFramebufferRenderbuffer", words [target, attachment, renderbufferTarget, renderbuffer])
  | checkFramebufferStatus target => ("glCheckFramebufferStatus", words [target])
  | viewport width height => ("glViewport", [.integer 0, .integer 0, signed width, signed height])
  | clearColor color => ("glClearColor", color.toList.map number)
  | clearDepth depth => ("glClearDepthf", [number depth])
  | clear mask => ("glClear", words [mask])
  | drawArrays mode first count => ("glDrawArrays", [write mode, signed first, signed count])
  | drawElements mode count type =>
    ("glDrawElements", [write mode, signed count, write type, .integer 0])

def Call.toJson (c : Call) : Json := .array (.string c.entry.1 :: c.entry.2)

/-- How many objects of the kinds that are named are made before one is refused. -/
def refusals? : Json → Option (Registry ObjectKind Nat)
  | .object fields => Registry.ofList <$> fields.mapM fun f => do
    let count : UInt32 ← read f.2
    return (← read (.string f.1), count.toNat)
  | _ => none

/-- The context with what an object names set anew. -/
def Context.prepared? (c : Context) (j : Json) : Option Context := do
  let refusals ←
    match j.get? "zero" with
    | none => some c.refusals
    | some table => refusals? table
  return { c with
    failingStage := ← orElse c.failingStage (j.get? "compile")
    failingLink := ← orElse c.failingLink (j.get? "link")
    info := ← orElse c.info (j.get? "info")
    framebufferStatus := ← orElse c.framebufferStatus (j.get? "status")
    activeUniforms := ← orElse c.activeUniforms (j.get? "uniforms")
    refusals }

end SceneRenderer.Gl
