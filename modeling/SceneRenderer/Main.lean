import SceneRenderer.CommandLine.Run

/-!
The command line.
-/

set_option autoImplicit false
set_option relaxedAutoImplicit false

namespace SceneRenderer

/-- The text of a file, or why it cannot be read. -/
def readFile (path : String) : IO ReadResult := do
  try
    return .ok (← IO.FS.readFile path)
  catch
    | .noFileOrDirectory _ _ _ => return .error .noSuchFile
    | .inappropriateType _ code reason =>
      return .error (.other (ReadFailure.systemMessage reason code.toNat))
    | e => return .error (.other (toString e))

end SceneRenderer

def main (arguments : List String) : IO UInt32 := do
  let response ← SceneRenderer.CommandLine.run SceneRenderer.readFile arguments
  for line in response.output do
    IO.println line
  for line in response.errors do
    IO.eprintln line
  return response.code.toUInt32
