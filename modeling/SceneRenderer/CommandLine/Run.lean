import SceneRenderer.CommandLine.Arguments

/-!
What the command line answers, given a way to read files.
-/

set_option autoImplicit false
set_option relaxedAutoImplicit false

namespace SceneRenderer.CommandLine

/-- What is written, and the exit code. -/
structure Response where
  code : UInt8
  output : List String
  errors : List String
deriving Repr, DecidableEq, Inhabited

def Response.failure (message : String) : Response := ⟨1, [], ["Error: " ++ message]⟩

/-- A program that stopped in the middle. -/
def Response.fault (f : Fault) : Response := ⟨101, [], ["Fault: " ++ f.message]⟩

/-- The name of the program with its version. -/
def versionLine : String := "scenegl 0.1.0"

def configLine (gap : String) : String :=
  "  -c, --config <CONFIG>" ++ gap ++
    "Renderer configuration (TOML); defaults apply when omitted"

/-- The explanation of a topic. -/
def helpLines : Topic → List String
  | .program =>
    ["Inspect the shader programs scenegl generates for a scene",
      "",
      "Usage: scenegl <COMMAND>",
      "",
      "Commands:",
      "  dump  Print the synthesized GLSL of every program in the scene",
      "  keys  Print program keys and the drawables sharing each program",
      "  help  Print this message or the help of the given subcommand(s)",
      "",
      "Options:",
      "  -h, --help     Print help",
      "  -V, --version  Print version"]
  | .command .dump =>
    ["Print the synthesized GLSL of every program in the scene",
      "",
      "Usage: scenegl dump [OPTIONS] <SCENE>",
      "",
      "Arguments:",
      "  <SCENE>  Path to the scene JSON file",
      "",
      "Options:",
      configLine "      ",
      "  -s, --stage <STAGE>        Which shader stage(s) to print [default: both] " ++
        "[possible values: vertex, fragment, both]",
      "  -d, --drawable <DRAWABLE>  Only print the program of this drawable",
      "  -h, --help                 Print help"]
  | .command .keys =>
    ["Print program keys and the drawables sharing each program",
      "",
      "Usage: scenegl keys [OPTIONS] <SCENE>",
      "",
      "Arguments:",
      "  <SCENE>  Path to the scene JSON file",
      "",
      "Options:",
      configLine "  ",
      "  -v, --verbose          Print the full key instead of a summary",
      "  -h, --help             Print help"]
  | .help =>
    ["Print this message or the help of the given subcommand(s)",
      "",
      "Usage: scenegl help [COMMAND]...",
      "",
      "Arguments:",
      "  [COMMAND]...  Print help for the subcommand(s)"]

def Response.ofReport (r : Report) : Response :=
  match r.error with
  | none => ⟨0, r.lines, r.notices⟩
  | some e => ⟨1, r.lines, r.notices ++ ["Error: " ++ e]⟩

/-- The configuration of a file, given what came of reading it. -/
def loadConfig (path : String) (content : ReadResult) : Except ConfigError RendererConfig :=
  match content with
  | .ok text => RendererConfig.ofToml text
  | .error failure => .error (.unreadable path failure)

def listScene (listing : Listing) (file : SceneFile) (config : RendererConfig) : Response :=
  match LoadedScene.ofFile file config with
  | .error f => .fault f
  | .ok (.error e) => .failure e.message
  | .ok (.ok s) =>
    match listing with
    | .dump stage drawable => .ofReport (s.dump stage (drawable.map .mk))
    | .keys verbose => .ofReport (s.keys verbose)

def loadScene (request : Request) (config : RendererConfig) (content : ReadResult) : Response :=
  match content with
  | .error _ => .failure ("Failed to read scene file: " ++ request.scene)
  | .ok text =>
    match SceneFile.ofText? text with
    | none => .failure ("In " ++ request.scene)
    | some file => listScene request.listing file config

section Reading

variable {m : Type → Type} [Monad m]

/-- Answers a request; the configuration is read before the scene. A file that cannot be read gives
the reason. -/
def Request.respond (readFile : String → m ReadResult) (r : Request) : m Response := do
  let config ←
    match r.config with
    | none => pure (.ok .standard)
    | some path => loadConfig path <$> readFile path
  match config with
  | .error e => return .failure e.message
  | .ok config => loadScene r config <$> readFile r.scene

/-- Answers a command line. -/
def run (readFile : String → m ReadResult) (arguments : List String) : m Response :=
  match invocation arguments with
  | .list request => request.respond readFile
  | .explain topic => pure ⟨0, helpLines topic, []⟩
  | .version => pure ⟨0, [versionLine], []⟩
  | .refuse .missingCommand => pure ⟨2, [], helpLines .program⟩
  | .refuse e => pure ⟨2, [], ["error: " ++ e.message, "", "For more information, try '--help'."]⟩

end Reading

end SceneRenderer.CommandLine
