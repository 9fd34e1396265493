import SceneRenderer.CommandLine.Arguments
import SceneRenderer.CommandLine.Run
import SceneRenderer.Config
import SceneRenderer.Device.Basic
import SceneRenderer.Device.Codec
import SceneRenderer.Device.Rationed
import SceneRenderer.Device.Recorder
import SceneRenderer.Device.Resource
import SceneRenderer.Fault
import SceneRenderer.File.Folder
import SceneRenderer.Frame.Draw
import SceneRenderer.Frame.GeometryBuffers
import SceneRenderer.Frame.Shadow
import SceneRenderer.Frame.TextureUnits
import SceneRenderer.Frame.Upload
import SceneRenderer.Gl.Backend
import SceneRenderer.Gl.Call
import SceneRenderer.Gl.Codec
import SceneRenderer.Gl.Constant
import SceneRenderer.Gl.Context
import SceneRenderer.Hash.Xxh3
import SceneRenderer.Json.Basic
import SceneRenderer.Json.Codec
import SceneRenderer.Json.Extent
import SceneRenderer.Json.Parser
import SceneRenderer.Listing.Report
import SceneRenderer.Listing.SceneFile
import SceneRenderer.Main
import SceneRenderer.Numeric.Matrix
import SceneRenderer.Numeric.Scalar
import SceneRenderer.Numeric.Shortest
import SceneRenderer.Numeric.Vector
import SceneRenderer.Packing.Normals
import SceneRenderer.Packing.Quantized
import SceneRenderer.Program.Cache
import SceneRenderer.Program.Link
import SceneRenderer.Proofs.Config
import SceneRenderer.Proofs.Device.DecidesBySource
import SceneRenderer.Proofs.Device.DeviceCalls
import SceneRenderer.Proofs.Device.LivePrograms
import SceneRenderer.Proofs.Device.NumberedObjects
import SceneRenderer.Proofs.Device.NumberedPrograms
import SceneRenderer.Proofs.Device.ObjectLedger
import SceneRenderer.Proofs.Device.Observed
import SceneRenderer.Proofs.Device.ReportedNames
import SceneRenderer.Proofs.Device.UniformNames
import SceneRenderer.Proofs.Frame.AttributeBuffers
import SceneRenderer.Proofs.Frame.Canvas
import SceneRenderer.Proofs.Frame.Coverage
import SceneRenderer.Proofs.Frame.DrawnFaces
import SceneRenderer.Proofs.Frame.Freshness
import SceneRenderer.Proofs.Frame.GpuState
import SceneRenderer.Proofs.Frame.Levels
import SceneRenderer.Proofs.Frame.MaterialShape
import SceneRenderer.Proofs.Frame.PassCounts
import SceneRenderer.Proofs.Frame.SamplerPlaces
import SceneRenderer.Proofs.Frame.Setup
import SceneRenderer.Proofs.Frame.ShadowFreshness
import SceneRenderer.Proofs.Frame.SharedSetup
import SceneRenderer.Proofs.Frame.SortedBatches
import SceneRenderer.Proofs.Frame.StateDiffing
import SceneRenderer.Proofs.Frame.TextureKinds
import SceneRenderer.Proofs.Frame.UnitCycle
import SceneRenderer.Proofs.Frame.UnitLimit
import SceneRenderer.Proofs.Frame.UploadTypes
import SceneRenderer.Proofs.Gl.Balance
import SceneRenderer.Proofs.Gl.Histories
import SceneRenderer.Proofs.Gl.ObjectLog
import SceneRenderer.Proofs.Gl.Programs
import SceneRenderer.Proofs.Gl.UniformUploads
import SceneRenderer.Proofs.Json.LawfulCodec
import SceneRenderer.Proofs.Listing.Grouping
import SceneRenderer.Proofs.Listing.LoadedScenes
import SceneRenderer.Proofs.Numeric.Exact
import SceneRenderer.Proofs.Numeric.Finite
import SceneRenderer.Proofs.Numeric.Precision
import SceneRenderer.Proofs.Numeric.WholeNumbers
import SceneRenderer.Proofs.Packing.Octahedral
import SceneRenderer.Proofs.Packing.Quantized
import SceneRenderer.Proofs.Packing.VertexNormals
import SceneRenderer.Proofs.Program.Accounts
import SceneRenderer.Proofs.Program.Arena
import SceneRenderer.Proofs.Program.BuiltPrograms
import SceneRenderer.Proofs.Program.CacheRefinement
import SceneRenderer.Proofs.Program.CacheSound
import SceneRenderer.Proofs.Program.CacheTrace
import SceneRenderer.Proofs.Program.UseCounts
import SceneRenderer.Proofs.Registry
import SceneRenderer.Proofs.Renderer.Balance
import SceneRenderer.Proofs.Renderer.CacheSteps
import SceneRenderer.Proofs.Renderer.CompileOutcome
import SceneRenderer.Proofs.Renderer.Consistent
import SceneRenderer.Proofs.Renderer.Drawings
import SceneRenderer.Proofs.Renderer.FrameCounts
import SceneRenderer.Proofs.Renderer.Frames
import SceneRenderer.Proofs.Renderer.FreshUniforms
import SceneRenderer.Proofs.Renderer.GeometryUsers
import SceneRenderer.Proofs.Renderer.HandedGeometries
import SceneRenderer.Proofs.Renderer.LoneDrawables
import SceneRenderer.Proofs.Renderer.MainPass
import SceneRenderer.Proofs.Renderer.OwnedObjects
import SceneRenderer.Proofs.Renderer.Ownership
import SceneRenderer.Proofs.Renderer.Reachable
import SceneRenderer.Proofs.Renderer.Recompiling
import SceneRenderer.Proofs.Renderer.RefusedChanges
import SceneRenderer.Proofs.Renderer.SampledTextures
import SceneRenderer.Proofs.Renderer.ShadowDraws
import SceneRenderer.Proofs.Renderer.ShadowMaps
import SceneRenderer.Proofs.Renderer.Slots
import SceneRenderer.Proofs.Renderer.Standing
import SceneRenderer.Proofs.Renderer.SyncedMaps
import SceneRenderer.Proofs.Renderer.TypedPasses
import SceneRenderer.Proofs.Renderer.UpToDate
import SceneRenderer.Proofs.Renderer.Uploading
import SceneRenderer.Proofs.Renderer.Uploads
import SceneRenderer.Proofs.Renderer.VisitOrder
import SceneRenderer.Proofs.Scene.Codec
import SceneRenderer.Proofs.Scene.NormalMatrix
import SceneRenderer.Proofs.Shader.Body
import SceneRenderer.Proofs.Shader.CallOrder
import SceneRenderer.Proofs.Shader.CanonicalKey
import SceneRenderer.Proofs.Shader.Chunks
import SceneRenderer.Proofs.Shader.Classified
import SceneRenderer.Proofs.Shader.DeclaredTypes
import SceneRenderer.Proofs.Shader.DeclaredUniforms
import SceneRenderer.Proofs.Shader.DefinitionLines
import SceneRenderer.Proofs.Shader.Definitions
import SceneRenderer.Proofs.Shader.FilterNumbers
import SceneRenderer.Proofs.Shader.FiniteLiterals
import SceneRenderer.Proofs.Shader.ForeignWords
import SceneRenderer.Proofs.Shader.FragmentScope
import SceneRenderer.Proofs.Shader.Globals
import SceneRenderer.Proofs.Shader.GlobalsUsed
import SceneRenderer.Proofs.Shader.HashedText
import SceneRenderer.Proofs.Shader.Identifier
import SceneRenderer.Proofs.Shader.InertText
import SceneRenderer.Proofs.Shader.Interface
import SceneRenderer.Proofs.Shader.KeyEncoding
import SceneRenderer.Proofs.Shader.LightBlocks
import SceneRenderer.Proofs.Shader.LightingScope
import SceneRenderer.Proofs.Shader.MainScope
import SceneRenderer.Proofs.Shader.Normalized
import SceneRenderer.Proofs.Shader.Outlines
import SceneRenderer.Proofs.Shader.Passages
import SceneRenderer.Proofs.Shader.PlainLines
import SceneRenderer.Proofs.Shader.Recovery
import SceneRenderer.Proofs.Shader.Reflectance
import SceneRenderer.Proofs.Shader.ScopeCheck
import SceneRenderer.Proofs.Shader.Scoped
import SceneRenderer.Proofs.Shader.ScopedPrograms
import SceneRenderer.Proofs.Shader.Section
import SceneRenderer.Proofs.Shader.SectionScope
import SceneRenderer.Proofs.Shader.ShadowFilter
import SceneRenderer.Proofs.Shader.Signature
import SceneRenderer.Proofs.Shader.Statements
import SceneRenderer.Proofs.Shader.Structure
import SceneRenderer.Proofs.Shader.Symbols
import SceneRenderer.Proofs.Shader.Tokens
import SceneRenderer.Proofs.Shader.UniformCounts
import SceneRenderer.Proofs.Shader.VertexScope
import SceneRenderer.Proofs.Shader.Visibility
import SceneRenderer.Proofs.Shader.Vocabulary
import SceneRenderer.Proofs.Shader.WellFormed
import SceneRenderer.Proofs.Text.Cut
import SceneRenderer.Proofs.Toml.Documents
import SceneRenderer.Proofs.Toml.Libraries
import SceneRenderer.Proofs.Toml.Lines
import SceneRenderer.Proofs.Toml.Words
import SceneRenderer.Registry
import SceneRenderer.Renderer.Basic
import SceneRenderer.Renderer.Codec
import SceneRenderer.Renderer.Compile
import SceneRenderer.Renderer.Render
import SceneRenderer.Scene.Codec.Material
import SceneRenderer.Scene.Codec.Scene
import SceneRenderer.Scene.Geometry
import SceneRenderer.Scene.Id
import SceneRenderer.Scene.Light
import SceneRenderer.Scene.Material
import SceneRenderer.Scene.State
import SceneRenderer.Shader.Classify
import SceneRenderer.Shader.Codec
import SceneRenderer.Shader.Features
import SceneRenderer.Shader.Fragment
import SceneRenderer.Shader.Key
import SceneRenderer.Shader.KeyText
import SceneRenderer.Shader.Name
import SceneRenderer.Shader.Options
import SceneRenderer.Shader.Prelude
import SceneRenderer.Shader.Record
import SceneRenderer.Shader.Reflectance
import SceneRenderer.Shader.Source
import SceneRenderer.Shader.Stage
import SceneRenderer.Shader.Vertex
import SceneRenderer.Text.Basic
import SceneRenderer.Toml.Basic
import SceneRenderer.Toml.Parser
import SceneRenderer.Toml.Record
import SceneRenderer.Toml.Scalar
