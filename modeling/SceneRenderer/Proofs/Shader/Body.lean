import SceneRenderer.Proofs.Shader.DefinitionLines
import SceneRenderer.Shader.Fragment
import SceneRenderer.Shader.Source

/-!
The lines that records add to the main function, and the features that show only there: whether the
vertex stage drops the displacement or the rotation of a matrix, and how the fragment stage decodes
colors and encodes its output.
-/

set_option autoImplicit false
set_option relaxedAutoImplicit false

namespace SceneRenderer.Shader

open Shader.Record Name

/-- The lines that records add to the main function. -/
def bodyLines (depth : Nat) (records : List Record) : List String :=
  statementLines depth (records.map Record.toCall)

/-- The depth that records leave. -/
def bodyDepth (depth : Nat) (records : List Record) : Nat :=
  depthAfter depth (records.map Record.toCall)

theorem Line.text_literal_inj {s t : String} (h : Line.text [.literal s] = Line.text [.literal t]) :
    s = t := by
  simpa [Line.text, Piece.text] using h

theorem indent_inj {depth : Nat} {line line' : String}
    (h : indent depth line = indent depth line') :
    line = line' := by
  simpa [indent, String.append_right_inj] using h

theorem bodyLines_append (depth : Nat) (front back : List Record) :
    bodyLines depth (front ++ back) =
      bodyLines depth front ++ bodyLines (bodyDepth depth front) back := by
  rw [bodyLines, List.map_append, statementLines_append]
  rfl

theorem bodyDepth_append (depth : Nat) (front back : List Record) :
    bodyDepth depth (front ++ back) = bodyDepth (bodyDepth depth front) back := by
  simp [bodyDepth, depthAfter]

theorem bodyDepth_onlyIf {depth : Nat} {records : List Record}
    (hdepth : bodyDepth depth records = depth) (enabled : Bool) :
    bodyDepth depth (onlyIf enabled records) = depth := by
  cases enabled
  · rfl
  · exact hdepth

/-- Records in blocks of their own add their lines one block after the other. -/
theorem bodyLines_flatMap {α : Type} {depth : Nat} {l : List α} {f : α → List Record}
    (hdepth : ∀ x ∈ l, bodyDepth depth (f x) = depth) :
    bodyLines depth (l.flatMap f) = l.flatMap fun x ↦ bodyLines depth (f x) := by
  induction l with
  | nil => rfl
  | cons x rest ih =>
    rw [List.flatMap_cons, List.flatMap_cons, bodyLines_append, hdepth x List.mem_cons_self,
      ih fun y hy ↦ hdepth y (List.mem_cons_of_mem _ hy)]

theorem bodyDepth_flatMap {α : Type} {depth : Nat} {l : List α} {f : α → List Record}
    (hdepth : ∀ x ∈ l, bodyDepth depth (f x) = depth) : bodyDepth depth (l.flatMap f) = depth := by
  induction l with
  | nil => rfl
  | cons x rest ih =>
    rw [List.flatMap_cons, bodyDepth_append, hdepth x List.mem_cons_self,
      ih fun y hy ↦ hdepth y (List.mem_cons_of_mem _ hy)]

/-! ### Placing a vertex -/

section Position

variable (quantized : Bool) (billboard billboard' : Billboard) (stationary stationary' : Bool)

/-- The fourth line drops the displacement of the camera, if anything does. -/
theorem getElem?_bodyLines_positionRecords :
    (bodyLines 1 (positionRecords quantized billboard stationary))[3]? =
      some (indent 1 (Line.text [.literal
        (if stationary then "viewMatrix2[3][0] = viewMatrix2[3][1] = viewMatrix2[3][2] = 0.0;"
        else if billboard = .none then "vec4 worldPosition = modelMatrix2 * localPosition;"
        else "billboard(modelMatrix2);")])) := by
  cases quantized <;> cases billboard <;> cases stationary <;> rfl

/-- The line after that drops the rotation of the model matrix, if anything does. -/
theorem getElem?_succ_bodyLines_positionRecords :
    (bodyLines 1 (positionRecords quantized billboard true))[4]? =
      some (indent 1 (Line.text [.literal
        (if billboard = .none then "vec4 worldPosition = modelMatrix2 * localPosition;"
        else "billboard(modelMatrix2);")])) := by
  cases quantized <;> cases billboard <;> rfl

variable {quantized billboard billboard' stationary stationary'}

/-- The lines that place a vertex tell whether it is stationary and whether it is a billboard. -/
theorem bodyLines_positionRecords_inj {rest rest' : List String}
    (h : bodyLines 1 (positionRecords quantized billboard stationary) ++ rest =
      bodyLines 1 (positionRecords quantized billboard' stationary') ++ rest') :
    stationary = stationary' ∧ (billboard = .none ↔ billboard' = .none) := by
  have hlength (b : Billboard) (s : Bool) :
      4 < (bodyLines 1 (positionRecords quantized b s)).length := by
    cases quantized <;> cases b <;> cases s <;> decide
  have hget (i : Nat) (hi : i ≤ 4) :
      (bodyLines 1 (positionRecords quantized billboard stationary))[i]? =
        (bodyLines 1 (positionRecords quantized billboard' stationary'))[i]? := by
    rw [← List.getElem?_append_left (hi.trans_lt (hlength _ _)), h,
      List.getElem?_append_left (hi.trans_lt (hlength _ _))]
  have hfourth := hget 3 (by decide)
  rw [getElem?_bodyLines_positionRecords, getElem?_bodyLines_positionRecords, Option.some_inj]
    at hfourth
  have htext := Line.text_literal_inj (indent_inj hfourth)
  have hstationary : stationary = stationary' := by
    cases stationary <;> cases stationary' <;>
      by_cases hb : billboard = .none <;> by_cases hb' : billboard' = .none <;>
      simp [hb, hb'] at htext ⊢
  subst hstationary
  refine ⟨rfl, ?_⟩
  cases stationary with
  | false =>
    by_cases hb : billboard = .none <;> by_cases hb' : billboard' = .none <;>
      simp [hb, hb'] at htext ⊢
  | true =>
    have hfifth := hget 4 le_rfl
    rw [getElem?_succ_bodyLines_positionRecords, getElem?_succ_bodyLines_positionRecords,
      Option.some_inj] at hfifth
    have htext := Line.text_literal_inj (indent_inj hfifth)
    by_cases hb : billboard = .none <;> by_cases hb' : billboard' = .none <;>
      simp [hb, hb'] at htext ⊢

end Position

/-- The main function of the vertex stage starts with placing the vertex. -/
theorem bodyLines_vertexRecords (c : Features) (o : ShaderOptions) : ∃ rest,
    bodyLines 1 (vertexRecords c o) =
      bodyLines 1 (positionRecords c.quantized c.billboard c.stationary) ++ rest := by
  obtain ⟨rest, hrest⟩ : ∃ rest, vertexRecords c o = [precisionRecord o] ++
      (positionRecords c.quantized c.billboard c.stationary ++ rest) := by
    simp only [vertexRecords, List.cons_append, List.append_assoc, List.nil_append]
    exact ⟨_, rfl⟩
  rw [hrest, bodyLines_append, bodyLines_append]
  exact ⟨_, rfl⟩

theorem bodyLines_depthVertexRecords (d : DepthFeatures) (o : ShaderOptions) : ∃ rest,
    bodyLines 1 (depthVertexRecords d o) =
      bodyLines 1 (positionRecords d.quantized d.billboard d.stationary) ++ rest := by
  obtain ⟨rest, hrest⟩ : ∃ rest, depthVertexRecords d o = [precisionRecord o] ++
      (positionRecords d.quantized d.billboard d.stationary ++ rest) := by
    simp only [depthVertexRecords, List.cons_append, List.append_assoc, List.nil_append]
    exact ⟨_, rfl⟩
  rw [hrest, bodyLines_append, bodyLines_append]
  exact ⟨_, rfl⟩

/-! ### Colors -/

theorem bodyDepth_vertexColorRecords (depth : Nat) (c : Features) :
    bodyDepth depth (vertexColorRecords c) = depth := by
  unfold vertexColorRecords
  cases c.gammaInput <;> rfl

theorem length_bodyLines_vertexColorRecords (depth : Nat) (c : Features) :
    (bodyLines depth (vertexColorRecords c)).length = 3 := by
  unfold vertexColorRecords
  cases c.gammaInput <;> rfl

/-- The line that reads the color of a vertex tells whether it is decoded. -/
theorem bodyLines_vertexColorRecords_inj {depth : Nat} {c d : Features}
    (h : bodyLines depth (vertexColorRecords c) = bodyLines depth (vertexColorRecords d)) :
    c.gammaInput = d.gammaInput := by
  have hfirst (e : Features) : (bodyLines depth (vertexColorRecords e))[0]? =
      some (indent depth (if e.gammaInput then
        Line.text ["vec4 vertexColor = gammaToLinear(", vColor, ", ", gammaFactor, ");"]
        else Line.text ["vec4 vertexColor = ", vColor, ";"])) := by
    unfold vertexColorRecords
    cases e.gammaInput <;> rfl
  have htext := hfirst c
  rw [h, hfirst d, Option.some_inj] at htext
  have htext := indent_inj htext
  cases hc : c.gammaInput <;> cases hd : d.gammaInput <;>
    simp [hc, hd, Line.text, Piece.text, Name.text] at htext ⊢

/-- The last line tells whether the output is encoded. -/
theorem bodyLines_outputRecords_inj {depth : Nat} {c d : Features}
    (h : bodyLines depth (outputRecords c) = bodyLines depth (outputRecords d)) :
    c.gammaOutput = d.gammaOutput := by
  have hlast (e : Features) : (bodyLines depth (outputRecords e))[0]? =
      some (indent depth (if e.gammaOutput then
        Line.text ["gl_FragColor = linearToGamma(vec4(outgoingLight, alpha), ", gammaFactor, ");"]
        else Line.text ["gl_FragColor = vec4(outgoingLight, alpha);"])) := by
    unfold outputRecords
    cases e.gammaOutput <;> rfl
  have htext := hlast c
  rw [h, hlast d, Option.some_inj] at htext
  have htext := indent_inj htext
  cases hc : c.gammaOutput <;> cases hd : d.gammaOutput <;>
    simp [hc, hd, Line.text, Piece.text, Name.text] at htext ⊢

/-! ### Textures -/

section Texture

variable (depth : Nat) (model : ShadingModel) (channel : TextureChannel) (feature : TextureFeature)

theorem bodyDepth_textureRecords :
    bodyDepth depth (textureRecords model channel feature) = depth := by
  obtain ⟨encoding, hasMatrix⟩ := feature
  cases channel <;> cases encoding <;> cases hasMatrix <;> rfl

theorem length_bodyLines_textureRecords :
    (bodyLines depth (textureRecords model channel feature)).length =
      (bodyLines depth (texelEffectRecords model channel)).length + 2 := by
  obtain ⟨encoding, hasMatrix⟩ := feature
  cases channel <;> cases encoding <;> cases hasMatrix <;> rfl

/-- The second line of a texture reads and decodes its texel. -/
theorem getElem?_bodyLines_textureRecords :
    (bodyLines depth (textureRecords model channel feature))[1]? =
      some (indent depth (match feature.encoding with
        | .linear => Line.text ["vec4 ", texel channel, " = linearToLinear(texture2D(",
            textureMap channel, ", ", textureUv channel, "));"]
        | .srgb => Line.text ["vec4 ", texel channel, " = sRGBToLinear(texture2D(",
            textureMap channel, ", ", textureUv channel, "));"]
        | .gamma => Line.text ["vec4 ", texel channel, " = gammaToLinear(texture2D(",
            textureMap channel, ", ", textureUv channel, "), ", gammaFactor, ");"])) := by
  obtain ⟨encoding, hasMatrix⟩ := feature
  cases encoding <;> cases hasMatrix <;> rfl

variable {depth model channel feature}

/-- The lines of a texture tell its encoding. -/
theorem bodyLines_textureRecords_inj {feature' : TextureFeature}
    (h : bodyLines depth (textureRecords model channel feature) =
      bodyLines depth (textureRecords model channel feature')) :
    feature.encoding = feature'.encoding := by
  have htexel := getElem?_bodyLines_textureRecords depth model channel feature
  rw [h, getElem?_bodyLines_textureRecords, Option.some_inj] at htexel
  have htext := indent_inj htexel
  cases hencoding : feature.encoding <;> cases hencoding' : feature'.encoding <;>
    simp [hencoding, hencoding', Line.text, Piece.text, String.ext_iff] at htext ⊢

end Texture

/-- The records of a channel, if it has a texture. -/
def channelRecords (model : ShadingModel) (textures : TextureFlags) (channel : TextureChannel) :
    List Record :=
  (textures.get channel).elim [] (textureRecords model channel)

theorem flatMap_toList (model : ShadingModel) (textures : TextureFlags) :
    (textures.toList.flatMap fun t ↦ textureRecords model t.1 t.2) =
      TextureChannel.all.flatMap (channelRecords model textures) := by
  rw [TextureFlags.toList]
  induction TextureChannel.all with
  | nil => rfl
  | cons channel rest ih =>
    rw [List.filterMap_cons, List.flatMap_cons, channelRecords]
    cases textures.get channel with
    | none => exact ih
    | some feature => exact congrArg (textureRecords model channel feature ++ ·) ih

theorem texturesRecords_eq {c : Features} (hsampled : c.sampledTextures = c.textures.toList) :
    texturesRecords c = onlyIf c.usesUv
      ([varying .vec2 vUV,
        statement ["vec4 texturePos = vec4(", vUV, ".s, ", vUV, ".t, 1.0, 1.0);"]] ++
        TextureChannel.all.flatMap (channelRecords c.model c.textures)) := by
  rw [texturesRecords, hsampled, flatMap_toList]

theorem bodyDepth_channelRecords (depth : Nat) (model : ShadingModel) (textures : TextureFlags)
    (channel : TextureChannel) :
    bodyDepth depth (channelRecords model textures channel) = depth := by
  unfold channelRecords
  cases textures.get channel with
  | none => rfl
  | some feature => exact bodyDepth_textureRecords depth model channel feature

theorem length_bodyLines_channelRecords {depth : Nat} {model : ShadingModel} {t u : TextureFlags}
    {channel : TextureChannel} (hcontains : t.contains channel = u.contains channel) :
    (bodyLines depth (channelRecords model t channel)).length =
      (bodyLines depth (channelRecords model u channel)).length := by
  rw [TextureFlags.contains, TextureFlags.contains] at hcontains
  unfold channelRecords
  cases ht : t.get channel <;> cases hu : u.get channel <;>
    simp_all [length_bodyLines_textureRecords]

/-- The lines of all textures tell the encodings, given which channels have one. -/
theorem bodyLines_channelRecords_inj {depth : Nat} {model : ShadingModel} {t u : TextureFlags}
    (hcontains : ∀ channel, t.contains channel = u.contains channel)
    (h : bodyLines depth (TextureChannel.all.flatMap (channelRecords model t)) =
      bodyLines depth (TextureChannel.all.flatMap (channelRecords model u)))
    {channel : TextureChannel} {feature feature' : TextureFeature}
    (hget : t.get channel = some feature) (hget' : u.get channel = some feature') :
    feature.encoding = feature'.encoding := by
  have hchannel : channel ∈ TextureChannel.all := by cases channel <;> decide
  rw [bodyLines_flatMap fun x _ ↦ bodyDepth_channelRecords depth model t x,
    bodyLines_flatMap fun x _ ↦ bodyDepth_channelRecords depth model u x] at h
  have hblock := Text.flatMap_inj (fun x _ ↦ length_bodyLines_channelRecords (hcontains x)) h
    channel hchannel
  simp only [channelRecords, hget, hget', Option.elim_some] at hblock
  exact bodyLines_textureRecords_inj hblock

section Textures

variable {c d : Features} {depth : Nat}

theorem bodyDepth_texturesRecords (hc : c.sampledTextures = c.textures.toList) :
    bodyDepth depth (texturesRecords c) = depth := by
  rw [texturesRecords_eq hc]
  refine bodyDepth_onlyIf ?_ _
  rw [bodyDepth_append]
  exact bodyDepth_flatMap fun channel _ ↦ bodyDepth_channelRecords depth c.model c.textures channel

variable (hc : c.sampledTextures = c.textures.toList) (hd : d.sampledTextures = d.textures.toList)
  (huv : c.usesUv = d.usesUv) (hmodel : c.model = d.model)
  (hcontains : ∀ channel, c.textures.contains channel = d.textures.contains channel)

include hc hd huv hmodel hcontains

theorem length_bodyLines_texturesRecords :
    (bodyLines depth (texturesRecords c)).length =
    (bodyLines depth (texturesRecords d)).length := by
  rw [texturesRecords_eq hc, texturesRecords_eq hd, huv, hmodel]
  cases d.usesUv with
  | false => rfl
  | true =>
    simp only [onlyIf, if_true, bodyLines_append, List.length_append]
    rw [bodyLines_flatMap fun x _ ↦ bodyDepth_channelRecords _ d.model c.textures x,
      bodyLines_flatMap fun x _ ↦ bodyDepth_channelRecords _ d.model d.textures x,
      List.length_flatMap, List.length_flatMap]
    refine congrArg (_ + List.sum ·) (List.map_congr_left fun channel _ ↦ ?_)
    exact length_bodyLines_channelRecords (hcontains channel)

/-- The lines of all textures tell their encodings, given which channels have one. -/
theorem bodyLines_texturesRecords_inj
    (h : bodyLines depth (texturesRecords c) = bodyLines depth (texturesRecords d))
    (hsome : c.usesUv = true) {channel : TextureChannel} {feature feature' : TextureFeature}
    (hget : c.textures.get channel = some feature)
    (hget' : d.textures.get channel = some feature') :
    feature.encoding = feature'.encoding := by
  rw [texturesRecords_eq hc, texturesRecords_eq hd, ← huv, hsome, ← hmodel] at h
  simp only [onlyIf, if_true, bodyLines_append] at h
  exact bodyLines_channelRecords_inj hcontains (List.append_cancel_left h) hget hget'

end Textures

/-! ### The parts of the fragment stage -/

/-- What the fragment stage does before it reads the color of the vertex. -/
def openingRecords (c : Features) (o : ShaderOptions) : List Record :=
  onlyIf (c.samples .normal) [directive "#extension GL_OES_standard_derivatives : enable"] ++
  precisionRecord o ::
  onlyIf c.isShaded mathDirectives ++
  clipRecords c ++
  onlyIf (c.isPoints && o.roundPoints) roundPointRecords ++
  materialRecords c

/-- What the fragment stage does between the textures and its output. -/
def closingRecords (c : Features) (filter : List Record) : List Record :=
  fresnelRecords c ++
  surfaceRecords c.model ++
  uniform .vec3 lightAmbient :: outgoingRecords c filter ++
  alphaRecords

theorem filteredFragmentRecords_eq (c : Features) (o : ShaderOptions) (filter : List Record) :
    filteredFragmentRecords c o filter =
      openingRecords c o ++ (onlyIf c.hasColors (vertexColorRecords c) ++
        (onlyIf c.isShaded viewRecords ++ (texturesRecords c ++
          (closingRecords c filter ++ outputRecords c)))) := by
  simp [filteredFragmentRecords, openingRecords, closingRecords]

end SceneRenderer.Shader
