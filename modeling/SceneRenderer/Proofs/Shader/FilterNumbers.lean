import SceneRenderer.Proofs.Shader.Definitions
import SceneRenderer.Proofs.Shader.ShadowFilter

/-!
The numbers in the text of a shadow filter. Three of them are whole numbers of a configuration,
which are finite in single precision and so are written as literals whatever they are. The bias is
any number that a configuration carries: it is written as a literal if it is finite and as a word if
it is not.
-/

set_option autoImplicit false
set_option relaxedAutoImplicit false

namespace SceneRenderer.Shader

/-- The whole numbers that a filter is written with. The number of texels is one of them unless it
cannot be counted. -/
def ShaderOptions.filterSizes (o : ShaderOptions) : List UInt32 :=
  o.kernelRadius :: o.mapSize :: (filterTaps o.kernelRadius).toOption.toList

theorem isFloatLiteral_toFloat32 (n : UInt32) : IsFloatLiteral (floatLiteral n.toFloat32).toList :=
  isFloatLiteral_floatLiteral (isFinite_toFloat32 n)

/-- Just finite numbers are written as literals. -/
theorem isFloatLiteral_floatLiteral_iff {x : Float32} :
    (IsFloatLiteral (floatLiteral x).toList ↔ x.isFinite = true) ∧
      (IsWordless (floatLiteral x).toList ↔ x.isFinite = true) := by
  cases hx : x.isFinite with
  | true =>
    have hliteral := isFloatLiteral_floatLiteral hx
    exact ⟨iff_of_true hliteral rfl, iff_of_true hliteral.isLiteral.isWordless rfl⟩
  | false =>
    have hword := not_isWordless_floatLiteral hx
    exact ⟨iff_of_false (fun hliteral ↦ hword hliteral.isLiteral.isWordless) Bool.false_ne_true,
      iff_of_false hword Bool.false_ne_true⟩

/-- In the filter of any configuration the radius, the size of a map and the number of texels are
literals of the grammar, and so is the bias just if it is finite. A literal reads as no identifier,
and a bias that is no literal reads as one. Nothing else that depends on the configuration stands in
the text. -/
theorem filterLiterals_of_config (c : RendererConfig) :
    (∀ size ∈ c.shaderOptions.filterSizes, IsFloatLiteral (floatLiteral size.toFloat32).toList ∧
      IsWordless (floatLiteral size.toFloat32).toList) ∧
    (IsFloatLiteral (floatLiteral c.shaderOptions.depthBias).toList ↔
      c.shadow.depthBias.isFinite = true) ∧
    (IsWordless (floatLiteral c.shaderOptions.depthBias).toList ↔
      c.shadow.depthBias.isFinite = true) ∧
    ∀ f, ShadowFilter.ofOptions c.shaderOptions = .ok f →
      f.radius ∈ c.shaderOptions.filterSizes ∧ f.mapSize ∈ c.shaderOptions.filterSizes ∧
      f.taps ∈ c.shaderOptions.filterSizes ∧ f.bias = c.shaderOptions.depthBias ∧
      shadowFilterLines f = filterLines (floatLiteral f.radius.toFloat32)
        (floatLiteral f.mapSize.toFloat32) (floatLiteral f.bias)
        (floatLiteral f.taps.toFloat32) := by
  obtain ⟨hliteral, hword⟩ := @isFloatLiteral_floatLiteral_iff c.shadow.depthBias
  refine ⟨fun size _ ↦ ⟨isFloatLiteral_toFloat32 size, ?_⟩, hliteral, hword, fun f hf ↦ ?_⟩
  · exact (isFloatLiteral_toFloat32 size).isLiteral.isWordless
  · obtain ⟨taps, htaps, rfl⟩ := ofOptions_eq_ok_iff.mp hf
    have hsizes : c.shaderOptions.filterSizes =
        [c.shaderOptions.kernelRadius, c.shaderOptions.mapSize, taps] := by
      rw [ShaderOptions.filterSizes, htaps]
      rfl
    rw [hsizes]
    exact ⟨by simp, by simp, by simp, rfl, rfl⟩

/-- The filter of a configuration that is read from a text. -/
theorem exists_filter_of_text (text bias : String) (radius taps : UInt32)
    (hread : (RendererConfig.ofToml text).toOption.map (fun c ↦
      (c.shaderOptions.kernelRadius, floatLiteral c.shaderOptions.depthBias)) = some (radius, bias))
    (htaps : filterTaps radius = .ok taps) :
    ∃ c f, RendererConfig.ofToml text = .ok c ∧ ShadowFilter.ofOptions c.shaderOptions = .ok f ∧
      floatLiteral f.bias = bias ∧ f.taps = taps := by
  cases htext : RendererConfig.ofToml text with
  | error e => rw [htext] at hread; cases hread
  | ok c =>
    rw [htext] at hread
    obtain ⟨hradius, hbias⟩ := Prod.mk.inj (Option.some.inj hread)
    exact ⟨c, _, rfl, ofOptions_eq_ok_iff.mpr ⟨taps, hradius ▸ htaps, rfl⟩, hbias, rfl⟩

/-- The greatest square of texels that can be counted, and a small bias below zero. -/
theorem filterLiterals_of_config_widest :
    ∃ c f, RendererConfig.ofToml "[shadow]\nkernel_radius = 32767\ndepth_bias = -1e-7\n" = .ok c ∧
      ShadowFilter.ofOptions c.shaderOptions = .ok f ∧
      floatLiteral f.bias = "-1e-7" ∧ IsFloatLiteral "-1e-7".toList ∧ IsWordless "-1e-7".toList ∧
      floatLiteral f.taps.toFloat32 = "4294836200.0" ∧ IsFloatLiteral "4294836200.0".toList := by
  obtain ⟨c, f, htext, hf, hbias, htaps⟩ := exists_filter_of_text
    "[shadow]\nkernel_radius = 32767\ndepth_bias = -1e-7\n" "-1e-7" 32767 4294836225
    (by decide +kernel) rfl
  have hcount : floatLiteral f.taps.toFloat32 = "4294836200.0" := by
    rw [htaps]
    decide +kernel
  obtain ⟨hsizes, hliteral, hwordless, hlines⟩ := filterLiterals_of_config c
  obtain ⟨-, -, hmem, heq, -⟩ := hlines f hf
  have htexels := (hsizes f.taps hmem).1
  rw [hcount] at htexels
  rw [← heq, hbias] at hliteral hwordless
  have hfinite : c.shadow.depthBias.isFinite = true := by
    by_contra hword
    have hmem := floatLiteral_of_not_isFinite (Bool.eq_false_iff.mpr hword)
    rw [show c.shadow.depthBias = f.bias from heq.symm, hbias] at hmem
    exact absurd hmem (by decide)
  exact ⟨c, f, htext, hf, hbias, hliteral.mpr hfinite, hwordless.mpr hfinite, hcount, htexels⟩

theorem biasLine_mem (f : ShadowFilter) :
    "            shadow += (shadowCoord.z - " ++ floatLiteral f.bias ++ " > depth) ? 0.0 : 1.0;" ∈
      shadowFilterLines f := by
  have hfront : "            shadow += (shadowCoord.z - " =
      "    " ++ ("    " ++ ("    " ++ "shadow += (shadowCoord.z - ")) := rfl
  have hline : (shadowFilterLines f)[7]? =
      some ("    " ++ ("    " ++ ("    " ++ ("shadow += (shadowCoord.z - " ++ floatLiteral f.bias ++
        " > depth) ? 0.0 : 1.0;")))) := rfl
  rw [hfront]
  simpa only [String.append_assoc] using List.mem_of_getElem? hline

/-- Configurations with an infinite or an undefined bias are accepted. The text of their filter has
a word in its place. -/
theorem exists_bias_word :
    (∃ c f, RendererConfig.ofToml "[shadow]\ndepth_bias = inf\n" = .ok c ∧
      ShadowFilter.ofOptions c.shaderOptions = .ok f ∧ floatLiteral f.bias = "inf" ∧
      "            shadow += (shadowCoord.z - inf > depth) ? 0.0 : 1.0;" ∈ shadowFilterLines f ∧
      ¬ IsFloatLiteral "inf".toList ∧ .identifier "inf".toList ∈ tokens "inf".toList) ∧
    ∃ c f, RendererConfig.ofToml "[shadow]\ndepth_bias = nan\n" = .ok c ∧
      ShadowFilter.ofOptions c.shaderOptions = .ok f ∧ floatLiteral f.bias = "NaN" ∧
      "            shadow += (shadowCoord.z - NaN > depth) ? 0.0 : 1.0;" ∈ shadowFilterLines f ∧
      ¬ IsFloatLiteral "NaN".toList ∧ .identifier "NaN".toList ∈ tokens "NaN".toList := by
  have hword {text : List Char} (htext : .identifier text ∈ tokens text) : ¬ IsFloatLiteral text :=
    fun hliteral ↦ hliteral.isLiteral.isWordless text htext
  have hinf : Token.identifier "inf".toList ∈ tokens "inf".toList := by decide
  have hnan : Token.identifier "NaN".toList ∈ tokens "NaN".toList := by decide
  constructor
  · obtain ⟨c, f, htext, hf, hbias, -⟩ := exists_filter_of_text
      "[shadow]\ndepth_bias = inf\n" "inf" 3 49 (by decide +kernel) rfl
    have hline := biasLine_mem f
    rw [hbias] at hline
    exact ⟨c, f, htext, hf, hbias, hline, hword hinf, hinf⟩
  · obtain ⟨c, f, htext, hf, hbias, -⟩ := exists_filter_of_text
      "[shadow]\ndepth_bias = nan\n" "NaN" 3 49 (by decide +kernel) rfl
    have hline := biasLine_mem f
    rw [hbias] at hline
    exact ⟨c, f, htext, hf, hbias, hline, hword hnan, hnan⟩

end SceneRenderer.Shader
