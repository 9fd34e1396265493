import SceneRenderer.Config
import SceneRenderer.Proofs.Json.LawfulCodec
import SceneRenderer.Proofs.Toml.Libraries

/-!
The text of a configuration, read again with the library that wrote it. A configuration is a record
of plain values with one table (`writable_settings`), so its text denotes a table in which every
setting is found under its name, also those of the top level that are declared behind the settings
of shadows; and from what is found the configuration is read back (`ofToml?_of_represents`).
-/

set_option autoImplicit false
set_option relaxedAutoImplicit false

namespace SceneRenderer

open Shader Toml

namespace RendererConfig

instance : HasFloats RendererConfig := ⟨fun c ↦ [c.gammaFactor, c.shadow.depthBias]⟩

/-! ### Settings -/

theorem plain_keys : ∀ k ∈ fieldNames ++ ShadowConfig.fieldNames, IsPlainKey k := by
  simp [fieldNames, ShadowConfig.fieldNames, IsPlainKey, isKeyChar]

theorem map_fst_settings (c : RendererConfig) : c.settings.map Prod.fst = fieldNames := rfl

theorem singles_settings (c : RendererConfig) :
    singles c.settings =
      [("gamma_input", .bool c.gammaInput), ("gamma_output", .bool c.gammaOutput),
        ("gamma_factor", .number c.gammaFactor),
        ("precision", .choice (precisionName c.precision))] ++
      (c.maxTextureUnits.toList.map fun n ↦ ("max_texture_units", .word n)) ++
      [("round_points", .bool c.roundPoints)] := by
  cases hunits : c.maxTextureUnits <;> simp [singles, settings, hunits]

theorem subtables_settings (c : RendererConfig) :
    subtables c.settings = [("shadow", present c.shadow.settings)] := by
  cases hunits : c.maxTextureUnits <;> simp [subtables, settings, hunits]

theorem writable_precisionName (exact : Float32 → Prop) (p : Precision) :
    (Scalar.choice (precisionName p)).Writable exact := by
  cases p <;> simp [Scalar.Writable, precisionName, isPlainChar, isTextChar]

theorem writable_shadow {exact : Float32 → Prop} {s : ShadowConfig} (hbias : exact s.depthBias) :
    WritableEntries exact (present s.settings) where
  names := by simp [present, ShadowConfig.settings]
  plain := by
    intro f hf
    refine plain_keys _ (List.mem_append_right _ ?_)
    simp only [present, ShadowConfig.settings, List.filterMap_cons, Option.map_some,
      List.filterMap_nil, List.mem_cons, List.not_mem_nil, or_false] at hf
    rcases hf with rfl | rfl | rfl <;> simp [ShadowConfig.fieldNames]
  values := by
    intro f hf
    simp only [present, ShadowConfig.settings, List.filterMap_cons, Option.map_some,
      List.filterMap_nil, List.mem_cons, List.not_mem_nil, or_false] at hf
    rcases hf with rfl | rfl | rfl
    · trivial
    · exact hbias
    · trivial

/-- A configuration has a text: its keys are plain, and so are the names of precisions. -/
theorem writable_settings {exact : Float32 → Prop} {c : RendererConfig}
    (hexact : ∀ x ∈ floats c, exact x) : Writable exact c.settings where
  names := by simp [map_fst_settings, fieldNames]
  plain f hf := plain_keys _ (List.mem_append_left _ (by
    rw [← map_fst_settings c]
    exact List.mem_map_of_mem hf))
  values := by
    intro f hf
    rw [singles_settings] at hf
    simp only [List.mem_append, List.mem_cons, List.mem_map, List.not_mem_nil, or_false] at hf
    rcases hf with ((rfl | rfl | rfl | rfl) | ⟨n, -, rfl⟩) | rfl
    · trivial
    · trivial
    · exact hexact _ List.mem_cons_self
    · exact writable_precisionName exact c.precision
    · trivial
    · trivial
  tables := by
    rw [subtables_settings, List.forall_mem_singleton]
    exact writable_shadow (hexact _ (List.mem_cons_of_mem _ List.mem_cons_self))

/-! ### Reading what is found -/

theorem orElse_bool (standard : Bool) {b : Bool} {found : Option Toml}
    (h : (Field.single (some (.bool b))).Found found) : Toml.orElse standard found = some b := by
  obtain ⟨_, rfl, rfl⟩ := h
  rfl

theorem orElse_word (standard : UInt32) {n : UInt32} {found : Option Toml}
    (h : (Field.single (some (.word n))).Found found) : Toml.orElse standard found = some n := by
  obtain ⟨_, rfl, rfl⟩ := h
  exact LawfulCodec.read_write (.of_floatless n)

theorem orElse_number (standard : Float32) {x : Float32} {found : Option Toml}
    (h : (Field.single (some (.number x))).Found found) :
    Toml.orElse standard found = some x := by
  obtain ⟨v, rfl, hv⟩ := h
  exact hv

theorem found_option {n : Option UInt32} {found : Option Toml}
    (h : (Field.single (n.map .word)).Found found) : found = n.map fun n ↦ .integer n.toNat := by
  cases n with
  | none => exact h
  | some n =>
    obtain ⟨_, rfl, rfl⟩ := h
    rfl

/-- An option that is absent is read as absent. -/
theorem orElse_option {n : Option UInt32} {found : Option Toml}
    (h : (Field.single (n.map .word)).Found found) : Toml.orElse none found = some n := by
  obtain rfl := found_option h
  cases n with
  | none => rfl
  | some n => exact congrArg (Option.map some) (LawfulCodec.read_write (.of_floatless n))

theorem orElseBy_precision (standard : Precision) {p : Precision} {found : Option Toml}
    (h : (Field.single (some (.choice (precisionName p)))).Found found) :
    Toml.orElseBy (Toml.readChoice precisionTable) standard found = some p := by
  obtain ⟨_, rfl, rfl⟩ := h
  cases p <;> rfl

theorem ofToml?_shadow {s : ShadowConfig} {entries : List (String × Toml)}
    (hentries : EntriesFor (present s.settings) entries) :
    ShadowConfig.ofToml? (.table .header entries) = some s := by
  obtain ⟨found, hread, hfound⟩ :=
    hentries.exists_fields (by simp [ShadowConfig.settings]) .header
  have hnames : s.settings.map Prod.fst = ShadowConfig.fieldNames := rfl
  obtain _ | ⟨hradius, _ | ⟨hbias, _ | ⟨hsize, _ | _⟩⟩⟩ := hfound
  rw [hnames] at hread
  simp only [ShadowConfig.ofToml?, hread, orElse_word _ hradius, orElse_number _ hbias,
    orElse_word _ hsize]
  rfl

theorem orElseBy_shadow (standard : ShadowConfig) {s : ShadowConfig} {found : Option Toml}
    (h : (Field.record s.settings).Found found) :
    Toml.orElseBy ShadowConfig.ofToml? standard found = some s := by
  obtain ⟨entries, rfl, hentries⟩ := h
  exact ofToml?_shadow hentries

/-- A document that represents the settings of a configuration is read as the configuration. -/
theorem ofToml?_of_represents {c : RendererConfig} {s : Sheet} (hs : s.Represents c.settings) :
    ofToml? (.table .header s.entries) = some c := by
  obtain ⟨found, hread, hfound⟩ :=
    hs.exists_fields (by simp [map_fst_settings, fieldNames]) .header
  obtain _ | ⟨hinput, _ | ⟨houtput, _ | ⟨hfactor, _ | ⟨hprecision, _ | ⟨hshadow,
    _ | ⟨hunits, _ | ⟨hround, _ | _⟩⟩⟩⟩⟩⟩⟩ := hfound
  rw [map_fst_settings] at hread
  have hoption : Toml.orElse standard.maxTextureUnits _ = some c.maxTextureUnits :=
    orElse_option hunits
  simp only [ofToml?, hread, orElse_bool _ hinput, orElse_bool _ houtput, orElse_number _ hfactor,
    orElseBy_precision _ hprecision, orElseBy_shadow _ hshadow, hoption, orElse_bool _ hround]
  rfl

/-! ### The configuration -/

theorem beq_self {c : RendererConfig} (hnan : ∀ x ∈ floats c, x.isNaN = false) :
    (c == c) = true := by
  have hgamma : (c.gammaFactor == c.gammaFactor) = true :=
    beq_self_of_not_isNaN (hnan _ List.mem_cons_self)
  have hbias : (c.shadow.depthBias == c.shadow.depthBias) = true :=
    beq_self_of_not_isNaN (hnan _ (List.mem_cons_of_mem _ List.mem_cons_self))
  have hshadow : (c.shadow == c.shadow) = true := by
    change (_ == _ && (c.shadow.depthBias == c.shadow.depthBias && _ == _)) = true
    rw [hbias, beq_self_eq_true, beq_self_eq_true]
    rfl
  change (_ == _ && (_ == _ && (c.gammaFactor == c.gammaFactor &&
    (_ == _ && (c.shadow == c.shadow && (_ == _ && _ == _)))))) = true
  simp only [hgamma, hshadow, beq_self_eq_true, Bool.and_self]

/-- A configuration is read from its text as what it is. -/
theorem exists_written {t : Toml.Library} {exact : Float32 → Prop} (ht : t.Documented exact)
    {c : RendererConfig} (hexact : ∀ x ∈ floats c, exact x) :
    ∃ (text : String) (s : Sheet), c.writeToml t = .ok text ∧ readToml t text = .ok c ∧
      t.parse? text = some (.table .header s.entries) ∧ s.Represents c.settings := by
  obtain ⟨text, s, hwrite, hparse, hs⟩ := ht.exists_written (writable_settings hexact)
  have hread : (t.parse? text).bind ofToml? = some c := by
    rw [hparse]
    exact ofToml?_of_represents hs
  exact ⟨text, s, by rw [writeToml, hwrite], by rw [readToml, hread], hparse, hs⟩

/-- Infinities and zeros are read back from the plain text, so that it is enough if the other floats
are. -/
theorem exists_ofToml_eq {c : RendererConfig} (hnan : ∀ x ∈ floats c, x.isNaN = false)
    (hreads : ∀ x ∈ floats c, x.isFinite = true → (x == 0) = false → ReadsBack x) :
    ∃ text, c.writeToml .plain = .ok text ∧ ofToml text = .ok c := by
  obtain ⟨text, _, hwrite, hread, _⟩ := exists_written documented_plain
    fun x hx ↦ readsBack_of_not_isNaN (hnan x hx) (hreads x hx)
  exact ⟨text, hwrite, hread⟩

/-- A configuration without undefined floats has a text, which is read as that configuration, with
the same settings for shader text; the library has to write its floats so that they are read back.
The settings declared behind those of shadows are entries of the top level, and not of the table of
shadows. -/
theorem readToml_writeToml {t : Toml.Library} {exact : Float32 → Prop} (ht : t.Documented exact)
    {c : RendererConfig} (hexact : ∀ x ∈ floats c, exact x)
    (hnan : ∀ x ∈ floats c, x.isNaN = false) :
    ∃ text, c.writeToml t = .ok text ∧
      (∃ d, readToml t text = .ok d ∧ d = c ∧ (d == c) = true ∧
        d.shaderOptions = c.shaderOptions) ∧
      ∃ entries shadow, t.parse? text = some (.table .header entries) ∧
        entries.lookup "max_texture_units" = c.maxTextureUnits.map (fun n ↦ .integer n.toNat) ∧
        entries.lookup "round_points" = some (.bool c.roundPoints) ∧
        entries.lookup "shadow" = some (.table .header shadow) ∧
        shadow.map Prod.fst = ShadowConfig.fieldNames := by
  obtain ⟨text, s, hwrite, hread, hparse, hs⟩ := exists_written ht hexact
  have hnames : (c.settings.map Prod.fst).Nodup := by simp [map_fst_settings, fieldNames]
  have hunits := found_option (hs.found hnames
    (show ("max_texture_units", Field.single (c.maxTextureUnits.map .word)) ∈ c.settings by
      simp [settings]))
  obtain ⟨_, hround, rfl⟩ := hs.found hnames
    (show ("round_points", Field.single (some (.bool c.roundPoints))) ∈ c.settings by
      simp [settings])
  obtain ⟨shadow, hshadow, hentries⟩ := hs.found hnames
    (show ("shadow", Field.record c.shadow.settings) ∈ c.settings by simp [settings])
  refine ⟨text, hwrite, ⟨c, hread, rfl, beq_self hnan, rfl⟩, s.entries, shadow, hparse, hunits,
    hround, hshadow, ?_⟩
  rw [keys_eq_of_keyed hentries]
  rfl

/-- Words at their limit, a negative zero, and both options set. -/
def edgeConfig : RendererConfig :=
  ⟨true, false, 2.2, .medium, ⟨0xffffffff, -0.0, 0⟩, some 0xffffffff, false⟩

theorem readToml_writeToml_edgeConfig :
    Toml.Library.plain.Documented ReadsBack ∧ (∀ x ∈ floats edgeConfig, ReadsBack x) ∧
      (∀ x ∈ floats edgeConfig, x.isNaN = false) ∧
      ∃ text, edgeConfig.writeToml .plain = .ok text ∧
        ∃ d, readToml .plain text = .ok d ∧ d = edgeConfig ∧ (d == edgeConfig) = true ∧
          d.shaderOptions = edgeConfig.shaderOptions :=
  have hexact : ∀ x ∈ floats edgeConfig, ReadsBack x := by decide +kernel
  have hnan : ∀ x ∈ floats edgeConfig, x.isNaN = false := by decide +kernel
  have ⟨text, hwrite, hread, _⟩ := readToml_writeToml documented_plain hexact hnan
  ⟨documented_plain, hexact, hnan, text, hwrite, hread⟩

end RendererConfig

end SceneRenderer
