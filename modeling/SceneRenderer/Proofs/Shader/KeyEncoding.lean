import Mathlib.Data.Nat.ModEq
import SceneRenderer.Shader.Key

/-!
The bytes that a program key is digested as. Every part of them tells where it ends: choices, words
and flags have fixed lengths, and a list starts with its length. So no key is the beginning of
another one, and two keys with one digest are a collision of the hash itself.

The main statement is `ProgramKey.encode_prefix_iff`.
-/

set_option autoImplicit false
set_option relaxedAutoImplicit false

namespace SceneRenderer

@[simp]
theorem length_littleEndian (width word : Nat) : (littleEndian width word).length = width := by
  simp [littleEndian]

/-- The bytes of a word tell the word, as far as they reach. -/
theorem mod_eq_of_littleEndian {width m n : Nat} (h : littleEndian width m = littleEndian width n) :
    m % 256 ^ width = n % 256 ^ width := by
  induction width with
  | zero => rw [pow_zero, Nat.mod_one, Nat.mod_one]
  | succ width ih =>
    unfold littleEndian at h ih
    rw [List.range_succ, List.map_append, List.map_append] at h
    obtain ⟨hlow, hhigh⟩ := List.append_inj h (by simp)
    have hbyte : m / 256 ^ width % 256 = n / 256 ^ width % 256 := by
      have hpow : 2 ^ (8 * width) = 256 ^ width := by rw [pow_mul]; rfl
      simpa [Nat.shiftRight_eq_div_pow, hpow] using congrArg (List.map UInt8.toNat) hhigh
    rw [Nat.mod_pow_succ, Nat.mod_pow_succ, ih hlow, hbyte]

theorem littleEndian_inj {width m n : Nat} (hm : m < 256 ^ width) (hn : n < 256 ^ width)
    (h : littleEndian width m = littleEndian width n) : m = n := by
  have hmod := mod_eq_of_littleEndian h
  rwa [Nat.mod_eq_of_lt hm, Nat.mod_eq_of_lt hn] at hmod

namespace Shader

/-! ### Codes that tell where they end -/

/-- What follows the code of a value can be cut off, whatever the value is. -/
class SelfDelimiting (α : Type) [Encode α] : Prop where
  cancel : ∀ {a b : α} {rest rest' : List UInt8},
    encode a ++ rest = encode b ++ rest' → a = b ∧ rest = rest'

export SelfDelimiting (cancel)

theorem encodeTag_cancel {m n : Nat} (hm : m < 2 ^ 64) (hn : n < 2 ^ 64) {rest rest' : List UInt8}
    (h : encodeTag m ++ rest = encodeTag n ++ rest') : m = n ∧ rest = rest' := by
  obtain ⟨htag, hrest⟩ := List.append_inj h (by simp [encodeTag])
  exact ⟨littleEndian_inj hm hn htag, hrest⟩

/-- A choice among constructors is told by its number. -/
theorem SelfDelimiting.of_tag {α : Type} [Encode α] (tag : α → Nat)
    (hcode : ∀ a : α, encode a = encodeTag (tag a)) (hbound : ∀ a, tag a < 2 ^ 64)
    (hinj : ∀ a b, tag a = tag b → a = b) : SelfDelimiting α where
  cancel {a b} _ _ h := by
    rw [hcode, hcode] at h
    obtain ⟨htag, hrest⟩ := encodeTag_cancel (hbound a) (hbound b) h
    exact ⟨hinj a b htag, hrest⟩

instance : SelfDelimiting Bool where
  cancel {a b} _ _ h := by
    obtain ⟨hflag, hrest⟩ := List.cons.inj h
    refine ⟨?_, hrest⟩
    cases a <;> cases b <;> first | rfl | exact absurd hflag (by decide)

instance : SelfDelimiting UInt32 where
  cancel {a b} _ _ h := by
    obtain ⟨hword, hrest⟩ := List.append_inj h
      ((length_littleEndian 4 a.toNat).trans (length_littleEndian 4 b.toNat).symm)
    exact ⟨UInt32.toNat_inj.mp (littleEndian_inj a.toNat_lt b.toNat_lt hword), hrest⟩

instance {α : Type} [Encode α] [SelfDelimiting α] : SelfDelimiting (Option α) where
  cancel {a b} rest rest' h := by
    cases a with
    | none =>
      cases b with
      | none => exact ⟨rfl, (encodeTag_cancel (by decide) (by decide) h).2⟩
      | some y =>
        change encodeTag 0 ++ rest = encodeTag 1 ++ encode y ++ rest' at h
        rw [List.append_assoc] at h
        exact absurd (encodeTag_cancel (by decide) (by decide) h).1 (by decide)
    | some x =>
      cases b with
      | none =>
        change encodeTag 1 ++ encode x ++ rest = encodeTag 0 ++ rest' at h
        rw [List.append_assoc] at h
        exact absurd (encodeTag_cancel (by decide) (by decide) h).1 (by decide)
      | some y =>
        change encodeTag 1 ++ encode x ++ rest = encodeTag 1 ++ encode y ++ rest' at h
        rw [List.append_assoc, List.append_assoc] at h
        obtain ⟨hvalue, hrest⟩ := cancel (encodeTag_cancel (by decide) (by decide) h).2
        exact ⟨congrArg some hvalue, hrest⟩

/-- The items of lists of one length are told one after the other. -/
theorem flatMap_encode_cancel {α : Type} [Encode α] [SelfDelimiting α] {l m : List α}
    (hlength : l.length = m.length) {rest rest' : List UInt8}
    (h : l.flatMap encode ++ rest = m.flatMap encode ++ rest') : l = m ∧ rest = rest' := by
  induction l generalizing m with
  | nil =>
    obtain rfl := List.eq_nil_of_length_eq_zero hlength.symm
    exact ⟨rfl, h⟩
  | cons a l ih =>
    obtain ⟨b, m, rfl⟩ := List.exists_cons_of_length_eq_add_one hlength.symm
    rw [List.flatMap_cons, List.flatMap_cons, List.append_assoc, List.append_assoc] at h
    obtain ⟨rfl, hitems⟩ := cancel h
    obtain ⟨rfl, hrest⟩ := ih (Nat.succ.inj hlength) hitems
    exact ⟨rfl, hrest⟩

/-- A list whose length can be told is told. -/
theorem encode_list_cancel {α : Type} [Encode α] [SelfDelimiting α] {l m : List α}
    (hl : l.length < 2 ^ 64) (hm : m.length < 2 ^ 64) {rest rest' : List UInt8}
    (h : encode l ++ rest = encode m ++ rest') : l = m ∧ rest = rest' := by
  change encodeTag l.length ++ l.flatMap encode ++ rest =
    encodeTag m.length ++ m.flatMap encode ++ rest' at h
  rw [List.append_assoc, List.append_assoc] at h
  obtain ⟨hlength, hitems⟩ := encodeTag_cancel hl hm h
  exact flatMap_encode_cancel hlength hitems

/-! ### The parts of a key -/

instance : SelfDelimiting ShadingModel :=
  .of_tag ShadingModel.ctorIdx (by rintro ⟨⟩ <;> rfl) (by rintro ⟨⟩ <;> decide)
    (by rintro ⟨⟩ ⟨⟩ <;> simp [ShadingModel.ctorIdx])

instance : SelfDelimiting LightType :=
  .of_tag LightType.ctorIdx (by rintro ⟨⟩ <;> rfl) (by rintro ⟨⟩ <;> decide)
    (by rintro ⟨⟩ ⟨⟩ <;> simp [LightType.ctorIdx])

instance : SelfDelimiting LightSpace :=
  .of_tag LightSpace.ctorIdx (by rintro ⟨⟩ <;> rfl) (by rintro ⟨⟩ <;> decide)
    (by rintro ⟨⟩ ⟨⟩ <;> simp [LightSpace.ctorIdx])

instance : SelfDelimiting TextureEncoding :=
  .of_tag TextureEncoding.ctorIdx (by rintro ⟨⟩ <;> rfl) (by rintro ⟨⟩ <;> decide)
    (by rintro ⟨⟩ ⟨⟩ <;> simp [TextureEncoding.ctorIdx])

instance : SelfDelimiting Billboard :=
  .of_tag Billboard.ctorIdx (by rintro ⟨⟩ <;> rfl) (by rintro ⟨⟩ <;> decide)
    (by rintro ⟨⟩ ⟨⟩ <;> simp [Billboard.ctorIdx])

instance : SelfDelimiting LightSlot where
  cancel {a b} rest rest' h := by
    change encode a.index ++ encode a.type ++ encode a.space ++ encode a.castsShadow ++ rest =
      encode b.index ++ encode b.type ++ encode b.space ++ encode b.castsShadow ++ rest' at h
    simp only [List.append_assoc] at h
    obtain ⟨hindex, h⟩ := cancel h
    obtain ⟨htype, h⟩ := cancel h
    obtain ⟨hspace, h⟩ := cancel h
    obtain ⟨hshadow, hrest⟩ := cancel h
    exact ⟨by cases a; cases b; simp_all, hrest⟩

instance : SelfDelimiting TextureFeature where
  cancel {a b} rest rest' h := by
    change encode a.encoding ++ encode a.hasMatrix ++ rest =
      encode b.encoding ++ encode b.hasMatrix ++ rest' at h
    rw [List.append_assoc, List.append_assoc] at h
    obtain ⟨hencoding, h⟩ := cancel h
    obtain ⟨hmatrix, hrest⟩ := cancel h
    exact ⟨by cases a; cases b; simp_all, hrest⟩

instance : SelfDelimiting TextureFlags where
  cancel {a b} rest rest' h := by
    change encode (TextureChannel.all.map a.get) ++ rest =
      encode (TextureChannel.all.map b.get) ++ rest' at h
    obtain ⟨hchannels, hrest⟩ := encode_list_cancel (by simp [TextureChannel.all])
      (by simp [TextureChannel.all]) h
    refine ⟨TextureFlags.ext_get fun c ↦ ?_, hrest⟩
    exact List.map_inj_left.mp hchannels c (by cases c <;> simp [TextureChannel.all])

theorem FresnelFlags.toByte_injective : Function.Injective FresnelFlags.toByte := by
  rintro ⟨d, s, a, e, r⟩ ⟨d', s', a', e', r'⟩
  revert d s a e r d' s' a' e' r'
  decide +kernel

instance : SelfDelimiting FresnelFlags where
  cancel {a b} rest rest' h := by
    obtain ⟨hbyte, hrest⟩ := List.cons.inj h
    exact ⟨FresnelFlags.toByte_injective hbyte, hrest⟩

instance : SelfDelimiting DepthFeatures where
  cancel {a b} rest rest' h := by
    change encode a.quantized ++ encode a.billboard ++ encode a.stationary ++ encode a.isPoints ++
        rest =
      encode b.quantized ++ encode b.billboard ++ encode b.stationary ++ encode b.isPoints ++
        rest' at h
    simp only [List.append_assoc] at h
    obtain ⟨hquantized, h⟩ := cancel h
    obtain ⟨hbillboard, h⟩ := cancel h
    obtain ⟨hstationary, h⟩ := cancel h
    obtain ⟨hpoints, hrest⟩ := cancel h
    exact ⟨by cases a; cases b; simp_all, hrest⟩

/-- Features are told field by field, if their light slots can be counted. -/
theorem Features.encode_cancel {c d : Features} (hc : c.lightSlots.length < 2 ^ 64)
    (hd : d.lightSlots.length < 2 ^ 64) {rest rest' : List UInt8}
    (h : encode c ++ rest = encode d ++ rest') : c = d ∧ rest = rest' := by
  have hfields (c : Features) (rest : List UInt8) : encode c ++ rest =
      encode c.hasNormals ++ (encode c.hasUv ++ (encode c.hasNormalMap ++ (encode c.hasColors ++
      (encode c.clipCount ++ (encode c.model ++ (encode c.quantized ++ (encode c.receivesShadow ++
      (encode c.gammaInput ++ (encode c.gammaOutput ++ (encode c.lightSlots ++ (encode c.isPoints ++
      (encode c.billboard ++ (encode c.stationary ++ (encode c.textures ++ (encode c.fresnel ++
      (encode c.hasLightMap ++ (encode c.hasReflectionMap ++ rest))))))))))))))))) := by
    simp only [← List.append_assoc]
    rfl
  rw [hfields, hfields] at h
  obtain ⟨hnormals, h⟩ := cancel h
  obtain ⟨huv, h⟩ := cancel h
  obtain ⟨hnormalMap, h⟩ := cancel h
  obtain ⟨hcolors, h⟩ := cancel h
  obtain ⟨hclips, h⟩ := cancel h
  obtain ⟨hmodel, h⟩ := cancel h
  obtain ⟨hquantized, h⟩ := cancel h
  obtain ⟨hreceives, h⟩ := cancel h
  obtain ⟨hgammaIn, h⟩ := cancel h
  obtain ⟨hgammaOut, h⟩ := cancel h
  obtain ⟨hslots, h⟩ := encode_list_cancel hc hd h
  obtain ⟨hpoints, h⟩ := cancel h
  obtain ⟨hbillboard, h⟩ := cancel h
  obtain ⟨hstationary, h⟩ := cancel h
  obtain ⟨htextures, h⟩ := cancel h
  obtain ⟨hfresnel, h⟩ := cancel h
  obtain ⟨hlightMap, h⟩ := cancel h
  obtain ⟨hreflectionMap, hrest⟩ := cancel h
  exact ⟨by cases c; cases d; simp_all, hrest⟩

/-! ### Keys -/

namespace ProgramKey

/-- The light slots of a key can be counted in eight bytes, as those of any list in a memory can. -/
def CountsSlots : ProgramKey → Prop
  | draw c => c.lightSlots.length < 2 ^ 64
  | shadowDepth _ => True

variable {k l : ProgramKey}

theorem encode_cancel (hk : k.CountsSlots) (hl : l.CountsSlots) {rest rest' : List UInt8}
    (h : encode k ++ rest = encode l ++ rest') : k = l ∧ rest = rest' := by
  have hdraw (c : Features) (rest : List UInt8) :
      encode (draw c) ++ rest = encodeTag 0 ++ (encode c ++ rest) := List.append_assoc ..
  have hdepth (d : DepthFeatures) (rest : List UInt8) :
      encode (shadowDepth d) ++ rest = encodeTag 1 ++ (encode d ++ rest) := List.append_assoc ..
  cases k with
  | draw c =>
    cases l with
    | draw d =>
      rw [hdraw, hdraw] at h
      obtain ⟨hfeatures, hrest⟩ :=
        Features.encode_cancel hk hl (encodeTag_cancel (by decide) (by decide) h).2
      exact ⟨congrArg draw hfeatures, hrest⟩
    | shadowDepth d =>
      rw [hdraw, hdepth] at h
      exact absurd (encodeTag_cancel (by decide) (by decide) h).1 (by decide)
  | shadowDepth c =>
    cases l with
    | draw d =>
      rw [hdepth, hdraw] at h
      exact absurd (encodeTag_cancel (by decide) (by decide) h).1 (by decide)
    | shadowDepth d =>
      rw [hdepth, hdepth] at h
      obtain ⟨hfeatures, hrest⟩ := cancel (encodeTag_cancel (by decide) (by decide) h).2
      exact ⟨congrArg shadowDepth hfeatures, hrest⟩

/-- The code of one key is the beginning of the code of another only if the keys are the same. Two
different keys share a digest only where different bytes have one hash. -/
theorem encode_prefix_iff (hk : k.CountsSlots) (hl : l.CountsSlots) :
    (encode k <+: encode l ↔ k = l) ∧
      (k ≠ l → k.digest = l.digest → encode k ≠ encode l ∧
        Xxh3.hash (encode k).toArray = Xxh3.hash (encode l).toArray) := by
  have hstarts : encode k <+: encode l ↔ k = l := by
    constructor
    · rintro ⟨rest, hrest⟩
      exact (encode_cancel hk hl (hrest.trans (List.append_nil _).symm)).1
    · rintro rfl
      exact List.prefix_rfl
  refine ⟨hstarts, fun hne hdigest ↦ ⟨fun hsame ↦ hne (hstarts.mp ?_), hdigest⟩⟩
  exact hsame ▸ List.prefix_rfl

/-- A key with one light slot goes on where a key without any goes on with other fields. -/
theorem encode_prefix_iff_slots :
    let unlit := draw default
    let lit := draw { (default : Features) with lightSlots := [⟨0, .directional, .world, true⟩] }
    unlit.CountsSlots ∧ lit.CountsSlots ∧ ¬encode unlit <+: encode lit ∧
      (unlit.digest = lit.digest → encode unlit ≠ encode lit ∧
        Xxh3.hash (encode unlit).toArray = Xxh3.hash (encode lit).toArray) := by
  intro unlit lit
  have hunlit : unlit.CountsSlots := Nat.two_pow_pos 64
  have hlit : lit.CountsSlots := Nat.one_lt_two_pow (by decide)
  have hne : unlit ≠ lit := by decide
  obtain ⟨hstarts, hdigest⟩ := encode_prefix_iff hunlit hlit
  exact ⟨hunlit, hlit, fun h ↦ hne (hstarts.mp h), hdigest hne⟩

end ProgramKey

end Shader

end SceneRenderer
