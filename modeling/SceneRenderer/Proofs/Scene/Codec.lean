import SceneRenderer.Proofs.Json.LawfulCodec
import SceneRenderer.Scene.Codec.Material
import SceneRenderer.Scene.Codec.Scene

/-!
Drawables and scenes are read back from JSON (`read_write_drawable_scene`): no shape of geometry,
light or material is written in a way that is read as another one. An array keeps its storage type,
which is a field beside its data. The shape of a light is found among the other fields of the light,
which have other names. The channel values of a surface are gathered before they are read, so that
the encoding of a texture is read in another way there than elsewhere; what is written is read alike
in both ways.
-/

set_option autoImplicit false
set_option relaxedAutoImplicit false

namespace SceneRenderer

open Codec

instance : Floatless Topology := {}

instance : LawfulCodec Topology := ⟨fun {t} _ ↦ by cases t <;> rfl, fun _ ↦ rfl⟩

/-! ### Arrays -/

instance : HasFloats VertexArray where
  floats
    | .float32 values => values
    | .uint16 _ | .int8 _ | .uint8 _ => []

instance : Floatless IndexArray := {}

theorem storage?_storage (name : String) (data : Json) :
    storage? (storage name data) = some (name, data) := by
  unfold storage? storage
  rw [fields?_object (by rfl) (by decide)]
  rfl

theorem isReadable_storage {name : String} {data : Json} (hdata : data.isReadable = true) :
    (storage name data).isReadable = true :=
  Json.isReadable_object.mpr (by simp [Json.isReadable, hdata])

instance : LawfulCodec VertexArray where
  read_write {a} ha := by
    unfold instCodecVertexArray
    cases a <;> dsimp only <;> rw [storage?_storage]
    case float32 values => exact congrArg (Option.map VertexArray.float32) (read_floats ha)
    case uint16 values => exact map_read VertexArray.uint16 (.list_of_floatless values)
    case int8 values => exact map_read VertexArray.int8 (.list_of_floatless values)
    case uint8 values => exact map_read VertexArray.uint8 (.list_of_floatless values)
  readable a := by cases a <;> exact isReadable_storage (LawfulCodec.readable _)

instance : NeverNull VertexArray := ⟨fun a ↦ by cases a <;> nofun⟩

instance : LawfulCodec IndexArray where
  read_write {a} _ := by
    unfold instCodecIndexArray
    cases a <;> dsimp only <;> rw [storage?_storage]
    case uint16 values _ => exact map_read IndexArray.uint16 (.list_of_floatless values)
    case uint32 values _ => exact map_read IndexArray.uint32 (.list_of_floatless values)
  readable a := by cases a <;> exact isReadable_storage (LawfulCodec.readable _)

instance : NeverNull IndexArray := ⟨fun a ↦ by cases a <;> nofun⟩

/-! ### Records -/

instance : HasFloats Quantization := ⟨fun q ↦ floats q.positionsDecode ++ floats q.uvDecode⟩

theorem allFinite_quantization {q : Quantization} :
    AllFinite q ↔ AllFinite q.positionsDecode ∧ AllFinite q.uvDecode :=
  List.forall_mem_append

instance : LawfulCodec Quantization where
  read_write {q} hq := by
    have hparts := allFinite_quantization.mp hq
    unfold instCodecQuantization
    dsimp only
    rw [fields?_object (by rfl) (by decide)]
    simp [hparts]
  readable q := Json.isReadable_object.mpr (by simp)

instance : NeverNull Quantization := ⟨fun _ ↦ nofun⟩

instance : HasFloats Geometry where
  floats g :=
    floats g.positions ++ floats g.normals ++ floats g.uv ++ floats g.colors ++
      floats g.quantization

theorem allFinite_geometry {g : Geometry} :
    AllFinite g ↔ AllFinite g.positions ∧ AllFinite g.normals ∧ AllFinite g.uv ∧
      AllFinite g.colors ∧ AllFinite g.quantization := by
  unfold AllFinite instHasFloatsGeometry
  simp only [List.forall_mem_append, and_assoc]

instance : LawfulCodec Geometry where
  read_write {g} hg := by
    have hparts := allFinite_geometry.mp hg
    unfold instCodecGeometry
    dsimp only
    rw [fields?_object (by rfl) (by decide)]
    simp [hparts]
  readable g := Json.isReadable_object.mpr (by simp)

instance : Floatless LightSpace := {}

instance : LawfulCodec LightSpace := ⟨fun {s} _ ↦ by cases s <;> rfl, fun _ ↦ rfl⟩

instance : HasFloats Attenuation :=
  ⟨fun a ↦ floats a.constant ++ floats a.linear ++ floats a.quadratic⟩

theorem allFinite_attenuation {a : Attenuation} :
    AllFinite a ↔ AllFinite a.constant ∧ AllFinite a.linear ∧ AllFinite a.quadratic := by
  unfold AllFinite instHasFloatsAttenuation
  simp only [List.forall_mem_append, and_assoc]

instance : LawfulCodec Attenuation where
  read_write {a} ha := by
    have hparts := allFinite_attenuation.mp ha
    unfold instCodecAttenuation
    dsimp only
    rw [fields?_object (by rfl) (by decide)]
    simp [hparts]
  readable a := Json.isReadable_object.mpr (by simp)

/-! ### Shapes -/

instance : HasFloats LightShape where
  floats
    | .ambient => []
    | .directional dir => floats dir
    | .point pos attenuation => floats pos ++ floats attenuation
    | .spot pos dir attenuation cutoff =>
      floats pos ++ floats dir ++ floats attenuation ++ floats cutoff

theorem LightType.ofName?_jsonName (t : LightType) : ofName? t.jsonName = some t := by
  cases t <;> rfl

namespace LightShape

theorem readable_writeFields (s : LightShape) : ∀ f ∈ s.writeFields, f.2.isReadable = true := by
  cases s <;> simp [writeFields]

theorem allFinite_point {pos : Vec3 Float32} {attenuation : Attenuation} :
    AllFinite (point pos attenuation) ↔ AllFinite pos ∧ AllFinite attenuation :=
  List.forall_mem_append

theorem allFinite_spot {pos dir : Vec3 Float32} {attenuation : Attenuation} {cutoff : Float32} :
    AllFinite (spot pos dir attenuation cutoff) ↔
      AllFinite pos ∧ AllFinite dir ∧ AllFinite attenuation ∧ AllFinite cutoff := by
  unfold AllFinite instHasFloatsLightShape
  simp only [List.forall_mem_append, and_assoc]

/-- A shape is read back from its fields, whatever other fields there are. -/
theorem readFields_object {s : LightShape} (hs : AllFinite s) {fields : List (String × Json)}
    (hdistinct : (fields.map (·.1)).Nodup) (hfields : s.writeFields ⊆ fields) :
    readFields s.type (.object fields) = some s := by
  unfold readFields
  cases s with
  | ambient =>
    simp only [type]
    rw [fields?_of_subset hdistinct (by rfl) hfields]
    rfl
  | directional dir =>
    have hdir : AllFinite dir := hs
    simp only [type]
    rw [fields?_of_subset hdistinct (by rfl) hfields]
    simp [writeFields, hdir]
  | point pos attenuation =>
    obtain ⟨hpos, hattenuation⟩ := allFinite_point.mp hs
    simp only [type]
    rw [fields?_of_subset hdistinct (by rfl) hfields]
    simp [writeFields, hpos, hattenuation]
  | spot pos dir attenuation cutoff =>
    obtain ⟨hpos, hdir, hattenuation, hcutoff⟩ := allFinite_spot.mp hs
    simp only [type]
    rw [fields?_of_subset hdistinct (by rfl) hfields]
    simp [writeFields, hpos, hdir, hattenuation, hcutoff]

/-- A shape is read back from among other fields. -/
theorem readFlattened_tagged {s : LightShape} (hs : AllFinite s) {others : List (String × Json)}
    (hreadable : ∀ f ∈ others, f.2.isReadable = true)
    (hdistinct : ((("type", .string s.type.jsonName) :: (s.writeFields ++ others)).map
      (fun f : String × Json ↦ f.1)).Nodup) :
    readFlattened (("type", .string s.type.jsonName) :: (s.writeFields ++ others)) = some s := by
  obtain ⟨hother, hdistinct⟩ := List.nodup_cons.mp hdistinct
  have hsplit : splitTag "type" (.object (("type", .string s.type.jsonName) ::
      (s.writeFields ++ others))) = _ := splitTag_tagged
    (List.forall_mem_append.mpr ⟨s.readable_writeFields, hreadable⟩) hother
  rw [readFlattened, hsplit]
  simp only [LightType.ofName?_jsonName, Option.bind_some]
  exact readFields_object hs hdistinct (List.subset_append_left _ _)

end LightShape

/-! ### Lights -/

instance : HasFloats Light where
  floats l :=
    floats l.shape ++ floats l.color ++ floats l.intensity ++ floats l.shadowView ++
      floats l.shadowProjection

theorem allFinite_light {l : Light} :
    AllFinite l ↔ AllFinite l.shape ∧ AllFinite l.color ∧ AllFinite l.intensity ∧
      AllFinite l.shadowView ∧ AllFinite l.shadowProjection := by
  unfold AllFinite instHasFloatsLight
  simp only [List.forall_mem_append, and_assoc]

namespace Light

/-- The fields of a light beside those of its shape. -/
def otherFields (l : Light) : List (String × Json) :=
  [("color", write l.color), ("intensity", write l.intensity), ("space", write l.space),
    ("shadow", write l.shadow), ("shadow_view", write l.shadowView),
    ("shadow_projection", write l.shadowProjection)]

theorem readable_otherFields (l : Light) : ∀ f ∈ l.otherFields, f.2.isReadable = true := by
  simp [otherFields]

def fields (l : Light) : List (String × Json) :=
  ("type", .string l.type.jsonName) :: (l.shape.writeFields ++ l.otherFields)

/-- No name of a field clashes with another one. -/
theorem nodup_fields (l : Light) : (l.fields.map (·.1)).Nodup := by
  unfold fields
  cases l.shape <;> simp [LightShape.writeFields, otherFields]

theorem otherFields_subset (l : Light) : l.otherFields ⊆ l.fields :=
  List.subset_cons_of_subset _ (List.subset_append_right _ _)

end Light

instance : LawfulCodec Light where
  read_write {l} hl := by
    obtain ⟨hshape, hcolor, hintensity, hview, hprojection⟩ := allFinite_light.mp hl
    have hflattened : LightShape.readFlattened l.fields = some l.shape :=
      LightShape.readFlattened_tagged hshape l.readable_otherFields l.nodup_fields
    show Light.readWith read (.object l.fields) = some l
    unfold Light.readWith
    dsimp only
    rw [fields?_of_subset l.nodup_fields (by rfl) l.otherFields_subset]
    simp [Light.otherFields, hflattened, hcolor, hintensity, hview, hprojection]
  readable l := by
    refine Json.isReadable_object.mpr (List.forall_mem_cons.mpr ⟨rfl, ?_⟩)
    exact List.forall_mem_append.mpr ⟨l.shape.readable_writeFields, l.readable_otherFields⟩

instance : Floatless Environment := {}

instance : LawfulCodec Environment where
  read_write {e} _ := by
    unfold instCodecEnvironment
    dsimp only
    rw [fields?_object (by rfl) (by decide)]
    simp
  readable e := Json.isReadable_object.mpr (by simp)

instance : Floatless TextureEncoding := {}

instance : LawfulCodec TextureEncoding := ⟨fun {e} _ ↦ by cases e <;> rfl, fun _ ↦ rfl⟩

instance : Floatless AlphaMode := {}

instance : LawfulCodec AlphaMode := ⟨fun {m} _ ↦ by cases m <;> rfl, fun _ ↦ rfl⟩

/-! ### Textures and blends -/

instance : HasFloats TextureUse := ⟨fun t ↦ floats t.matrix⟩

theorem TextureUse.readWith_write {encoding : Json → Option TextureEncoding} {t : TextureUse}
    (ht : AllFinite t) (hencoding : encoding (write t.encoding) = some t.encoding) :
    readWith encoding (write t) = some t := by
  have hmatrix : AllFinite t.matrix := ht
  unfold readWith instCodecTextureUse
  dsimp only
  rw [fields?_object (by rfl) (by decide)]
  simp [hmatrix, orElseBy, hencoding]

instance : LawfulCodec TextureUse where
  read_write ht := TextureUse.readWith_write ht (LawfulCodec.read_write (.of_floatless _))
  readable t := Json.isReadable_object.mpr (by simp)

instance : NeverNull TextureUse := ⟨fun _ ↦ nofun⟩

theorem readGatheredChoice_encoding (e : TextureEncoding) :
    readGatheredChoice TextureEncoding.table (write e) = some e := by
  cases e <;> rfl

@[simp]
theorem surfaceTexture_write {o : Option TextureUse} (ho : AllFinite o) :
    surfaceTexture (some (write o)) = some o := by
  cases o with
  | none => rfl
  | some t =>
    have hread : surfaceTexture (some (write t)) = _ :=
      readNullable_of_ne_null (NeverNull.ne_null t)
    exact hread.trans (congrArg (Option.map some)
      (TextureUse.readWith_write ho.some (readGatheredChoice_encoding _)))

instance : HasFloats Fresnel where
  floats f :=
    floats f.edgeColor ++ floats f.centerColor ++ floats f.edgeBias ++ floats f.centerBias ++
      floats f.power

theorem allFinite_fresnel {f : Fresnel} :
    AllFinite f ↔ AllFinite f.edgeColor ∧ AllFinite f.centerColor ∧ AllFinite f.edgeBias ∧
      AllFinite f.centerBias ∧ AllFinite f.power := by
  unfold AllFinite instHasFloatsFresnel
  simp only [List.forall_mem_append, and_assoc]

instance : LawfulCodec Fresnel where
  read_write {f} hf := by
    have hparts := allFinite_fresnel.mp hf
    unfold instCodecFresnel
    dsimp only
    rw [fields?_object (by rfl) (by decide)]
    simp [hparts]
  readable f := Json.isReadable_object.mpr (by simp)

instance : NeverNull Fresnel := ⟨fun _ ↦ nofun⟩

/-! ### Surfaces -/

namespace LambertSurface

instance : HasFloats LambertSurface where
  floats s :=
    floats s.ambient ++ floats s.color ++ floats s.emissive ++ floats s.alpha

theorem allFinite_iff {s : LambertSurface} :
    AllFinite s ↔
      AllFinite s.ambient ∧ AllFinite s.color ∧ AllFinite s.emissive ∧ AllFinite s.alpha := by
  unfold AllFinite instHasFloats
  simp only [List.forall_mem_append, and_assoc]

theorem readable_writeFields (s : LambertSurface) : ∀ f ∈ s.writeFields, f.2.isReadable = true := by
  simp [writeFields]

theorem read?_object {s : LambertSurface} (hs : AllFinite s) :
    read? (.object s.writeFields) = some s := by
  have hparts := allFinite_iff.mp hs
  unfold read? writeFields
  rw [fields?_object (by rfl) (by decide)]
  simp [hparts]

end LambertSurface

namespace PhongSurface

instance : HasFloats PhongSurface where
  floats s :=
    floats s.ambient ++ floats s.diffuse ++ floats s.specular ++ floats s.emissive ++
      floats s.alpha ++ floats s.shininess ++ floats s.reflectivity ++ floats s.ambientMap ++
      floats s.diffuseMap ++ floats s.specularMap ++ floats s.emissiveMap ++
      floats s.alphaMap ++ floats s.occlusionMap ++ floats s.normalMap ++
      floats s.reflectivityMap ++ floats s.diffuseFresnel ++ floats s.specularFresnel ++
      floats s.alphaFresnel ++ floats s.emissiveFresnel ++ floats s.reflectivityFresnel

theorem allFinite_iff {s : PhongSurface} :
    AllFinite s ↔
      AllFinite s.ambient ∧ AllFinite s.diffuse ∧ AllFinite s.specular ∧ AllFinite s.emissive ∧
      AllFinite s.alpha ∧ AllFinite s.shininess ∧ AllFinite s.reflectivity ∧
      AllFinite s.ambientMap ∧ AllFinite s.diffuseMap ∧ AllFinite s.specularMap ∧
      AllFinite s.emissiveMap ∧ AllFinite s.alphaMap ∧ AllFinite s.occlusionMap ∧
      AllFinite s.normalMap ∧ AllFinite s.reflectivityMap ∧ AllFinite s.diffuseFresnel ∧
      AllFinite s.specularFresnel ∧ AllFinite s.alphaFresnel ∧ AllFinite s.emissiveFresnel ∧
      AllFinite s.reflectivityFresnel := by
  unfold AllFinite instHasFloats
  simp only [List.forall_mem_append, and_assoc]

theorem readable_writeFields (s : PhongSurface) : ∀ f ∈ s.writeFields, f.2.isReadable = true := by
  simp [writeFields]

theorem read?_object {s : PhongSurface} (hs : AllFinite s) :
    read? (.object s.writeFields) = some s := by
  have hparts := allFinite_iff.mp hs
  unfold read? writeFields
  rw [fields?_object (by rfl) (by decide)]
  simp [hparts]

end PhongSurface

namespace MetallicSurface

instance : HasFloats MetallicSurface where
  floats s :=
    floats s.baseColor ++ floats s.metallic ++ floats s.roughness ++ floats s.specularF0 ++
      floats s.emissive ++ floats s.alpha ++ floats s.baseColorMap ++ floats s.metallicMap ++
      floats s.roughnessMap ++ floats s.metallicRoughnessMap ++ floats s.emissiveMap ++
      floats s.occlusionMap ++ floats s.alphaMap ++ floats s.normalMap

theorem allFinite_iff {s : MetallicSurface} :
    AllFinite s ↔
      AllFinite s.baseColor ∧ AllFinite s.metallic ∧ AllFinite s.roughness ∧
      AllFinite s.specularF0 ∧ AllFinite s.emissive ∧ AllFinite s.alpha ∧
      AllFinite s.baseColorMap ∧ AllFinite s.metallicMap ∧ AllFinite s.roughnessMap ∧
      AllFinite s.metallicRoughnessMap ∧ AllFinite s.emissiveMap ∧ AllFinite s.occlusionMap ∧
      AllFinite s.alphaMap ∧ AllFinite s.normalMap := by
  unfold AllFinite instHasFloats
  simp only [List.forall_mem_append, and_assoc]

theorem readable_writeFields (s : MetallicSurface) :
    ∀ f ∈ s.writeFields, f.2.isReadable = true := by
  simp [writeFields]

theorem read?_object {s : MetallicSurface} (hs : AllFinite s) :
    read? (.object s.writeFields) = some s := by
  have hparts := allFinite_iff.mp hs
  unfold read? writeFields
  rw [fields?_object (by rfl) (by decide)]
  simp [hparts]

end MetallicSurface

namespace SpecularSurface

instance : HasFloats SpecularSurface where
  floats s :=
    floats s.diffuse ++ floats s.specular ++ floats s.glossiness ++ floats s.emissive ++
      floats s.alpha ++ floats s.diffuseMap ++ floats s.specularMap ++
      floats s.glossinessMap ++ floats s.specularGlossinessMap ++ floats s.emissiveMap ++
      floats s.occlusionMap ++ floats s.alphaMap ++ floats s.normalMap

theorem allFinite_iff {s : SpecularSurface} :
    AllFinite s ↔
      AllFinite s.diffuse ∧ AllFinite s.specular ∧ AllFinite s.glossiness ∧ AllFinite s.emissive ∧
      AllFinite s.alpha ∧ AllFinite s.diffuseMap ∧ AllFinite s.specularMap ∧
      AllFinite s.glossinessMap ∧ AllFinite s.specularGlossinessMap ∧ AllFinite s.emissiveMap ∧
      AllFinite s.occlusionMap ∧ AllFinite s.alphaMap ∧ AllFinite s.normalMap := by
  unfold AllFinite instHasFloats
  simp only [List.forall_mem_append, and_assoc]

theorem readable_writeFields (s : SpecularSurface) :
    ∀ f ∈ s.writeFields, f.2.isReadable = true := by
  simp [writeFields]

theorem read?_object {s : SpecularSurface} (hs : AllFinite s) :
    read? (.object s.writeFields) = some s := by
  have hparts := allFinite_iff.mp hs
  unfold read? writeFields
  rw [fields?_object (by rfl) (by decide)]
  simp [hparts]

end SpecularSurface

namespace Surface

instance : HasFloats Surface where
  floats
    | .lambert s => floats s
    | .phong s => floats s
    | .metallicRoughness s => floats s
    | .specularGlossiness s => floats s

instance : LawfulCodec Surface where
  read_write {s} hs := by
    unfold instCodecSurface
    cases s with
    | lambert s =>
      dsimp only
      rw [splitTag_tagged s.readable_writeFields (by simp [LambertSurface.writeFields])]
      exact congrArg (Option.map Surface.lambert) (LambertSurface.read?_object hs)
    | phong s =>
      dsimp only
      rw [splitTag_tagged s.readable_writeFields (by simp [PhongSurface.writeFields])]
      exact congrArg (Option.map Surface.phong) (PhongSurface.read?_object hs)
    | metallicRoughness s =>
      dsimp only
      rw [splitTag_tagged s.readable_writeFields (by simp [MetallicSurface.writeFields])]
      exact congrArg (Option.map Surface.metallicRoughness) (MetallicSurface.read?_object hs)
    | specularGlossiness s =>
      dsimp only
      rw [splitTag_tagged s.readable_writeFields (by simp [SpecularSurface.writeFields])]
      exact congrArg (Option.map Surface.specularGlossiness) (SpecularSurface.read?_object hs)
  readable s := by
    cases s with
    | lambert s => exact isReadable_tagged s.readable_writeFields
    | phong s => exact isReadable_tagged s.readable_writeFields
    | metallicRoughness s => exact isReadable_tagged s.readable_writeFields
    | specularGlossiness s => exact isReadable_tagged s.readable_writeFields

end Surface

/-! ### Materials -/

instance : HasFloats Material :=
  ⟨fun m ↦ floats m.alphaCutoff ++ floats m.pointSize ++ floats m.surface⟩

theorem allFinite_material {m : Material} :
    AllFinite m ↔ AllFinite m.alphaCutoff ∧ AllFinite m.pointSize ∧ AllFinite m.surface := by
  unfold AllFinite instHasFloatsMaterial
  simp only [List.forall_mem_append, and_assoc]

instance : LawfulCodec Material where
  read_write {m} hm := by
    have hparts := allFinite_material.mp hm
    unfold instCodecMaterial
    dsimp only
    rw [fields?_object (by rfl) (by decide)]
    simp [hparts]
  readable m := Json.isReadable_object.mpr (by simp)

instance : HasFloats ClipPlane := ⟨fun p ↦ floats p.pos ++ floats p.dir⟩

theorem allFinite_clipPlane {p : ClipPlane} : AllFinite p ↔ AllFinite p.pos ∧ AllFinite p.dir :=
  List.forall_mem_append

instance : LawfulCodec ClipPlane where
  read_write {p} hp := by
    have hparts := allFinite_clipPlane.mp hp
    unfold instCodecClipPlane
    dsimp only
    rw [fields?_object (by rfl) (by decide)]
    simp [hparts]
  readable p := Json.isReadable_object.mpr (by simp)

instance : Floatless Billboard := {}

instance : LawfulCodec Billboard := ⟨fun {b} _ ↦ by cases b <;> rfl, fun _ ↦ rfl⟩

instance : Floatless DrawModes := {}

instance : LawfulCodec DrawModes where
  read_write {m} _ := by
    unfold instCodecDrawModes
    dsimp only
    rw [fields?_object (by rfl) (by decide)]
    simp
  readable m := Json.isReadable_object.mpr (by simp)

instance : HasFloats (Camera Float32) := ⟨fun c ↦ floats c.view ++ floats c.projection⟩

theorem allFinite_camera {c : Camera Float32} :
    AllFinite c ↔ AllFinite c.view ∧ AllFinite c.projection := List.forall_mem_append

instance : LawfulCodec (Camera Float32) where
  read_write {c} hc := by
    have hparts := allFinite_camera.mp hc
    unfold instCodecCameraFloat32
    dsimp only
    rw [fields?_object (by rfl) (by decide)]
    simp [hparts]
  readable c := Json.isReadable_object.mpr (by simp)

instance : HasFloats (Transform Float32) := ⟨fun t ↦ floats t.matrix⟩

instance : LawfulCodec (Transform Float32) where
  read_write {t} ht := by
    have hmatrix : AllFinite t.matrix := ht
    unfold instCodecTransformFloat32
    dsimp only
    rw [fields?_object (by rfl) (by decide)]
    simp [hmatrix]
  readable t := Json.isReadable_object.mpr (by simp)

/-! ### Drawables and scenes -/

instance : HasFloats Drawable :=
  ⟨fun d ↦ floats d.geometry ++ floats d.material ++ floats d.transform⟩

theorem allFinite_drawable {d : Drawable} :
    AllFinite d ↔ AllFinite d.geometry ∧ AllFinite d.material ∧ AllFinite d.transform := by
  unfold AllFinite instHasFloatsDrawable
  simp only [List.forall_mem_append, and_assoc]

instance : LawfulCodec Drawable where
  read_write {d} hd := by
    have hparts := allFinite_drawable.mp hd
    unfold instCodecDrawable
    dsimp only
    rw [fields?_object (by rfl) (by decide)]
    simp [hparts]
  readable d := Json.isReadable_object.mpr (by simp)

instance : HasFloats Scene := ⟨fun s ↦ floats s.camera ++ floats s.lights ++ floats s.clips⟩

theorem allFinite_scene {s : Scene} :
    AllFinite s ↔ AllFinite s.camera ∧ AllFinite s.lights ∧ AllFinite s.clips := by
  unfold AllFinite instHasFloatsScene
  simp only [List.forall_mem_append, and_assoc]

instance : LawfulCodec Scene where
  read_write {s} hs := by
    have hparts := allFinite_scene.mp hs
    have hlights : orElseBy (readList read) [] (some (write s.lights)) = some s.lights :=
      LawfulCodec.read_write hparts.2.1
    show Scene.readWith read (write s) = some s
    unfold Scene.readWith instCodecScene
    dsimp only
    rw [fields?_object (by rfl) (by decide)]
    simp [hparts, hlights]
  readable s := Json.isReadable_object.mpr (by simp)

/-- A drawable with quantized arrays, a texture with a matrix and a blend. -/
def quantizedDrawable : Drawable where
  id := ⟨0xffffffff⟩
  geometry :=
    { Geometry.ofTriangles ⟨1⟩ [] with
      topology := .lineStrip
      positions := .uint16 [0, 65535, 7]
      normals := some (.int8 [-128, 127])
      indices := some (.uint32 [0])
      quantization := some ⟨.identity, some .identity⟩ }
  material := .ofSurface ⟨2⟩ (.phong
    { PhongSurface.standard with
      diffuseMap := some ⟨⟨3⟩, some .identity, .srgb⟩
      alphaFresnel := some .standard })
  transform := ⟨⟨4⟩, .identity⟩
  modes := ⟨true, .cylindrical, false, true⟩

/-- A scene with a spot light, a clip plane and a map around it. -/
def spotlitScene : Scene where
  camera := .standard
  lights := [.ofShape (.spot .zero .one .none 0.5)]
  clips := [.through .zero .one]
  environment := ⟨some ⟨5⟩, none⟩

/-- Every drawable and every scene whose floats are finite is read back from JSON as it was
written. -/
theorem read_write_drawable_scene :
    (∀ d : Drawable, AllFinite d → read (write d) = some d) ∧
      ∀ s : Scene, AllFinite s → read (write s) = some s :=
  ⟨fun _ ↦ LawfulCodec.read_write, fun _ ↦ LawfulCodec.read_write⟩

theorem read_write_quantizedDrawable_spotlitScene :
    AllFinite quantizedDrawable ∧ AllFinite spotlitScene ∧
      read (write quantizedDrawable) = some quantizedDrawable ∧
      read (write spotlitScene) = some spotlitScene := by
  have hdrawable : AllFinite quantizedDrawable := by decide
  have hscene : AllFinite spotlitScene := by decide
  exact ⟨hdrawable, hscene, read_write_drawable_scene.1 _ hdrawable,
    read_write_drawable_scene.2 _ hscene⟩

end SceneRenderer
