import ImageRegistry.Manifest.Basic
import ImageRegistry.Proofs.Json.Members

namespace ImageRegistry

open Text (textOf)

inductive DecodesTo {α : Type} (P : α → Prop) : Except ManifestFault α → Prop
  | refused (error : DecodeError) : DecodesTo P (.error (.undecodable error))
  | decoded {a : α} : P a → DecodesTo P (.ok a)

section DecodesTo

variable {α β : Type} {P : α → Prop} {Q : β → Prop}

theorem DecodesTo.bind {result : Except ManifestFault α} {next : α → Except ManifestFault β}
    (h : DecodesTo P result) (hn : ∀ a, P a → DecodesTo Q (next a)) :
    DecodesTo Q (result >>= next) := by
  cases h with
  | refused error => exact .refused error
  | decoded ha => exact hn _ ha

theorem decodesTo_decoding (result : Except DecodeError α) :
    DecodesTo (fun a => result = .ok a) (decoding result) := by
  cases result with
  | ok a => exact .decoded rfl
  | error error => exact .refused error

theorem decodesTo_conversion {result : Except Json.ConversionError α} {a : α}
    (h : result = .ok a) (ha : P a) : DecodesTo P (conversion result) := by
  rw [h]
  exact .decoded ha

theorem DecodesTo.map {result : Except ManifestFault α} {f : α → β} (h : DecodesTo P result)
    (hf : ∀ a, P a → Q (f a)) : DecodesTo Q (result.map f) := by
  cases h with
  | refused error => exact .refused error
  | decoded ha => exact .decoded (hf _ ha)

theorem DecodesTo.mono {P' : α → Prop} {result : Except ManifestFault α} (h : DecodesTo P result)
    (hp : ∀ a, P a → P' a) : DecodesTo P' result := by
  cases h with
  | refused error => exact .refused error
  | decoded ha => exact .decoded (hp _ ha)

theorem DecodesTo.of_ok {result : Except ManifestFault α} {a : α} (h : DecodesTo P result)
    (ha : result = .ok a) : P a := by
  rw [ha] at h
  cases h with
  | decoded hp => exact hp

theorem DecodesTo.of_not_ok {result : Except ManifestFault α} (h : DecodesTo P result)
    (hn : ∀ a, result ≠ .ok a) : ∃ error, result = .error (.undecodable error) := by
  cases h with
  | refused error => exact ⟨error, rfl⟩
  | @decoded a _ => exact absurd rfl (hn a)

theorem decodesTo_mapM {R : α → β → Prop} {f : α → Except ManifestFault β} {items : List α}
    (h : ∀ item ∈ items, DecodesTo (R item) (f item)) :
    DecodesTo (List.Forall₂ R items) (items.mapM f) := by
  induction items with
  | nil => exact .decoded .nil
  | cons item items ih =>
      obtain ⟨hi, hr⟩ := List.forall_mem_cons.1 h
      rw [List.mapM_cons]
      refine hi.bind fun b hb => (ih hr).bind fun rest hrest => ?_
      exact .decoded (.cons hb hrest)

end DecodesTo

namespace Descriptor

theorem required_eq_ok_iff {name : String} {members : Json.Members} {value : Json} :
    required name members = .ok value ↔ Json.member? name members = some value := by
  unfold required
  cases Json.member? name members with
  | none => simp
  | some found => simp

theorem identity_eq_ok_iff {members : Json.Members} {size : Int} {digest : String} :
    identity members = .ok (size, digest) ↔
      Json.member? "size" members = some (.int size) ∧
        ∃ text, Json.member? "digest" members = some (.str text) ∧ digest = textOf text := by
  simp only [identity, bind_eq_ok_iff, required_eq_ok_iff]
  constructor
  · rintro ⟨_, hs, _, hd, h⟩
    split at h
    · next text =>
        cases h
        exact ⟨hs, text, hd, rfl⟩
    · cases h
    · cases h
  · rintro ⟨hs, text, hd, rfl⟩
    exact ⟨_, hs, _, hd, rfl⟩

theorem ofJson_eq_ok_iff {value : Json} {d : Descriptor} :
    ofJson value = .ok d ↔
      ∃ members, value = .obj members ∧ identity members = .ok (d.size, d.digest) ∧
        Json.orEmpty Json.toList (Json.member? "urls" members) = .ok d.urls ∧
        Json.orEmpty Json.toTable (Json.member? "annotations" members) = .ok d.annotations ∧
        d.mediaType = (Json.member? "mediaType" members).getD (Json.text "") ∧
        d.platform = (Json.member? "platform" members).getD .null := by
  simp only [ofJson, bind_eq_ok_iff, decoding, conversion, mapError_eq_ok_iff,
    Json.members_eq_ok_iff]
  refine exists_congr fun members => and_congr_right fun _ => ?_
  constructor
  · rintro ⟨⟨size, digest⟩, hi, urls, hu, annotations, ha, he⟩
    cases he
    exact ⟨hi, hu, ha, rfl, rfl⟩
  · rintro ⟨hi, hu, ha, hm, hp⟩
    refine ⟨_, hi, _, hu, _, ha, ?_⟩
    rw [← hm, ← hp]
    rfl

end Descriptor

namespace Manifest

theorem items_of_getD {name : String} {value : Json} {list : List Json}
    (h : (value.field? name).getD (.arr []) = .arr list) : value.items name = list := by
  rw [Json.items]
  cases hm : value.field? name with
  | none =>
      rw [hm] at h
      cases h
      rfl
  | some value =>
      rw [hm, Option.getD_some] at h
      rw [h]

theorem decodeLists_eq_ok_iff {members : Json.Members} {layers manifests : List Json} :
    decodeLists members = .ok (layers, manifests) ↔
      (Json.member? "layers" members).getD (.arr []) = .arr layers ∧
        (Json.member? "manifests" members).getD (.arr []) = .arr manifests := by
  unfold decodeLists
  split
  · next hl hm => simp [hl, hm]
  · next hn =>
      constructor
      · nofun
      · rintro ⟨hl, hm⟩
        exact (hn _ _ hl hm).elim

theorem items_of_decodeLists {members : Json.Members} {layers manifests : List Json}
    (h : decodeLists members = .ok (layers, manifests)) :
    (Json.obj members).items "layers" = layers ∧
      (Json.obj members).items "manifests" = manifests := by
  obtain ⟨hl, hm⟩ := decodeLists_eq_ok_iff.1 h
  exact ⟨items_of_getD hl, items_of_getD hm⟩

theorem ofJson_eq_ok_iff {value : Json} {m : Manifest} :
    ofJson value = .ok m ↔
      ∃ members, value = .obj members ∧ decodeSchemaVersion members = .ok m.schemaVersion ∧
        decodeLists members = .ok (value.items "layers", value.items "manifests") ∧
        Json.text? "mediaType" members = .ok m.mediaType ∧ decodeConfig members = .ok m.config ∧
        List.Forall₂ (fun item d => Descriptor.ofJson item = .ok d)
          (value.items "layers") m.layers ∧
        List.Forall₂ (fun item d => Descriptor.ofJson item = .ok d)
          (value.items "manifests") m.manifests ∧
        Json.orEmpty Json.toTable (Json.member? "annotations" members) = .ok m.annotations := by
  simp only [ofJson, bind_eq_ok_iff, decoding, conversion, mapError_eq_ok_iff,
    Json.members_eq_ok_iff, mapM_eq_ok_iff]
  refine exists_congr fun members => and_congr_right fun hv => ?_
  subst hv
  constructor
  · rintro ⟨version, hversion, ⟨layers, manifests⟩, hlists, type, htype, config, hconfig, ls, hls,
      ms, hms, annotations, ha, he⟩
    cases he
    obtain ⟨hl, hm⟩ := items_of_decodeLists hlists
    rw [hl, hm]
    exact ⟨hversion, hlists, htype, hconfig, hls, hms, ha⟩
  · rintro ⟨hversion, hlists, htype, hconfig, hls, hms, ha⟩
    exact ⟨_, hversion, _, hlists, _, htype, _, hconfig, _, hls, _, hms, _, ha, rfl⟩

theorem decodeSchemaVersion_eq_ok_iff {members : Json.Members} {version : Int} :
    decodeSchemaVersion members = .ok version ↔
      Json.member? "schemaVersion" members = some (.int version) := by
  unfold decodeSchemaVersion
  split
  · next found hf => simp [hf]
  · next hn =>
      constructor
      · nofun
      · intro h
        exact absurd h (hn version)

end Manifest

end ImageRegistry
