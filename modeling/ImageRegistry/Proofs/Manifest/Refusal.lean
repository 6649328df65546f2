import ImageRegistry.Proofs.Manifest.Validity

namespace ImageRegistry

open Text (textOf)

def Undecodable {α : Type} (result : Except ManifestFault α) : Prop :=
  ∃ error, result = .error (.undecodable error)

section Undecodable

variable {α β : Type}

theorem not_undecodable_pure (a : α) : ¬ Undecodable (pure a) := nofun

theorem undecodable_bind_iff {result : Except ManifestFault α}
    {next : α → Except ManifestFault β} :
    Undecodable (result >>= next) ↔
      Undecodable result ∨ ∃ a, result = .ok a ∧ Undecodable (next a) := by
  cases result with
  | ok a => simp [Undecodable, bind, Except.bind]
  | error fault => simp [Undecodable, bind, Except.bind]

theorem undecodable_bind_pure_iff {result : Except ManifestFault α} {f : α → β} :
    Undecodable (result >>= fun a => pure (f a)) ↔ Undecodable result := by
  rw [undecodable_bind_iff]
  exact or_iff_left fun ⟨a, _, hu⟩ => not_undecodable_pure (f a) hu

theorem undecodable_map_iff {result : Except ManifestFault α} {f : α → β} :
    Undecodable (result.map f) ↔ Undecodable result := by
  cases result with
  | ok a => simp [Undecodable, Except.map]
  | error fault => simp [Undecodable, Except.map]

theorem not_undecodable_conversion (result : Except Json.ConversionError α) :
    ¬ Undecodable (conversion result) := by
  cases result with
  | ok a => nofun
  | error error => nofun

theorem undecodable_decoding_bind {result : Except DecodeError α}
    {next : α → Except ManifestFault β} (h : ∀ a, result = .ok a → Undecodable (next a)) :
    Undecodable (decoding result >>= next) := by
  cases result with
  | ok a => exact h a rfl
  | error error => exact ⟨error, rfl⟩

theorem decoding_bind_of_ok {result : Except DecodeError α} {next : α → Except ManifestFault β}
    {a : α} (h : result = .ok a) : (decoding result >>= next) = next a := by
  rw [h]
  rfl

end Undecodable

namespace Json

inductive Tabular : Json → Prop
  | object (ms : Members) : Tabular (.obj ms)
  | pairs {value : Json} {items : List Json} : value.elements? = some items →
      (∀ item ∈ items, ∃ key entry, item.elements? = some [key, entry] ∧ key.isKey = true) →
      Tabular value

theorem exists_orEmpty_iff {α : Type} {convert : Json → Except ConversionError (List α)}
    {value : Option Json} :
    (∃ list, orEmpty convert value = .ok list) ↔
      ∀ v ∈ value, v.isTruthy = true → ∃ list, convert v = .ok list := by
  cases value with
  | none => simp [orEmpty]
  | some v =>
      cases ht : v.isTruthy with
      | true => simp [orEmpty, ht]
      | false => simp [orEmpty, ht]

theorem toList_eq_ok_iff {value : Json} {items : List Json} :
    value.toList = .ok items ↔ value.elements? = some items := by
  unfold toList
  cases value.elements? with
  | none => simp
  | some found => simp

theorem exists_toPair_iff {item : Json} :
    (∃ pair, item.toPair = .ok pair) ↔
      ∃ key entry, item.elements? = some [key, entry] ∧ key.isKey = true := by
  unfold toPair
  split
  · next key entry he =>
      cases hk : key.isKey with
      | true => simp [he, hk]
      | false => simp [he, hk]
  · next items hn he =>
      constructor
      · nofun
      · rintro ⟨key, entry, hp, -⟩
        exact (hn key entry (Option.some.inj (he.symm.trans hp))).elim
  · next he => simp [he]

theorem exists_toTable_iff {value : Json} :
    (∃ table, value.toTable = .ok table) ↔ Tabular value := by
  constructor
  · rintro ⟨table, h⟩
    unfold toTable at h
    split at h
    · exact .object _
    · obtain ⟨items, hi, h⟩ := bind_eq_ok_iff.1 h
      obtain ⟨pairs, hp, -⟩ := bind_eq_ok_iff.1 h
      exact .pairs (toList_eq_ok_iff.1 hi) fun item hm =>
        exists_toPair_iff.1 (exists_ok_mapM_iff.1 ⟨pairs, hp⟩ item hm)
  · intro h
    cases h with
    | object ms => exact ⟨_, rfl⟩
    | @pairs _ items he hp =>
        obtain ⟨pairs, hm⟩ :=
          exists_ok_mapM_iff.2 fun item hi => exists_toPair_iff.2 (hp item hi)
        unfold toTable
        split
        · exact ⟨_, rfl⟩
        · exact ⟨_, bind_eq_ok_iff.2
            ⟨items, toList_eq_ok_iff.2 he, bind_eq_ok_iff.2 ⟨pairs, hm, rfl⟩⟩⟩

def present (name : String) (value : Json) : List Json :=
  match value.field? name with
  | none | some .null => []
  | some found => [found]

theorem present_obj (name : String) (ms : Members) :
    (obj ms).present name = (given? name ms).toList := by
  unfold present given?
  rw [show (obj ms).field? name = member? name ms from rfl]
  cases member? name ms with
  | none => rfl
  | some found => cases found <;> rfl

end Json

namespace Descriptor

structure Convertible (value : Json) : Prop where
  urls : ∀ urls ∈ value.field? "urls", urls.isTruthy = true → ∃ items, urls.elements? = some items
  annotations : ∀ table ∈ value.field? "annotations", table.isTruthy = true → table.Tabular

theorem exists_identity_iff {members : Json.Members} :
    (∃ pair, identity members = .ok pair) ↔ Valid (.obj members) := by
  constructor
  · rintro ⟨⟨size, digest⟩, h⟩
    obtain ⟨hs, text, hd, -⟩ := identity_eq_ok_iff.1 h
    exact ⟨⟨size, hs⟩, ⟨text, hd⟩⟩
  · rintro ⟨⟨size, hs⟩, ⟨text, hd⟩⟩
    exact ⟨(size, textOf text), identity_eq_ok_iff.2 ⟨hs, text, hd, rfl⟩⟩

theorem undecodable_ofJson_iff {value : Json} : Undecodable (ofJson value) ↔ ¬ Valid value := by
  constructor
  · rintro hu ⟨⟨size, hs⟩, ⟨digest, hd⟩⟩
    obtain ⟨members, rfl⟩ := Json.object_of_field? hs
    have hi : identity members = .ok (size, textOf digest) :=
      identity_eq_ok_iff.2 ⟨hs, digest, hd, rfl⟩
    rw [ofJson, decoding_bind_of_ok (Json.members_eq_ok_iff.2 rfl), decoding_bind_of_ok hi] at hu
    -- What is left are the two conversions, whose errors are of the other kind.
    rcases undecodable_bind_iff.1 hu with hu | ⟨urls, -, hu⟩
    · exact not_undecodable_conversion _ hu
    · exact not_undecodable_conversion _ (undecodable_bind_pure_iff.1 hu)
  · intro hn
    refine undecodable_decoding_bind fun members hm => ?_
    obtain rfl := Json.members_eq_ok_iff.1 hm
    refine undecodable_decoding_bind fun pair hi => ?_
    exact absurd (exists_identity_iff.1 ⟨pair, hi⟩) hn

theorem exists_ofJson_iff {value : Json} :
    (∃ d, ofJson value = .ok d) ↔ Valid value ∧ Convertible value := by
  constructor
  · rintro ⟨d, h⟩
    obtain ⟨members, rfl, hi, hu, ha, -, -⟩ := ofJson_eq_ok_iff.1 h
    refine ⟨exists_identity_iff.1 ⟨_, hi⟩, fun urls hv ht => ?_, fun table hv ht => ?_⟩
    · obtain ⟨items, he⟩ := Json.exists_orEmpty_iff.1 ⟨_, hu⟩ urls hv ht
      exact ⟨items, Json.toList_eq_ok_iff.1 he⟩
    · exact Json.exists_toTable_iff.1 (Json.exists_orEmpty_iff.1 ⟨_, ha⟩ table hv ht)
  · rintro ⟨hv, hc⟩
    obtain ⟨members, rfl⟩ := Json.object_of_field? hv.size.choose_spec
    obtain ⟨pair, hi⟩ := exists_identity_iff.2 hv
    have hurls : ∃ urls, Json.orEmpty Json.toList (Json.member? "urls" members) = .ok urls :=
      Json.exists_orEmpty_iff.2 fun urls hm ht =>
        (hc.urls urls hm ht).imp fun _ => Json.toList_eq_ok_iff.2
    have hannotations :
        ∃ table, Json.orEmpty Json.toTable (Json.member? "annotations" members) = .ok table :=
      Json.exists_orEmpty_iff.2 fun table hm ht =>
        Json.exists_toTable_iff.2 (hc.annotations table hm ht)
    obtain ⟨urls, hu⟩ := hurls
    obtain ⟨annotations, ha⟩ := hannotations
    exact ⟨⟨_, pair.1, pair.2, urls, annotations, _⟩,
      ofJson_eq_ok_iff.2 ⟨members, rfl, hi, hu, ha, rfl, rfl⟩⟩

-- Descriptors are decoded one after the other: one whose conversion fails hides those behind it.
inductive Refusing : List Json → Prop
  | here {value : Json} {rest : List Json} : ¬ Valid value → Refusing (value :: rest)
  | later {value : Json} {rest : List Json} :
      Valid value → Convertible value → Refusing rest → Refusing (value :: rest)

theorem not_refusing_nil : ¬ Refusing [] := nofun

theorem refusing_cons_iff {value : Json} {rest : List Json} :
    Refusing (value :: rest) ↔
      ¬ Valid value ∨ (Valid value ∧ Convertible value) ∧ Refusing rest := by
  constructor
  · intro h
    cases h with
    | here hn => exact .inl hn
    | later hv hc hr => exact .inr ⟨⟨hv, hc⟩, hr⟩
  · rintro (hn | ⟨⟨hv, hc⟩, hr⟩)
    · exact .here hn
    · exact .later hv hc hr

theorem refusing_append_iff {before after : List Json} :
    Refusing (before ++ after) ↔
      Refusing before ∨ (∀ value ∈ before, Valid value ∧ Convertible value) ∧ Refusing after := by
  induction before with
  | nil => simp [not_refusing_nil]
  | cons value rest ih =>
      rw [List.cons_append, refusing_cons_iff, refusing_cons_iff, ih, List.forall_mem_cons]
      tauto

theorem undecodable_mapM_iff {values : List Json} :
    Undecodable (values.mapM ofJson) ↔ Refusing values := by
  induction values with
  | nil => exact iff_of_false (not_undecodable_pure []) not_refusing_nil
  | cons value rest ih =>
      rw [List.mapM_cons, undecodable_bind_iff, undecodable_ofJson_iff, refusing_cons_iff]
      simp only [undecodable_bind_pure_iff, exists_and_right, exists_ofJson_iff, ih]

theorem exists_mapM_iff {values : List Json} :
    (∃ descriptors, values.mapM ofJson = .ok descriptors) ↔
      ∀ value ∈ values, Valid value ∧ Convertible value := by
  simp only [exists_ok_mapM_iff, exists_ofJson_iff]

end Descriptor

namespace Manifest

structure Headed (value : Json) : Prop where
  schemaVersion : ∃ version, value.field? "schemaVersion" = some (.int version)
  mediaType : ∀ type ∈ value.field? "mediaType", type = .null ∨ ∃ text, type = .str text
  layers : ∀ layers ∈ value.field? "layers", ∃ items, layers = .arr items
  manifests : ∀ manifests ∈ value.field? "manifests", ∃ items, manifests = .arr items

def descriptors (value : Json) : List Json :=
  value.present "config" ++ value.items "layers" ++ value.items "manifests"

inductive Refused (value : Json) : Prop
  | head : ¬ Headed value → Refused value
  | descriptor : Descriptor.Refusing (descriptors value) → Refused value

theorem getD_arr_iff {value : Option Json} :
    (∃ items, value.getD (.arr []) = .arr items) ↔ ∀ v ∈ value, ∃ items, v = .arr items := by
  cases value with
  | none => simp
  | some v => simp

theorem undecodable_decodeConfig_iff {members : Json.Members} :
    Undecodable (decodeConfig members) ↔
      Descriptor.Refusing ((Json.obj members).present "config") := by
  rw [Json.present_obj]
  unfold decodeConfig
  cases Json.given? "config" members with
  | none => exact iff_of_false (not_undecodable_pure none) Descriptor.not_refusing_nil
  | some config =>
      rw [Option.toList_some, Descriptor.refusing_cons_iff, undecodable_map_iff,
        Descriptor.undecodable_ofJson_iff]
      exact (or_iff_left fun h => Descriptor.not_refusing_nil h.2).symm

theorem exists_decodeConfig_iff {members : Json.Members} :
    (∃ config, decodeConfig members = .ok config) ↔
      ∀ config ∈ (Json.obj members).present "config",
        Descriptor.Valid config ∧ Descriptor.Convertible config := by
  rw [Json.present_obj]
  unfold decodeConfig
  cases Json.given? "config" members with
  | none => exact iff_of_true ⟨none, rfl⟩ nofun
  | some config =>
      rw [Option.toList_some, List.forall_mem_singleton, ← Descriptor.exists_ofJson_iff]
      constructor
      · rintro ⟨_, h⟩
        obtain ⟨d, hd, -⟩ := map_eq_ok_iff.1 h
        exact ⟨d, hd⟩
      · rintro ⟨d, hd⟩
        exact ⟨some d, map_eq_ok_iff.2 ⟨d, hd, rfl⟩⟩

theorem undecodable_of_not_headed {value : Json} (h : ¬ Headed value) :
    Undecodable (ofJson value) := by
  refine undecodable_decoding_bind fun members hm => ?_
  obtain rfl := Json.members_eq_ok_iff.1 hm
  refine undecodable_decoding_bind fun version hversion => ?_
  refine undecodable_decoding_bind fun (layers, manifests) hlists => ?_
  obtain ⟨hl, hm⟩ := decodeLists_eq_ok_iff.1 hlists
  refine undecodable_decoding_bind fun type htype => ?_
  exact absurd
    { schemaVersion := ⟨version, decodeSchemaVersion_eq_ok_iff.1 hversion⟩
      mediaType := Json.exists_optionalText_iff.1 ⟨type, Json.text?_eq_ok_iff.1 htype⟩
      layers := getD_arr_iff.1 ⟨layers, hl⟩
      manifests := getD_arr_iff.1 ⟨manifests, hm⟩ } h

theorem undecodable_iff_of_headed {value : Json} (h : Headed value) :
    Undecodable (ofJson value) ↔ Descriptor.Refusing (descriptors value) := by
  obtain ⟨version, hversion⟩ := h.schemaVersion
  obtain ⟨members, rfl⟩ := Json.object_of_field? hversion
  obtain ⟨layers, hl⟩ := getD_arr_iff.2 h.layers
  obtain ⟨manifests, hm⟩ := getD_arr_iff.2 h.manifests
  obtain ⟨type, htype⟩ := Json.exists_optionalText_iff.2 h.mediaType
  have hlists : decodeLists members = .ok (layers, manifests) :=
    decodeLists_eq_ok_iff.2 ⟨hl, hm⟩
  rw [ofJson, decoding_bind_of_ok (Json.members_eq_ok_iff.2 rfl),
    decoding_bind_of_ok (decodeSchemaVersion_eq_ok_iff.2 hversion), decoding_bind_of_ok hlists]
  dsimp only
  rw [decoding_bind_of_ok (Json.text?_eq_ok_iff.2 htype), descriptors, items_of_getD hl,
    items_of_getD hm, List.append_assoc, Descriptor.refusing_append_iff,
    Descriptor.refusing_append_iff, ← exists_decodeConfig_iff, ← Descriptor.exists_mapM_iff]
  simp only [undecodable_bind_iff, undecodable_decodeConfig_iff, Descriptor.undecodable_mapM_iff,
    not_undecodable_conversion, not_undecodable_pure, and_false, exists_false, or_false,
    exists_and_right]

theorem refused_iff {value : Json} : Refused value ↔ Undecodable (ofJson value) := by
  by_cases h : Headed value
  · rw [undecodable_iff_of_headed h]
    refine ⟨fun hr => ?_, .descriptor⟩
    cases hr with
    | head hn => exact absurd h hn
    | descriptor hd => exact hd
  · exact ⟨fun _ => undecodable_of_not_headed h, fun _ => .head h⟩

end Manifest

end ImageRegistry
