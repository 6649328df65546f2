import ImageRegistry.Proofs.Manifest.Decoding

namespace ImageRegistry

open Json (OptionalList OptionalTable OptionalText)
open Text (textOf)

namespace Descriptor

structure Regular (value : Json) : Prop where
  urls : ∀ urls ∈ value.field? "urls", urls = .null ∨ ∃ items, urls = .arr items
  annotations : ∀ table ∈ value.field? "annotations", table = .null ∨ ∃ ms, table = .obj ms

structure Valid (value : Json) : Prop where
  size : ∃ size, value.field? "size" = some (.int size)
  digest : ∃ digest, value.field? "digest" = some (.str digest)

structure Written (value : Json) (d : Descriptor) : Prop where
  size : value.field? "size" = some (.int d.size)
  digest : ∃ digest, value.field? "digest" = some (.str digest) ∧ d.digest = textOf digest
  urls : OptionalList (value.field? "urls") d.urls
  annotations : OptionalTable (value.field? "annotations") d.annotations
  mediaType : d.mediaType = (value.field? "mediaType").getD (Json.text "")
  platform : d.platform = (value.field? "platform").getD .null

theorem Written.valid {value : Json} {d : Descriptor} (h : Written value d) : Valid value :=
  ⟨⟨d.size, h.size⟩, h.digest.imp fun _ => And.left⟩

theorem exists_written_iff {value : Json} (h : Regular value) :
    (∃ d, Written value d) ↔ Valid value := by
  constructor
  · rintro ⟨d, hw⟩
    exact hw.valid
  · rintro ⟨⟨size, hs⟩, ⟨digest, hd⟩⟩
    obtain ⟨urls, hu⟩ := Json.exists_optional_iff.2 h.urls
    obtain ⟨annotations, ha⟩ := Json.exists_optional_iff.2 h.annotations
    exact
      ⟨{ mediaType := (value.field? "mediaType").getD (Json.text "")
         size, digest := textOf digest, urls, annotations
         platform := (value.field? "platform").getD .null },
        hs, ⟨digest, hd, rfl⟩, hu, ha, rfl, rfl⟩

theorem ofJson_of_written {value : Json} {d : Descriptor} (h : Written value d) :
    ofJson value = .ok d := by
  obtain ⟨members, rfl⟩ := Json.object_of_field? h.size
  exact ofJson_eq_ok_iff.2 ⟨members, rfl, identity_eq_ok_iff.2 ⟨h.size, h.digest⟩,
    Json.orEmpty_toList_of_optional h.urls, Json.orEmpty_toTable_of_optional h.annotations,
    h.mediaType, h.platform⟩

theorem decodesTo_written {value : Json} (h : Regular value) :
    DecodesTo (Written value) (ofJson value) := by
  refine (decodesTo_decoding _).bind fun members hm => ?_
  obtain rfl := Json.members_eq_ok_iff.1 hm
  -- Of a regular value both conversions are known to succeed before they are made.
  obtain ⟨urls, hu⟩ := Json.exists_optional_iff.2 h.urls
  obtain ⟨table, ha⟩ := Json.exists_optional_iff.2 h.annotations
  refine (decodesTo_decoding _).bind fun (size, digest) hi => ?_
  obtain ⟨hs, hd⟩ := identity_eq_ok_iff.1 hi
  refine (decodesTo_conversion (Json.orEmpty_toList_of_optional hu) hu).bind fun urls hu => ?_
  refine (decodesTo_conversion (Json.orEmpty_toTable_of_optional ha) ha).bind fun table ha => ?_
  exact .decoded ⟨hs, hd, hu, ha, rfl, rfl⟩

def ValidList (value : Json) : Prop :=
  ∃ items, value = .arr items ∧ ∀ item ∈ items, Valid item

inductive WrittenList : Option Json → List Descriptor → Prop
  | absent : WrittenList none []
  | list {items : List Json} {descriptors : List Descriptor} :
      List.Forall₂ Written items descriptors → WrittenList (some (.arr items)) descriptors

theorem writtenList_iff {value : Option Json} {descriptors : List Descriptor} :
    WrittenList value descriptors ↔
      ∃ items, value.getD (.arr []) = .arr items ∧ List.Forall₂ Written items descriptors := by
  constructor
  · rintro (_ | ⟨hw⟩)
    · exact ⟨[], rfl, .nil⟩
    · exact ⟨_, rfl, hw⟩
  · rintro ⟨items, he, hw⟩
    cases value with
    | none =>
        cases he
        cases hw
        exact .absent
    | some value =>
        obtain rfl : value = .arr items := he
        exact .list hw

theorem exists_writtenList_iff {value : Option Json}
    (h : ∀ items, value.getD (.arr []) = .arr items → ∀ item ∈ items, Regular item) :
    (∃ descriptors, WrittenList value descriptors) ↔ ∀ list ∈ value, ValidList list := by
  constructor
  · rintro ⟨_, hw⟩ list hl
    cases hw with
    | absent => cases hl
    | @list items _ hw =>
        cases hl
        refine ⟨items, rfl, fun item hm => ?_⟩
        obtain ⟨d, hd⟩ := exists_forall₂_iff.1 ⟨_, hw⟩ item hm
        exact hd.valid
  · intro hv
    cases value with
    | none => exact ⟨[], .absent⟩
    | some list =>
        obtain ⟨items, rfl, hi⟩ := hv list rfl
        have hw : ∀ item ∈ items, ∃ d, Written item d := fun item hm =>
          (exists_written_iff (h items rfl item hm)).2 (hi item hm)
        exact (exists_forall₂_iff.2 hw).imp fun _ => .list

inductive WrittenOption : Option Json → Option Descriptor → Prop
  | absent : WrittenOption none none
  | null : WrittenOption (some .null) none
  | given {value : Json} {d : Descriptor} : Written value d → WrittenOption (some value) (some d)

theorem WrittenOption.eq_none_iff {value : Option Json} {d : Option Descriptor}
    (h : WrittenOption value d) : d = none ↔ value = none ∨ value = some .null := by
  cases h with
  | absent => simp
  | null => simp
  | @given value d hw =>
      have hn : value ≠ .null := by
        rintro rfl
        exact absurd hw.size nofun
      simp [hn]

theorem exists_writtenOption_iff {value : Option Json} (h : ∀ v ∈ value, Regular v) :
    (∃ d, WrittenOption value d) ↔ ∀ v ∈ value, v = .null ∨ Valid v := by
  constructor
  · rintro ⟨_, hw⟩ v hv
    cases hw with
    | absent => cases hv
    | null =>
        cases hv
        exact .inl rfl
    | given hw =>
        cases hv
        exact .inr hw.valid
  · intro hv
    cases value with
    | none => exact ⟨none, .absent⟩
    | some v =>
        rcases hv v rfl with rfl | hv
        · exact ⟨none, .null⟩
        · obtain ⟨d, hd⟩ := (exists_written_iff (h v rfl)).2 hv
          exact ⟨some d, .given hd⟩

end Descriptor

namespace Manifest

structure Regular (value : Json) : Prop where
  config : ∀ config ∈ value.field? "config", Descriptor.Regular config
  layers : ∀ layer ∈ value.items "layers", Descriptor.Regular layer
  manifests : ∀ entry ∈ value.items "manifests", Descriptor.Regular entry
  annotations : ∀ table ∈ value.field? "annotations", table = .null ∨ ∃ ms, table = .obj ms

structure Valid (value : Json) : Prop where
  schemaVersion : ∃ version, value.field? "schemaVersion" = some (.int version)
  mediaType : ∀ type ∈ value.field? "mediaType", type = .null ∨ ∃ text, type = .str text
  config : ∀ config ∈ value.field? "config", config = .null ∨ Descriptor.Valid config
  layers : ∀ layers ∈ value.field? "layers", Descriptor.ValidList layers
  manifests : ∀ manifests ∈ value.field? "manifests", Descriptor.ValidList manifests

structure Written (value : Json) (m : Manifest) : Prop where
  schemaVersion : value.field? "schemaVersion" = some (.int m.schemaVersion)
  mediaType : OptionalText (value.field? "mediaType") m.mediaType
  config : Descriptor.WrittenOption (value.field? "config") m.config
  layers : Descriptor.WrittenList (value.field? "layers") m.layers
  manifests : Descriptor.WrittenList (value.field? "manifests") m.manifests
  annotations : OptionalTable (value.field? "annotations") m.annotations

theorem decodeConfig_of_written {members : Json.Members} {config : Option Descriptor}
    (h : Descriptor.WrittenOption (Json.member? "config" members) config) :
    decodeConfig members = .ok config := by
  unfold decodeConfig Json.given?
  generalize Json.member? "config" members = value at h
  cases h with
  | absent => rfl
  | null => rfl
  | @given value d hw =>
      obtain ⟨ms, rfl⟩ := Json.object_of_field? hw.size
      exact map_eq_ok_iff.2 ⟨d, Descriptor.ofJson_of_written hw, rfl⟩

theorem decodesTo_decodeConfig {members : Json.Members}
    (h : ∀ config ∈ Json.member? "config" members, Descriptor.Regular config) :
    DecodesTo (Descriptor.WrittenOption (Json.member? "config" members))
      (decodeConfig members) := by
  unfold decodeConfig Json.given?
  cases hm : Json.member? "config" members with
  | none => exact .decoded .absent
  | some config =>
      cases config with
      | null => exact .decoded .null
      | _ => exact (Descriptor.decodesTo_written (h _ hm)).map fun d hw => .given hw

theorem ofJson_of_written {value : Json} {m : Manifest} (h : Written value m) :
    ofJson value = .ok m := by
  obtain ⟨members, rfl⟩ := Json.object_of_field? h.schemaVersion
  obtain ⟨layers, hl, hls⟩ := Descriptor.writtenList_iff.1 h.layers
  obtain ⟨manifests, hm, hms⟩ := Descriptor.writtenList_iff.1 h.manifests
  refine ofJson_eq_ok_iff.2 ⟨members, rfl, decodeSchemaVersion_eq_ok_iff.2 h.schemaVersion, ?_,
    Json.text?_eq_ok_iff.2 h.mediaType, decodeConfig_of_written h.config, ?_, ?_,
    Json.orEmpty_toTable_of_optional h.annotations⟩
  · rw [items_of_getD hl, items_of_getD hm]
    exact decodeLists_eq_ok_iff.2 ⟨hl, hm⟩
  · rw [items_of_getD hl]
    exact hls.imp fun _ _ => Descriptor.ofJson_of_written
  · rw [items_of_getD hm]
    exact hms.imp fun _ _ => Descriptor.ofJson_of_written

theorem decodesTo_written {value : Json} (h : Regular value) :
    DecodesTo (Written value) (ofJson value) := by
  refine (decodesTo_decoding _).bind fun members hv => ?_
  obtain rfl := Json.members_eq_ok_iff.1 hv
  obtain ⟨table, ha⟩ := Json.exists_optional_iff.2 h.annotations
  refine (decodesTo_decoding _).bind fun version hversion => ?_
  refine (decodesTo_decoding _).bind fun (layers, manifests) hlists => ?_
  obtain ⟨rfl, rfl⟩ := items_of_decodeLists hlists
  obtain ⟨hl, hm⟩ := decodeLists_eq_ok_iff.1 hlists
  refine (decodesTo_decoding _).bind fun mediaType htype => ?_
  refine (decodesTo_decodeConfig h.config).bind fun config hconfig => ?_
  have hlayers := decodesTo_mapM fun item hi => Descriptor.decodesTo_written (h.layers item hi)
  have hmanifests := decodesTo_mapM fun item hi =>
    Descriptor.decodesTo_written (h.manifests item hi)
  refine hlayers.bind fun ls hls => hmanifests.bind fun ms hms => ?_
  refine (decodesTo_conversion (Json.orEmpty_toTable_of_optional ha) ha).bind fun table ha => ?_
  exact .decoded
    { schemaVersion := decodeSchemaVersion_eq_ok_iff.1 hversion
      mediaType := Json.text?_eq_ok_iff.1 htype
      config := hconfig
      layers := Descriptor.writtenList_iff.2 ⟨_, hl, hls⟩
      manifests := Descriptor.writtenList_iff.2 ⟨_, hm, hms⟩
      annotations := ha }

theorem exists_written_iff {value : Json} (h : Regular value) :
    (∃ m, Written value m) ↔ Valid value := by
  have hlayers := Descriptor.exists_writtenList_iff fun items
      (hi : (value.field? "layers").getD (.arr []) = .arr items) => items_of_getD hi ▸ h.layers
  have hmanifests := Descriptor.exists_writtenList_iff fun items
      (hi : (value.field? "manifests").getD (.arr []) = .arr items) =>
    items_of_getD hi ▸ h.manifests
  constructor
  · rintro ⟨m, hw⟩
    exact
      { schemaVersion := ⟨_, hw.schemaVersion⟩
        mediaType := Json.exists_optionalText_iff.1 ⟨_, hw.mediaType⟩
        config := (Descriptor.exists_writtenOption_iff h.config).1 ⟨_, hw.config⟩
        layers := hlayers.1 ⟨_, hw.layers⟩
        manifests := hmanifests.1 ⟨_, hw.manifests⟩ }
  · intro hv
    obtain ⟨schemaVersion, hversion⟩ := hv.schemaVersion
    obtain ⟨mediaType, htype⟩ := Json.exists_optionalText_iff.2 hv.mediaType
    obtain ⟨config, hconfig⟩ := (Descriptor.exists_writtenOption_iff h.config).2 hv.config
    obtain ⟨layers, hl⟩ := hlayers.2 hv.layers
    obtain ⟨manifests, hm⟩ := hmanifests.2 hv.manifests
    obtain ⟨annotations, ha⟩ := Json.exists_optional_iff.2 h.annotations
    exact ⟨⟨schemaVersion, mediaType, config, layers, manifests, annotations⟩,
      hversion, htype, hconfig, hl, hm, ha⟩

theorem decoded_iff_valid {value : Json} (h : Regular value) :
    ((∃ m, ofJson value = .ok m) ↔ Valid value) ∧
      (¬ Valid value → ∃ error, ofJson value = .error (.undecodable error)) ∧
      ∀ m, ofJson value = .ok m →
        Written value m ∧
          (m.config = none ↔
            value.field? "config" = none ∨ value.field? "config" = some .null) := by
  have hd := decodesTo_written h
  have hvalid : (∃ m, ofJson value = .ok m) ↔ Valid value := by
    rw [← exists_written_iff h]
    exact exists_congr fun m => ⟨hd.of_ok, ofJson_of_written⟩
  refine ⟨hvalid, fun hn => hd.of_not_ok fun m hm => hn (hvalid.1 ⟨m, hm⟩), fun m hm => ?_⟩
  have hw : Written value m := hd.of_ok hm
  exact ⟨hw, hw.config.eq_none_iff⟩

def sparse : Json :=
  .obj [(Text.symbols "schemaVersion", .int 2), (Text.symbols "config", .null),
    (Text.symbols "layers", .arr [.obj [(Text.symbols "size", .int (-1)),
      (Text.symbols "digest", Json.text ""), (Text.symbols "urls", .null)]])]

theorem decoded_iff_valid_of_sparse :
    Regular sparse ∧ Valid sparse ∧ ∃ m, ofJson sparse = .ok m ∧ m.config = none := by
  have hr : Regular sparse :=
    { config := by
        rintro _ ⟨⟩
        exact ⟨nofun, nofun⟩
      layers := by
        refine List.forall_mem_singleton.2 ⟨?_, nofun⟩
        rintro _ ⟨⟩
        exact .inl rfl
      manifests := nofun
      annotations := nofun }
  have hv : Valid sparse :=
    { schemaVersion := ⟨2, rfl⟩
      mediaType := nofun
      config := by
        rintro _ ⟨⟩
        exact .inl rfl
      layers := by
        rintro _ ⟨⟩
        exact ⟨_, rfl, List.forall_mem_singleton.2 ⟨⟨-1, rfl⟩, ⟨[], rfl⟩⟩⟩
      manifests := nofun }
  obtain ⟨hiff, -, hwritten⟩ := decoded_iff_valid hr
  obtain ⟨m, hm⟩ := hiff.2 hv
  exact ⟨hr, hv, m, hm, (hwritten m hm).2.2 (.inr rfl)⟩

end Manifest

end ImageRegistry
