import ImageRegistry.Proofs.Manifest.Refusal

namespace ImageRegistry

open Json (TextList TextTable)

namespace Descriptor

structure WellTyped (value : Json) : Prop where
  mediaType : ∀ type ∈ value.field? "mediaType", ∃ text, type = .str text
  urls : ∃ urls, TextList (value.field? "urls") urls
  annotations : ∃ annotations, TextTable (value.field? "annotations") annotations
  platform : ∀ platform ∈ value.field? "platform", platform = .null ∨ ∃ ms, platform = .obj ms

structure Shaped (value : Json) (d : Descriptor) : Prop where
  mediaType : ∃ text, d.mediaType = .str text
  urls : TextList (value.field? "urls") d.urls
  annotations : TextTable (value.field? "annotations") d.annotations
  platform : d.platform = .null ∨ ∃ ms, d.platform = .obj ms

theorem WellTyped.regular {value : Json} (h : WellTyped value) : Regular value where
  urls := Json.exists_optional_iff.1 (h.urls.imp fun _ => TextList.optional)
  annotations := Json.exists_optional_iff.1 (h.annotations.imp fun _ => TextTable.optional)

theorem shaped_of_written {value : Json} {d : Descriptor} (h : WellTyped value)
    (hw : Written value d) : Shaped value d := by
  refine ⟨?_, hw.urls.textList h.urls, hw.annotations.textTable h.annotations, ?_⟩
  · rw [hw.mediaType]
    have hm := h.mediaType
    cases ht : value.field? "mediaType" with
    | none => exact ⟨_, rfl⟩
    | some type => exact hm type ht
  · rw [hw.platform]
    have hp := h.platform
    cases ht : value.field? "platform" with
    | none => exact .inl rfl
    | some platform => exact hp platform ht

theorem wellTyped_of_shaped {value : Json} {d : Descriptor} (h : ofJson value = .ok d)
    (hs : Shaped value d) : WellTyped value := by
  obtain ⟨members, rfl, -, -, -, hm, hp⟩ := ofJson_eq_ok_iff.1 h
  refine ⟨fun type ht => ?_, ⟨_, hs.urls⟩, ⟨_, hs.annotations⟩, fun platform ht => ?_⟩
  · obtain ⟨text, htext⟩ := hs.mediaType
    rw [hm, show Json.member? "mediaType" members = some type from ht] at htext
    exact ⟨text, htext⟩
  · have hplatform := hs.platform
    rw [hp, show Json.member? "platform" members = some platform from ht] at hplatform
    exact hplatform

theorem wellTyped_null : WellTyped .null where
  mediaType _ h := nomatch h
  urls := ⟨[], .absent⟩
  annotations := ⟨[], .absent⟩
  platform _ h := nomatch h

theorem wellTyped_of_forall₂ {values : List Json} {descriptors : List Descriptor}
    (h : List.Forall₂ (fun value d => ofJson value = .ok d) values descriptors)
    (hs : List.Forall₂ Shaped values descriptors) : ∀ value ∈ values, WellTyped value := by
  induction h with
  | nil =>
      intro value hm
      cases hm
  | cons hd _ ih =>
      cases hs with
      | cons hs hrest => exact List.forall_mem_cons.2 ⟨wellTyped_of_shaped hd hs, ih hrest⟩

end Descriptor

namespace Manifest

structure WellTyped (value : Json) : Prop where
  config : ∀ config ∈ value.field? "config", Descriptor.WellTyped config
  layers : ∀ layer ∈ value.items "layers", Descriptor.WellTyped layer
  manifests : ∀ entry ∈ value.items "manifests", Descriptor.WellTyped entry
  annotations : ∃ annotations, TextTable (value.field? "annotations") annotations

structure Shaped (value : Json) (m : Manifest) : Prop where
  config : ∀ d ∈ m.config, ∃ config ∈ value.field? "config", Descriptor.Shaped config d
  layers : List.Forall₂ Descriptor.Shaped (value.items "layers") m.layers
  manifests : List.Forall₂ Descriptor.Shaped (value.items "manifests") m.manifests
  annotations : TextTable (value.field? "annotations") m.annotations

theorem WellTyped.regular {value : Json} (h : WellTyped value) : Regular value where
  config config hc := (h.config config hc).regular
  layers layer hl := (h.layers layer hl).regular
  manifests entry he := (h.manifests entry he).regular
  annotations := Json.exists_optional_iff.1 (h.annotations.imp fun _ => TextTable.optional)

theorem shaped_of_writtenList {name : String} {value : Json} {descriptors : List Descriptor}
    (h : ∀ item ∈ value.items name, Descriptor.WellTyped item)
    (hw : Descriptor.WrittenList (value.field? name) descriptors) :
    List.Forall₂ Descriptor.Shaped (value.items name) descriptors := by
  obtain ⟨items, hi, hf⟩ := Descriptor.writtenList_iff.1 hw
  rw [items_of_getD hi] at h ⊢
  exact ((List.forall₂_and_left _ _).2 ⟨h, hf⟩).imp fun _ _ hi =>
    Descriptor.shaped_of_written hi.1 hi.2

theorem shaped_of_writtenOption {value : Option Json} {config : Option Descriptor}
    (h : ∀ v ∈ value, Descriptor.WellTyped v) (hw : Descriptor.WrittenOption value config) :
    ∀ d ∈ config, ∃ v ∈ value, Descriptor.Shaped v d := by
  intro d hd
  cases hw with
  | absent => cases hd
  | null => cases hd
  | @given v _ hw =>
      cases hd
      exact ⟨v, rfl, Descriptor.shaped_of_written (h v rfl) hw⟩

theorem decodesTo_ofJson {value : Json} (h : WellTyped value) :
    DecodesTo (Shaped value) (ofJson value) := by
  refine (decodesTo_written h.regular).mono fun m hw => ?_
  exact
    { config := shaped_of_writtenOption h.config hw.config
      layers := shaped_of_writtenList h.layers hw.layers
      manifests := shaped_of_writtenList h.manifests hw.manifests
      annotations := hw.annotations.textTable h.annotations }

theorem wellTyped_config {members : Json.Members} {config? : Option Descriptor}
    (h : decodeConfig members = .ok config?)
    (hs : ∀ d ∈ config?, ∃ config ∈ Json.member? "config" members, Descriptor.Shaped config d) :
    ∀ config ∈ Json.member? "config" members, Descriptor.WellTyped config := by
  intro config hc
  -- A config that is null is not decoded, so that nothing is known of it but that it is null.
  by_cases hn : config = .null
  · rw [hn]
    exact Descriptor.wellTyped_null
  · have hg : Json.given? "config" members = some config := Json.given?_eq_some hc hn
    rw [decodeConfig, hg] at h
    obtain ⟨d, hd, rfl⟩ := map_eq_ok_iff.1 h
    obtain ⟨config', hc', hshaped⟩ := hs d rfl
    obtain rfl : config = config' := Option.some.inj (hc.symm.trans hc')
    exact Descriptor.wellTyped_of_shaped hd hshaped

theorem wellTyped_of_shaped {value : Json} {m : Manifest} (h : ofJson value = .ok m)
    (hs : Shaped value m) : WellTyped value := by
  obtain ⟨members, rfl, -, -, -, hconfig, hlayers, hmanifests, -⟩ := ofJson_eq_ok_iff.1 h
  exact
    { config := wellTyped_config hconfig hs.config
      layers := Descriptor.wellTyped_of_forall₂ hlayers hs.layers
      manifests := Descriptor.wellTyped_of_forall₂ hmanifests hs.manifests
      annotations := ⟨_, hs.annotations⟩ }

theorem shaped_or_refused_iff (value : Json) :
    (DecodesTo (Shaped value) (ofJson value) ↔ Refused value ∨ WellTyped value) ∧
      (Refused value ↔ ∃ error, ofJson value = .error (.undecodable error)) := by
  refine ⟨⟨fun h => ?_, ?_⟩, refused_iff⟩
  · cases hv : ofJson value with
    | ok m =>
        rw [hv] at h
        exact .inr (wellTyped_of_shaped hv (h.of_ok rfl))
    | error fault =>
        rw [hv] at h
        cases h with
        | refused error => exact .inl (refused_iff.2 ⟨error, hv⟩)
  · rintro (hr | hw)
    · obtain ⟨error, he⟩ := refused_iff.1 hr
      rw [he]
      exact .refused error
    · exact decodesTo_ofJson hw

theorem annotations_number_escapes :
    ¬ ∀ value : Json, DecodesTo (Shaped value) (ofJson value) := by
  intro h
  let value : Json :=
    .obj [(Text.symbols "schemaVersion", .int 2), (Text.symbols "annotations", .int 5)]
  have hv : ofJson value = .error (.conversion .notSequence) := rfl
  have hd := h value
  rw [hv] at hd
  cases hd

end Manifest

end ImageRegistry
