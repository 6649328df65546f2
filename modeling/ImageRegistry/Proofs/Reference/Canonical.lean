import ImageRegistry.Proofs.Reference.Parts

namespace ImageRegistry.Reference

open Text

structure Canonical (r : Reference) : Prop where
  registry : HostName r.registry.toList
  canonical : canonicalHost r.registry.toList = r.registry.toList
  repository : isRepository r.repository.toList = true
  qualified : r.registry = hub → '/' ∈ r.repository.toList
  tag : ∀ t ∈ r.tag, isTag t.toList = true
  digest : ∀ d ∈ r.digest, Digest.isDigest d.toList = true
  named : r.tag.isSome = true ∨ r.digest.isSome = true
  ends : ∀ c ∈ r.toString.toList.getLast?, isBlank c = false

theorem filled?_of_ne_nil {text : Option String} (h : ∀ t ∈ text, t.toList ≠ []) :
    filled? text = text := by
  cases text with
  | none => rfl
  | some t =>
      have ht : t.isEmpty = false := by simpa using h t rfl
      simp [filled?, Option.filter, ht]

theorem ne_nil_of_isDigest {text : List Char} (h : Digest.isDigest text = true) : text ≠ [] := by
  rintro rfl
  cases h

theorem toList_toString {r : Reference} (ht : ∀ t ∈ r.tag, isTag t.toList = true)
    (hd : ∀ d ∈ r.digest, Digest.isDigest d.toList = true) :
    r.toString.toList =
      r.registry.toList ++ '/' :: (r.repository.toList ++ marked ':' (r.tag.map String.toList)) ++
        marked '@' (r.digest.map String.toList) := by
  have hft : filled? r.tag = r.tag := filled?_of_ne_nil fun t hm => ne_nil_of_isTag (ht t hm)
  have hfd : filled? r.digest = r.digest :=
    filled?_of_ne_nil fun d hm => ne_nil_of_isDigest (hd d hm)
  rw [Reference.toString, hft, hfd]
  cases r.tag <;> cases r.digest <;> simp [marked]

theorem not_mem_front {registry name : List Char} {tag : Option (List Char)}
    (hr : '@' ∉ registry) (hn : isRepository name = true) (ht : ∀ t ∈ tag, isTag t = true) :
    '@' ∉ registry ++ '/' :: (name ++ marked ':' tag) := by
  have hname : '@' ∉ name := not_mem_of_isRepository hn (by decide) (by decide) (by decide)
  cases tag with
  | none => simp [marked, hr, hname]
  | some t =>
      have htag : '@' ∉ t := not_mem_of_isTag (ht t rfl) (by decide) (by decide)
      simp [marked, hr, hname, htag]

theorem Canonical.trimmed {r : Reference} (h : r.Canonical) : Trimmed r.toString.toList := by
  refine ⟨?_, h.ends⟩
  rw [toList_toString h.tag h.digest, List.append_assoc,
    List.head?_append_of_ne_nil _ h.registry.ne_nil]
  exact h.registry.begins

theorem parse_toString {r : Reference} (h : r.Canonical) : parse r.toString = .ok r := by
  have htag : ∀ t ∈ r.tag.map String.toList, isTag t = true := by simpa using h.tag
  have hdigest : ∀ d ∈ r.digest.map String.toList, Digest.isDigest d = true := by
    simpa using h.digest
  have hs : strip r.toString.toList =
      r.registry.toList ++ '/' :: (r.repository.toList ++ marked ':' (r.tag.map String.toList)) ++
        marked '@' (r.digest.map String.toList) :=
    h.trimmed.strip.trans (toList_toString h.tag h.digest)
  have hne : strip r.toString.toList ≠ [] := by
    rw [hs]
    simp
  have hd := splitDigest_marked (not_mem_front h.registry.no_at h.repository htag) hdigest
  rw [← hs] at hd
  have hr := splitRegistry_host (r.repository.toList ++ marked ':' (r.tag.map String.toList))
    h.registry.no_slash h.registry.isHost
  rw [h.canonical] at hr
  have hname : ':' ∉ r.repository.toList :=
    not_mem_of_isRepository h.repository (by decide) (by decide) (by decide)
  have ht : splitTag (r.repository.toList ++ marked ':' (r.tag.map String.toList)) =
      (r.repository.toList, r.tag.map String.toList) :=
    splitTag_marked hname fun t hm =>
      ⟨not_mem_of_isTag (htag t hm) (by decide) (by decide),
        not_mem_of_isTag (htag t hm) (by decide) (by decide)⟩
  have hq : qualify r.registry.toList r.repository.toList = r.repository.toList :=
    qualify_eq_self fun he => h.qualified (String.toList_inj.1 he)
  have hc : chooseTag (r.tag.map String.toList) (r.digest.map String.toList) =
      r.tag.map String.toList :=
    chooseTag_eq_self (fun t hm => ne_nil_of_isTag (htag t hm)) (by simpa using h.named)
  rw [parse_of_splits hne hd hr ht, hq, hc, ofParts_eq_ok_iff]
  refine ⟨h.repository, htag, ?_⟩
  simp [Function.comp_def]

theorem getLast?_toString {r : Reference} (ht : ∀ t ∈ r.tag, isTag t.toList = true)
    (hd : ∀ d ∈ r.digest, Digest.isDigest d.toList = true)
    (hn : r.tag.isSome = true ∨ r.digest.isSome = true) :
    r.toString.toList.getLast? =
      (marked ':' (r.tag.map String.toList) ++
        marked '@' (r.digest.map String.toList)).getLast? := by
  have hne : marked ':' (r.tag.map String.toList) ++
      marked '@' (r.digest.map String.toList) ≠ [] := by
    rcases hn with hn | hn
    · exact List.append_ne_nil_of_left_ne_nil (marked_ne_nil (by simpa using hn)) _
    · exact List.append_ne_nil_of_right_ne_nil _ (marked_ne_nil (by simpa using hn))
  have he : r.toString.toList = r.registry.toList ++ '/' :: r.repository.toList ++
      (marked ':' (r.tag.map String.toList) ++ marked '@' (r.digest.map String.toList)) := by
    rw [toList_toString ht hd]
    simp
  rw [he, List.getLast?_append_of_ne_nil _ hne]

-- A tag that was not written is chosen, and then no text that was read ends with it.
theorem isBlank_last_ending {front : List Char} {tag digest : Option (List Char)}
    (h : Trimmed (front ++ marked ':' tag ++ marked '@' digest)) :
    ∀ c ∈ (marked ':' (chooseTag tag digest) ++ marked '@' digest).getLast?,
      isBlank c = false := by
  have hl := h.2
  cases digest with
  | some d =>
      have hne : marked '@' (some d) ≠ [] := marked_ne_nil rfl
      rw [List.getLast?_append_of_ne_nil _ hne] at hl ⊢
      exact hl
  | none =>
      have hn : marked '@' none = [] := rfl
      rw [hn, List.append_nil] at hl ⊢
      cases tag with
      | none =>
          rintro c ⟨⟩
          decide
      | some t =>
          cases t with
          | nil =>
              rintro c ⟨⟩
              decide
          | cons c t =>
              rw [List.getLast?_append_of_ne_nil _ (marked_ne_nil rfl)] at hl
              exact hl

theorem canonical_of_parse {image : String} {r : Reference} (h : parse image = .ok r) :
    r.Canonical := by
  obtain ⟨front, rest, registry, name, digest, tag, hd, hr, ht, ho⟩ := splits_of_parse h
  obtain ⟨hs, hat, hdigest⟩ := eq_of_splitDigest hd
  obtain ⟨lead, hlead⟩ := eq_append_of_splitRegistry hr
  have hrest := eq_of_splitTag ht
  obtain ⟨hname, htag, rfl⟩ := ofParts_eq_ok_iff.1 ho
  have htrim : Trimmed (front ++ marked '@' digest) := hs ▸ trimmed_strip _
  have hnamed := chooseTag_isSome tag digest
  have hb : ∀ c ∈ front.head?, isBlank c = false := fun c hc =>
    htrim.1 c (List.mem_head?_append_of_mem_head? hc)
  obtain ⟨hhost, hcanonical⟩ := hostName_of_splitRegistry hr hat hb
  have hft : ∀ t ∈ (chooseTag tag digest).map String.ofList, isTag t.toList = true := by
    simpa using htag
  have hfd : ∀ d ∈ digest.map String.ofList, Digest.isDigest d.toList = true := by
    simpa using hdigest
  rw [hlead, hrest, ← List.append_assoc] at htrim
  refine
    { registry := by rwa [String.toList_ofList]
      canonical := by rwa [String.toList_ofList]
      repository := by rwa [String.toList_ofList]
      qualified := ?_
      tag := hft
      digest := hfd
      named := by simpa using hnamed
      ends := ?_ }
  · intro he
    rw [String.toList_ofList]
    exact slash_mem_qualify (by rw [← he, String.toList_ofList])
  · rw [getLast?_toString hft hfd (by simpa using hnamed)]
    have hl := isBlank_last_ending htrim
    simpa [Function.comp_def] using hl

theorem exists_parse_iff_canonical (r : Reference) : (∃ image, parse image = .ok r) ↔ r.Canonical :=
  ⟨fun ⟨_, h⟩ => canonical_of_parse h, fun h => ⟨r.toString, parse_toString h⟩⟩

theorem read_own_text {image : String} {r : Reference} (h : parse image = .ok r) :
    parse r.toString = .ok r ∧
      ∀ (image' : String) (r' : Reference),
        parse image' = .ok r' → r'.toString = r.toString → r' = r := by
  have hr : parse r.toString = .ok r := parse_toString (canonical_of_parse h)
  refine ⟨hr, fun image' r' h' he => ?_⟩
  have hr' : parse r'.toString = .ok r' := parse_toString (canonical_of_parse h')
  rw [he, hr] at hr'
  cases hr'
  rfl

theorem read_own_text_of_hub_name :
    parse " docker.io/nginx:\n" = .ok ⟨hub, "library/nginx", some "latest", none⟩ ∧
      parse "registry-1.docker.io/library/nginx:latest" =
        .ok ⟨hub, "library/nginx", some "latest", none⟩ := by
  have h : parse " docker.io/nginx:\n" = .ok ⟨hub, "library/nginx", some "latest", none⟩ := rfl
  exact ⟨h, (read_own_text h).1⟩

end ImageRegistry.Reference
