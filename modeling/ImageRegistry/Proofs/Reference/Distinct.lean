import ImageRegistry.Proofs.Reference.Pinning

namespace ImageRegistry.Reference

open Text

namespace Canonical

variable {r s : Reference}

theorem manifestName_of_digest (h : r.Canonical) {digest : String} (hd : r.digest = some digest) :
    r.manifestName = digest := by
  rcases h.manifestName_cases with hn | ⟨hn, -⟩
  · exact Option.some.inj (hn.symm.trans hd)
  · rw [hn] at hd
    cases hd

theorem colon_mem_manifestName_iff (h : r.Canonical) :
    ':' ∈ r.manifestName.toList ↔ r.digest ≠ none := by
  rcases h.manifestName_cases with hd | ⟨hd, ht⟩
  · obtain ⟨algorithm, digits, he, -⟩ := Digest.eq_of_isDigest (h.digest _ hd)
    rw [he, hd]
    simp
  · have hc : ':' ∉ r.manifestName.toList :=
      not_mem_of_isTag (h.tag _ ht) (by decide) (by decide)
    simp [hc, hd]

theorem manifestName_eq_iff (hr : r.Canonical) (hs : s.Canonical) :
    r.manifestName = s.manifestName ↔
      (∃ digest, r.digest = some digest ∧ s.digest = some digest) ∨
        r.digest = none ∧ s.digest = none ∧ r.tag = s.tag := by
  constructor
  · intro he
    have hkind : r.digest ≠ none ↔ s.digest ≠ none := by
      rw [← hr.colon_mem_manifestName_iff, ← hs.colon_mem_manifestName_iff, he]
    rcases hr.manifestName_cases with hd | ⟨hd, ht⟩
    · rcases hs.manifestName_cases with hd' | ⟨hd', -⟩
      · exact .inl ⟨_, hd, he ▸ hd'⟩
      · simp [hd, hd'] at hkind
    · rcases hs.manifestName_cases with hd' | ⟨hd', ht'⟩
      · simp [hd, hd'] at hkind
      · exact .inr ⟨hd, hd', by rw [ht, ht', he]⟩
  · rintro (⟨digest, hd, hd'⟩ | ⟨hd, hd', ht⟩)
    · rw [hr.manifestName_of_digest hd, hs.manifestName_of_digest hd']
    · rw [manifestName, manifestName, hd, hd', ht]

theorem slash_not_mem_manifestName (h : r.Canonical) : '/' ∉ r.manifestName.toList :=
  h.not_mem_manifestName (by decide) (by decide) (by decide)

-- The registry ends at the first slash, and the name of the manifest begins behind the last one.
theorem manifestUrl_eq_iff (hr : r.Canonical) (hs : s.Canonical) (scheme : String) :
    r.manifestUrl scheme = s.manifestUrl scheme ↔
      r.registry = s.registry ∧ r.repository = s.repository ∧ r.manifestName = s.manifestName := by
  have hpath (t : Reference) :
      "v2/".toList ++ t.repository.toList ++ "/manifests/".toList ++ t.manifestName.toList =
        "v2/".toList ++ t.repository.toList ++ "/manifests".toList ++
          '/' :: t.manifestName.toList := by
    simp
  rw [← String.toList_inj, toList_manifestUrl, toList_manifestUrl, List.append_cancel_left_eq,
    append_mark_inj hr.registry.no_slash hs.registry.no_slash, hpath r, hpath s,
    append_last_mark_inj hr.slash_not_mem_manifestName hs.slash_not_mem_manifestName,
    List.append_cancel_right_eq, List.append_cancel_left_eq, String.toList_inj, String.toList_inj,
    String.toList_inj]

end Canonical

theorem same_manifestUrl_iff {image image' : String} {r s : Reference} (hr : parse image = .ok r)
    (hs : parse image' = .ok s) (scheme : String) :
    r.manifestUrl scheme = s.manifestUrl scheme ↔
      r.registry = s.registry ∧ r.repository = s.repository ∧
        ((∃ digest, r.digest = some digest ∧ s.digest = some digest) ∨
          r.digest = none ∧ s.digest = none ∧ r.tag = s.tag) := by
  have hcr := canonical_of_parse hr
  have hcs := canonical_of_parse hs
  rw [hcr.manifestUrl_eq_iff hcs, hcr.manifestName_eq_iff hcs]

theorem same_manifestUrl_iff_of_pinned :
    parse ("ghcr.io/v2/manifests:v1@" ++ zeroDigest) =
        .ok ⟨"ghcr.io", "v2/manifests", some "v1", some zeroDigest⟩ ∧
      parse ("ghcr.io/v2/manifests@" ++ zeroDigest) =
        .ok ⟨"ghcr.io", "v2/manifests", none, some zeroDigest⟩ ∧
      manifestUrl ⟨"ghcr.io", "v2/manifests", some "v1", some zeroDigest⟩ "https" =
        manifestUrl ⟨"ghcr.io", "v2/manifests", none, some zeroDigest⟩ "https" := by
  have hr : parse ("ghcr.io/v2/manifests:v1@" ++ zeroDigest) =
      .ok ⟨"ghcr.io", "v2/manifests", some "v1", some zeroDigest⟩ := rfl
  have hs : parse ("ghcr.io/v2/manifests@" ++ zeroDigest) =
      .ok ⟨"ghcr.io", "v2/manifests", none, some zeroDigest⟩ := rfl
  exact ⟨hr, hs, (same_manifestUrl_iff hr hs "https").2 ⟨rfl, rfl, .inl ⟨_, rfl, rfl⟩⟩⟩

end ImageRegistry.Reference
