import ImageRegistry.Proofs.Reference.Address

namespace ImageRegistry.Reference

open Text

theorem cut_of_parse {image : String} {r : Reference} (h : parse image = .ok r) :
    ∃ front,
      strip image.toList = front ++ marked '@' (r.digest.map String.toList) ∧ '@' ∉ front := by
  obtain ⟨front, rest, registry, name, digest, tag, hd, hr, ht, ho⟩ := splits_of_parse h
  obtain ⟨hs, hat, -⟩ := eq_of_splitDigest hd
  obtain ⟨-, -, rfl⟩ := ofParts_eq_ok_iff.1 ho
  refine ⟨front, ?_, hat⟩
  simpa [Function.comp_def] using hs

theorem digest_behind_first_at {image : String} {r : Reference} (h : parse image = .ok r)
    (scheme : String) :
    ('@' ∈ strip image.toList →
      ∃ front digest, strip image.toList = front ++ '@' :: digest.toList ∧ '@' ∉ front ∧
        r.digest = some digest ∧ Digest.Written digest.toList ∧ r.manifestName = digest ∧
        ∃ address, r.manifestUrl scheme = address ++ "/manifests/" ++ digest) ∧
    ('@' ∉ strip image.toList →
      r.digest = none ∧ ∃ tag, r.tag = some tag ∧ tag ≠ "" ∧
        ∃ address, r.manifestUrl scheme = address ++ "/manifests/" ++ tag) := by
  have hc := canonical_of_parse h
  obtain ⟨front, hs, hat⟩ := cut_of_parse h
  have hends : ∃ address, r.manifestUrl scheme = address ++ "/manifests/" ++ r.manifestName :=
    ⟨_, rfl⟩
  rcases hc.manifestName_cases with hd | ⟨hd, ht⟩
  · rw [hd, Option.map_some, marked] at hs
    have hm : '@' ∈ strip image.toList := by
      rw [hs]
      exact List.mem_append_right _ List.mem_cons_self
    -- The digest ends a stripped text, so that no line break can stand for one of its digits.
    have hw := Digest.written_of_isDigest (hc.digest _ hd) hc.break_not_mem_manifestName
    exact ⟨fun _ => ⟨front, r.manifestName, hs, hat, hd, hw, rfl, hends⟩, fun hn => absurd hm hn⟩
  · rw [hd, Option.map_none, marked, List.append_nil] at hs
    have hn : '@' ∉ strip image.toList := by rwa [hs]
    have hne : r.manifestName ≠ "" := fun he =>
      ne_nil_of_isTag (hc.tag _ ht) (by rw [he, String.toList_empty])
    exact ⟨fun hm => absurd hm hn, fun _ => ⟨hd, r.manifestName, ht, hne, hends⟩⟩

def zeroDigest : String :=
  "sha256:0000000000000000000000000000000000000000000000000000000000000000"

theorem digest_behind_first_at_of_tagged :
    parse (" ghcr.io/a:v1@" ++ zeroDigest ++ "\n") =
        .ok ⟨"ghcr.io", "a", some "v1", some zeroDigest⟩ ∧
      ∃ address, manifestUrl ⟨"ghcr.io", "a", some "v1", some zeroDigest⟩ "https" =
        address ++ "/manifests/" ++ zeroDigest := by
  have h : parse (" ghcr.io/a:v1@" ++ zeroDigest ++ "\n") =
      .ok ⟨"ghcr.io", "a", some "v1", some zeroDigest⟩ := rfl
  obtain ⟨front, digest, -, -, hd, -, -, haddress⟩ :=
    (digest_behind_first_at h "https").1 (by decide)
  cases hd
  exact ⟨h, haddress⟩

end ImageRegistry.Reference
