import ImageRegistry.Proofs.Reference.Digest
import ImageRegistry.Proofs.Reference.Soundness
import ImageRegistry.Proofs.Url.Split

namespace ImageRegistry

open Text
open Text.Symbol (char)

namespace Reference

namespace Canonical

variable {r : Reference}

theorem manifestName_cases (h : r.Canonical) :
    r.digest = some r.manifestName ∨ r.digest = none ∧ r.tag = some r.manifestName := by
  have hd : filled? r.digest = r.digest :=
    filled?_of_ne_nil fun d hm => ne_nil_of_isDigest (h.digest d hm)
  have ht : filled? r.tag = r.tag := filled?_of_ne_nil fun t hm => ne_nil_of_isTag (h.tag t hm)
  rw [manifestName, hd, ht]
  cases hdigest : r.digest with
  | some d => exact .inl rfl
  | none =>
      have hn := h.named
      rw [hdigest] at hn
      cases htag : r.tag with
      | some t => exact .inr ⟨rfl, rfl⟩
      | none => simp [htag] at hn

-- The name ends the text of the reference, and that text does not end with a line break.
theorem break_not_mem_manifestName (h : r.Canonical) : '\n' ∉ r.manifestName.toList := by
  intro hm
  have hne : r.manifestName.toList ≠ [] := List.ne_nil_of_mem hm
  have he : r.toString.toList.getLast? = some '\n' := by
    rw [getLast?_toString h.tag h.digest h.named]
    rcases h.manifestName_cases with hd | ⟨hd, ht⟩
    · have hl := Digest.getLast?_of_isDigest (h.digest _ hd) hm
      rw [hd, Option.map_some, marked, List.append_cons, List.getLast?_append_of_ne_nil _ hne, hl]
    · have hb := ((isTag_iff _).1 (h.tag _ ht)).not_mem (by decide : isTagChar '\n' = false)
      have hl := getLast?_of_break hb hm
      rw [hd, ht, Option.map_none, Option.map_some, marked, marked, List.append_nil,
        ← List.singleton_append, List.getLast?_append_of_ne_nil _ hne, hl]
  exact absurd (h.ends _ he) (by decide)

theorem not_mem_manifestName (h : r.Canonical) {c : Char} (hn : isNameChar c = false)
    (ht : isTagChar c = false) (hc : c ≠ ':') : c ∉ r.manifestName.toList := by
  intro hm
  by_cases hb : c = '\n'
  · rw [hb] at hm
    exact h.break_not_mem_manifestName hm
  · rcases h.manifestName_cases with hd | ⟨-, htag⟩
    · rcases Digest.chars_of_isDigest (h.digest _ hd) c hm with he | he | he
      · exact hc he
      · exact hb he
      · exact Bool.false_ne_true (hn.symm.trans he)
    · exact not_mem_of_isTag (h.tag _ htag) ht hb hm

theorem path_manifestName (h : r.Canonical) : Url.Path (symbols r.manifestName) := by
  have hchars : ∀ c ∈ ['\t', '\r', '\n', '?', '#'],
      isNameChar c = false ∧ isTagChar c = false ∧ c ≠ ':' :=
    List.all_iff_forall_prop.1 (by decide)
  intro c hc
  obtain ⟨hn, ht, hcolon⟩ := hchars c hc
  exact mt char_mem_symbolsOf.1 (h.not_mem_manifestName hn ht hcolon)

theorem path_repository_iff (h : r.Canonical) :
    Url.Path (symbols r.repository) ↔ '\n' ∉ r.repository.toList := by
  have hchars : ∀ c ∈ ['\t', '\r', '\n', '?', '#'], isComponentChar c = false ∧ c ≠ '/' :=
    List.all_iff_forall_prop.1 (by decide)
  constructor
  · intro hp
    exact mt char_mem_symbolsOf.2 (hp '\n' (by decide))
  · intro hb c hc
    refine mt char_mem_symbolsOf.1 ?_
    obtain ⟨hn, hs⟩ := hchars c hc
    by_cases he : c = '\n'
    · rwa [he]
    · exact not_mem_of_isRepository h.repository hn hs he

end Canonical

def manifestAddress (r : Reference) (scheme : String) : Url where
  scheme := scheme.toList
  authority := symbols r.registry
  path := symbols ("/v2/" ++ r.repository ++ "/manifests/" ++ r.manifestName)
  query := []
  fragment := []

theorem toList_manifestUrl (r : Reference) (scheme : String) :
    (r.manifestUrl scheme).toList =
      scheme.toList ++ "://".toList ++ (r.registry.toList ++ '/' ::
        ("v2/".toList ++ r.repository.toList ++ "/manifests/".toList ++
          r.manifestName.toList)) := by
  simp [manifestUrl]

theorem symbols_manifestUrl (r : Reference) (scheme : String) :
    symbols (r.manifestUrl scheme) =
      symbolsOf scheme.toList ++ symbols "://" ++ (symbols r.registry ++ char '/' ::
        (symbols "v2/" ++ symbols r.repository ++ symbols "/manifests/" ++
          symbols r.manifestName)) := by
  rw [symbols, toList_manifestUrl]
  simp [symbols, symbolsOf]

theorem split?_manifestUrl_iff {r : Reference} (h : r.Canonical) {scheme : String}
    (hs : scheme = "https" ∨ scheme = "http") :
    Url.split? (symbols (r.manifestUrl scheme)) = some (r.manifestAddress scheme) ↔
      Url.Authority (symbols r.registry) ∧ '\n' ∉ r.repository.toList := by
  let path :=
    symbols "v2/" ++ symbols r.repository ++ symbols "/manifests/" ++ symbols r.manifestName
  have hu : symbols (r.manifestUrl scheme) =
      symbolsOf scheme.toList ++ symbols "://" ++ (symbols r.registry ++ char '/' :: path) :=
    r.symbols_manifestUrl scheme
  have ha : r.manifestAddress scheme =
      ⟨scheme.toList, symbols r.registry, char '/' :: path, [], []⟩ := by
    simp [manifestAddress, path, symbols, symbolsOf]
  have hfront : Url.Path (symbols "v2/") := List.all_iff_forall_prop.1 (by decide)
  have hmiddle : Url.Path (symbols "/manifests/") := List.all_iff_forall_prop.1 (by decide)
  have hpath : Url.Path path ↔ '\n' ∉ r.repository.toList := by
    simp only [path, Url.path_append, h.path_repository_iff, h.path_manifestName, hfront, hmiddle,
      true_and, and_true]
  rw [hu, ha, Url.split?_parts_iff (Url.smallScheme_web hs), hpath]

theorem manifest_address_iff {image scheme : String} {r : Reference} (h : parse image = .ok r)
    (hs : scheme = "https" ∨ scheme = "http") :
    (Url.split? (symbols (r.manifestUrl scheme)) = some (r.manifestAddress scheme) ↔
        Url.Authority (symbols r.registry) ∧ '\n' ∉ r.repository.toList) ∧
      ((∀ c ∈ r.registry.toList, Url.isHostChar c = true) → '\n' ∉ strip image.toList →
        Url.split? (symbols (r.manifestUrl scheme)) = some (r.manifestAddress scheme)) := by
  have hiff := split?_manifestUrl_iff (canonical_of_parse h) hs
  refine ⟨hiff, fun hhost hbreak => hiff.2 ⟨Url.authority_of_isHostChar hhost, fun hm => ?_⟩⟩
  exact ((mem_of_parse h '\n').1 hm).elim (by decide) hbreak

theorem manifest_address_iff_of_port :
    parse "localhost:5000/a__b/c--d.e:v1" = .ok ⟨"localhost:5000", "a__b/c--d.e", some "v1", none⟩ ∧
      Url.split? (symbols "http://localhost:5000/v2/a__b/c--d.e/manifests/v1") =
        some ⟨"http".toList, symbols "localhost:5000",
          symbols "/v2/a__b/c--d.e/manifests/v1", [], []⟩ := by
  have h : parse "localhost:5000/a__b/c--d.e:v1" =
      .ok ⟨"localhost:5000", "a__b/c--d.e", some "v1", none⟩ := rfl
  have hs : "http" = "https" ∨ "http" = "http" := .inr rfl
  exact ⟨h, (manifest_address_iff h hs).2 (List.all_iff_forall_prop.1 (by decide)) (by decide)⟩

theorem registry_read_as_fragment :
    ¬ ∀ (image scheme : String) (r : Reference), parse image = .ok r →
      scheme = "https" ∨ scheme = "http" →
      Url.split? (symbols (r.manifestUrl scheme)) = some (r.manifestAddress scheme) := by
  intro h
  have hp : parse "example.org#ghcr.io/app:v1" =
      .ok ⟨"example.org#ghcr.io", "app", some "v1", none⟩ := rfl
  have hs := h _ "https" _ hp (.inl rfl)
  have hn : Url.split? (symbols "https://example.org#ghcr.io/v2/app/manifests/v1") =
      some ⟨"https".toList, symbols "example.org", [], [],
        symbols "ghcr.io/v2/app/manifests/v1"⟩ := by decide
  have he : some (manifestAddress ⟨"example.org#ghcr.io", "app", some "v1", none⟩ "https") =
      some ⟨"https".toList, symbols "example.org", [], [],
        symbols "ghcr.io/v2/app/manifests/v1"⟩ := hs.symm.trans hn
  exact absurd he (by decide)

end Reference

end ImageRegistry
