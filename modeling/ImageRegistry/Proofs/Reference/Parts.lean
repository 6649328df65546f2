import ImageRegistry.Proofs.Reference.Grammar
import ImageRegistry.Reference.Parser

namespace ImageRegistry.Reference

open Text

def marked (mark : Char) : Option (List Char) → List Char
  | some text => mark :: text
  | none => []

theorem marked_ne_nil {mark : Char} {text : Option (List Char)} (h : text.isSome = true) :
    marked mark text ≠ [] := by
  cases text with
  | none => cases h
  | some t => exact List.cons_ne_nil _ _

theorem splitDigest_marked {front : List Char} {digest : Option (List Char)} (hf : '@' ∉ front)
    (hd : ∀ d ∈ digest, Digest.isDigest d = true) :
    splitDigest (front ++ marked '@' digest) = .ok (front, digest) := by
  cases digest with
  | none =>
      rw [marked, List.append_nil, splitDigest, cutFirst_eq_none_iff.2 hf]
  | some d =>
      rw [marked, splitDigest, cutFirst_append d hf]
      exact if_pos (hd d rfl)

theorem eq_of_splitDigest {text front : List Char} {digest : Option (List Char)}
    (h : splitDigest text = .ok (front, digest)) :
    text = front ++ marked '@' digest ∧ '@' ∉ front ∧
      ∀ d ∈ digest, Digest.isDigest d = true := by
  unfold splitDigest at h
  split at h
  · next name d hc =>
      split at h
      · next hd =>
          cases h
          obtain ⟨he, hn⟩ := eq_of_cutFirst hc
          refine ⟨he, hn, fun x hx => ?_⟩
          cases hx
          exact hd
      · cases h
  · next hc =>
      cases h
      exact ⟨(List.append_nil _).symm, cutFirst_eq_none_iff.1 hc, fun d hd => nomatch hd⟩

theorem splitTag_append {tag : List Char} (name : List Char) (hc : ':' ∉ tag) (hs : '/' ∉ tag) :
    splitTag (name ++ ':' :: tag) = (name, some tag) := by
  rw [splitTag, cutLast_append name hc]
  exact if_neg hs

theorem splitTag_marked {name : List Char} {tag : Option (List Char)} (hn : ':' ∉ name)
    (ht : ∀ t ∈ tag, ':' ∉ t ∧ '/' ∉ t) : splitTag (name ++ marked ':' tag) = (name, tag) := by
  cases tag with
  | none => rw [marked, List.append_nil, splitTag, cutLast_eq_none_iff.2 hn]
  | some t =>
      obtain ⟨hc, hs⟩ := ht t rfl
      exact splitTag_append name hc hs

theorem eq_of_splitTag {text name : List Char} {tag : Option (List Char)}
    (h : splitTag text = (name, tag)) : text = name ++ marked ':' tag := by
  unfold splitTag at h
  split at h
  · next front t hc =>
      split at h
      · cases h
        exact (List.append_nil _).symm
      · cases h
        exact (eq_of_cutLast hc).1
  · cases h
    exact (List.append_nil _).symm

theorem splitRegistry_host {host : List Char} (rest : List Char) (hs : '/' ∉ host)
    (hh : isHost host = true) :
    splitRegistry (host ++ '/' :: rest) = (canonicalHost host, rest) := by
  rw [splitRegistry, cutFirst_append rest hs]
  exact if_pos hh

theorem splitRegistry_plain {name : List Char}
    (h : ∀ first rest, cutFirst '/' name = some (first, rest) → isHost first = false) :
    splitRegistry name = (hub.toList, name) := by
  unfold splitRegistry
  split
  · next first rest hc => exact if_neg (Bool.eq_false_iff.1 (h first rest hc))
  · rfl

theorem eq_of_splitRegistry {text registry rest : List Char}
    (h : splitRegistry text = (registry, rest)) :
    (∃ host, text = host ++ '/' :: rest ∧ '/' ∉ host ∧ isHost host = true ∧
      registry = canonicalHost host) ∨ (text = rest ∧ registry = hub.toList) := by
  unfold splitRegistry at h
  split at h
  · next first rest' hc =>
      split at h
      · next hh =>
          cases h
          obtain ⟨he, hs⟩ := eq_of_cutFirst hc
          exact .inl ⟨first, he, hs, hh, rfl⟩
      · cases h
        exact .inr ⟨rfl, rfl⟩
  · cases h
    exact .inr ⟨rfl, rfl⟩

theorem canonicalHost_cases (host : List Char) :
    canonicalHost host = hub.toList ∨ canonicalHost host = host := by
  unfold canonicalHost
  split
  · exact .inl rfl
  · exact .inr rfl

theorem isHost_iff (text : List Char) :
    isHost text = true ↔ '.' ∈ text ∨ ':' ∈ text ∨ text = "localhost".toList := by
  simp [isHost, or_assoc]

structure HostName (host : List Char) : Prop where
  dotted : '.' ∈ host ∨ ':' ∈ host ∨ host = "localhost".toList
  no_slash : '/' ∉ host
  no_at : '@' ∉ host
  begins : ∀ c ∈ host.head?, isBlank c = false

theorem HostName.isHost {host : List Char} (h : HostName host) : isHost host = true :=
  (isHost_iff host).2 h.dotted

theorem HostName.ne_nil {host : List Char} (h : HostName host) : host ≠ [] := by
  rintro rfl
  exact absurd h.isHost (by decide)

theorem hostName_hub : HostName hub.toList := by
  refine ⟨by decide, by decide, by decide, ?_⟩
  rintro c ⟨⟩
  decide

theorem canonicalHost_hub : canonicalHost hub.toList = hub.toList := by decide

theorem hostName_of_splitRegistry {text registry rest : List Char}
    (h : splitRegistry text = (registry, rest)) (hat : '@' ∉ text)
    (hb : ∀ c ∈ text.head?, isBlank c = false) :
    HostName registry ∧ canonicalHost registry = registry := by
  rcases eq_of_splitRegistry h with ⟨host, rfl, hs, hh, rfl⟩ | ⟨-, rfl⟩
  · have hn : HostName host :=
      { dotted := (isHost_iff host).1 hh
        no_slash := hs
        no_at := fun hm => hat (List.mem_append_left _ hm)
        begins := fun c hc => hb c (List.mem_head?_append_of_mem_head? hc) }
    rcases canonicalHost_cases host with hc | hc
    · rw [hc]
      exact ⟨hostName_hub, canonicalHost_hub⟩
    · rw [hc]
      exact ⟨hn, hc⟩
  · exact ⟨hostName_hub, canonicalHost_hub⟩

theorem eq_append_of_splitRegistry {text registry rest : List Char}
    (h : splitRegistry text = (registry, rest)) : ∃ front, text = front ++ rest := by
  rcases eq_of_splitRegistry h with ⟨host, he, -⟩ | ⟨he, -⟩
  · exact ⟨host ++ ['/'], by rw [he, List.append_assoc, List.singleton_append]⟩
  · exact ⟨[], he⟩

theorem qualify_eq_self {registry name : List Char} (h : registry = hub.toList → '/' ∈ name) :
    qualify registry name = name := by
  unfold qualify
  exact if_neg fun hq => hq.2 (h hq.1)

theorem slash_mem_qualify {registry name : List Char} (h : registry = hub.toList) :
    '/' ∈ qualify registry name := by
  unfold qualify
  split
  · exact List.mem_append_left _ (by decide)
  · next hq => exact Decidable.byContradiction fun hs => hq ⟨h, hs⟩

theorem orLatest_of_ne_nil {tag : List Char} (h : tag ≠ []) : orLatest tag = tag :=
  if_neg (by simpa using h)

theorem mem_of_mem_orLatest {tag : List Char} {c : Char} (h : c ∈ orLatest tag) :
    c ∈ defaultTag.toList ∨ c ∈ tag := by
  unfold orLatest at h
  split at h
  · exact .inl h
  · exact .inr h

theorem chooseTag_eq_self {tag digest : Option (List Char)} (ht : ∀ t ∈ tag, t ≠ [])
    (hn : tag.isSome = true ∨ digest.isSome = true) : chooseTag tag digest = tag := by
  cases tag with
  | none =>
      cases digest with
      | none => simp at hn
      | some d => rfl
  | some t =>
      rw [chooseTag, orLatest_of_ne_nil (ht t rfl)]

theorem chooseTag_isSome (tag digest : Option (List Char)) :
    (chooseTag tag digest).isSome = true ∨ digest.isSome = true := by
  cases tag with
  | none =>
      cases digest with
      | none => exact .inl rfl
      | some d => exact .inr rfl
  | some t => exact .inl rfl

theorem ofParts_eq_ok_iff {registry name : List Char} {tag digest : Option (List Char)}
    {r : Reference} :
    ofParts registry name tag digest = .ok r ↔
      isRepository name = true ∧ (∀ t ∈ tag, isTag t = true) ∧
        r = ⟨String.ofList registry, String.ofList name, tag.map String.ofList,
          digest.map String.ofList⟩ := by
  unfold ofParts
  split
  · next hn =>
      constructor
      · intro h
        cases h
      · rintro ⟨hr, -⟩
        rw [hr] at hn
        cases hn
  · next hn =>
      have hr : isRepository name = true := by simpa using hn
      split
      · next t ht =>
          obtain ⟨hm, hf⟩ := Option.filter_eq_some_iff.1 ht
          constructor
          · intro h
            cases h
          · rintro ⟨-, ha, -⟩
            rw [ha t hm] at hf
            cases hf
      · next ht =>
          have ha : ∀ t ∈ tag, isTag t = true := by simpa using ht
          constructor
          · intro h
            cases h
            exact ⟨hr, ha, rfl⟩
          · rintro ⟨-, -, rfl⟩
            rfl

theorem parse_of_splits {image : String} {front rest registry name : List Char}
    {digest tag : Option (List Char)} (hne : strip image.toList ≠ [])
    (hd : splitDigest (strip image.toList) = .ok (front, digest))
    (hr : splitRegistry front = (registry, rest)) (ht : splitTag rest = (name, tag)) :
    parse image = ofParts registry (qualify registry name) (chooseTag tag digest) digest := by
  unfold parse
  split
  · next hs => exact absurd hs hne
  · rw [hd]
    simp only [bind, Except.bind, hr, ht]

theorem splits_of_parse {image : String} {r : Reference} (h : parse image = .ok r) :
    ∃ front rest registry name digest tag,
      splitDigest (strip image.toList) = .ok (front, digest) ∧
        splitRegistry front = (registry, rest) ∧ splitTag rest = (name, tag) ∧
          ofParts registry (qualify registry name) (chooseTag tag digest) digest = .ok r := by
  unfold parse at h
  split at h
  · cases h
  · cases hd : splitDigest (strip image.toList) with
    | error e =>
        rw [hd] at h
        cases h
    | ok parts =>
        rw [hd] at h
        exact ⟨parts.1, _, _, _, parts.2, _, rfl, rfl, rfl, h⟩

end ImageRegistry.Reference
