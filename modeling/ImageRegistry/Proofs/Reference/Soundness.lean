import ImageRegistry.Proofs.Reference.Canonical

namespace ImageRegistry.Reference

open Text

structure Grammatical (r : Reference) : Prop where
  repository : ∀ part ∈ pieces '/' r.repository.toList, Component part
  named : pieces '/' r.repository.toList ≠ []
  tag : ∀ t ∈ r.tag, Tag t.toList

theorem component_or_break {part : List Char} (h : isComponent part = true) :
    Component part ∨ ∃ body, part = body ++ ['\n'] ∧ Component body := by
  have hc := (isComponent_iff part).1 h
  rcases eq_or_eq_append_withoutFinalBreak part with he | he
  · rw [← he] at hc
    exact .inl hc
  · exact .inr ⟨_, he, hc⟩

theorem tag_or_break {text : List Char} (h : isTag text = true) :
    Tag text ∨ ∃ body, text = body ++ ['\n'] ∧ Tag body := by
  have ht := (isTag_iff text).1 h
  rcases eq_or_eq_append_withoutFinalBreak text with he | he
  · rw [← he] at ht
    exact .inl ht
  · exact .inr ⟨_, he, ht⟩

theorem grammatical_iff {r : Reference} (h : r.Canonical) :
    r.Grammatical ↔ '\n' ∉ r.repository.toList ∧ ∀ t ∈ r.tag, '\n' ∉ t.toList := by
  constructor
  · intro hg
    refine ⟨fun hm => ?_, fun t ht hm => ?_⟩
    · obtain ⟨part, hp, hc⟩ := mem_pieces hm (by decide : '\n' ≠ '/')
      exact (hg.repository part hp).not_mem (by decide) hc
    · exact (hg.tag t ht).not_mem (by decide) hm
  · rintro ⟨hr, ht⟩
    refine ⟨fun part hp => ?_, pieces_ne_nil _ _, fun t hm => ?_⟩
    · have hc := (isComponent_iff part).1 (List.all_eq_true.1 h.repository part hp)
      rwa [withoutFinalBreak_of_not_mem fun hb => hr (mem_of_mem_pieces hp hb)] at hc
    · have hc := (isTag_iff t.toList).1 (h.tag t hm)
      rwa [withoutFinalBreak_of_not_mem (ht t hm)] at hc

theorem mem_of_mem_qualify {registry name : List Char} {c : Char}
    (h : c ∈ qualify registry name) : c ∈ "library/".toList ∨ c ∈ name := by
  unfold qualify at h
  split at h
  · exact List.mem_append.1 h
  · exact .inr h

theorem mem_of_mem_chooseTag {tag digest : Option (List Char)} {t : List Char} {c : Char}
    (h : t ∈ chooseTag tag digest) (hc : c ∈ t) :
    c ∈ defaultTag.toList ∨ c ∈ marked ':' tag := by
  unfold chooseTag at h
  split at h
  · next written _ =>
      cases h
      exact (mem_of_mem_orLatest hc).imp_right (List.mem_cons_of_mem _)
  · cases h
  · cases h
    exact .inl hc

theorem mem_of_parse {image : String} {r : Reference} (h : parse image = .ok r) (c : Char) :
    (c ∈ r.repository.toList → c ∈ "library/".toList ∨ c ∈ strip image.toList) ∧
      ∀ t ∈ r.tag, c ∈ t.toList → c ∈ defaultTag.toList ∨ c ∈ strip image.toList := by
  obtain ⟨front, rest, registry, name, digest, tag, hd, hr, ht, ho⟩ := splits_of_parse h
  obtain ⟨hs, -, -⟩ := eq_of_splitDigest hd
  obtain ⟨lead, hlead⟩ := eq_append_of_splitRegistry hr
  obtain ⟨-, -, rfl⟩ := ofParts_eq_ok_iff.1 ho
  have hwritten : ∀ x, x ∈ name ++ marked ':' tag → x ∈ strip image.toList := by
    intro x hx
    rw [hs, hlead, eq_of_splitTag ht]
    exact List.mem_append_left _ (List.mem_append_right _ hx)
  refine ⟨fun hc => ?_, fun t hm hc => ?_⟩
  · rw [String.toList_ofList] at hc
    exact (mem_of_mem_qualify hc).imp_right fun hn => hwritten c (List.mem_append_left _ hn)
  · obtain ⟨t', ht', rfl⟩ := Option.map_eq_some_iff.1 hm
    rw [String.toList_ofList] at hc
    exact (mem_of_mem_chooseTag ht' hc).imp_right fun hn => hwritten c (List.mem_append_right _ hn)

theorem grammatical_up_to_line_breaks {image : String} {r : Reference} (h : parse image = .ok r) :
    (∀ part ∈ pieces '/' r.repository.toList,
        Component part ∨ ∃ body, part = body ++ ['\n'] ∧ Component body) ∧
      pieces '/' r.repository.toList ≠ [] ∧
      (∀ t ∈ r.tag, Tag t.toList ∨ ∃ body, t.toList = body ++ ['\n'] ∧ Tag body) ∧
      (r.Grammatical ↔ '\n' ∉ r.repository.toList ∧ ∀ t ∈ r.tag, '\n' ∉ t.toList) ∧
      ('\n' ∉ strip image.toList → r.Grammatical) := by
  have hc := canonical_of_parse h
  refine ⟨fun part hp => ?_, pieces_ne_nil _ _, fun t ht => ?_, grammatical_iff hc, fun hn => ?_⟩
  · exact component_or_break (List.all_eq_true.1 hc.repository part hp)
  · exact tag_or_break (hc.tag t ht)
  · obtain ⟨hr, ht⟩ := mem_of_parse h '\n'
    refine (grammatical_iff hc).2 ⟨fun hm => ?_, fun t hm hb => ?_⟩
    · exact (hr hm).elim (by decide) hn
    · exact (ht t hm hb).elim (by decide) hn

theorem grammatical_up_to_line_breaks_without :
    parse "localhost:5000/a__b/c--d.e:v1" = .ok ⟨"localhost:5000", "a__b/c--d.e", some "v1", none⟩ ∧
      Grammatical ⟨"localhost:5000", "a__b/c--d.e", some "v1", none⟩ := by
  have h : parse "localhost:5000/a__b/c--d.e:v1" =
      .ok ⟨"localhost:5000", "a__b/c--d.e", some "v1", none⟩ := rfl
  exact ⟨h, (grammatical_up_to_line_breaks h).2.2.2.2 (by decide)⟩

theorem line_break_left_over :
    ¬ ∀ (image : String) (r : Reference), parse image = .ok r → r.Grammatical := by
  intro h
  have hp : parse "ghcr.io/a\n:v1" = .ok ⟨"ghcr.io", "a\n", some "v1", none⟩ := rfl
  have hc := (h _ _ hp).repository ['a', '\n'] (by decide)
  exact absurd hc (by decide)

end ImageRegistry.Reference
