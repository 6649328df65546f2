import ImageRegistry.Proofs.Reference.Parts

namespace ImageRegistry

open Text

namespace Digest

inductive Written : List Char → Prop
  | sha256 {digits : List Char} :
      digits.length = 64 → (∀ c ∈ digits, isHexDigit c = true) →
        Written ("sha256".toList ++ ':' :: digits)
  | sha512 {digits : List Char} :
      digits.length = 128 → (∀ c ∈ digits, isHexDigit c = true) →
        Written ("sha512".toList ++ ':' :: digits)

theorem isNameChar_of_isHexDigit {c : Char} (h : isHexDigit c = true) :
    Reference.isNameChar c = true := by
  rw [isHexDigit, Bool.or_eq_true, Bool.and_eq_true, decide_eq_true_eq, decide_eq_true_eq] at h
  rw [Reference.isNameChar, Bool.or_eq_true, Bool.and_eq_true, decide_eq_true_eq,
    decide_eq_true_eq]
  rcases h with h | ⟨ha, hf⟩
  · exact .inr h
  · exact .inl ⟨ha, Char.le_trans hf (by decide)⟩

theorem isBlank_of_isHexDigit {c : Char} (h : isHexDigit c = true) : isBlank c = false :=
  isBlank_of_isWord
    (isWord_of_isAlphanum (Reference.isAlphanum_of_isNameChar (isNameChar_of_isHexDigit h)))

theorem all_withoutFinalBreak {digits : List Char} (h : ∀ c ∈ digits, isHexDigit c = true) :
    (withoutFinalBreak digits).all isHexDigit = true := by
  have hn : '\n' ∉ digits := fun hm => absurd (h '\n' hm) (by decide)
  rw [withoutFinalBreak_of_not_mem hn, List.all_eq_true]
  exact h

theorem isDigest_append {algorithm digits : List Char} (hn : ':' ∉ algorithm)
    (hw : width? algorithm = some digits.length) (h : ∀ c ∈ digits, isHexDigit c = true) :
    isDigest (algorithm ++ ':' :: digits) = true := by
  rw [isDigest, cutFirst_append digits hn]
  simp only [hw, beq_self_eq_true, Bool.true_and]
  exact all_withoutFinalBreak h

theorem Written.isDigest {text : List Char} (h : Written text) : isDigest text = true := by
  cases h with
  | sha256 hl hc => exact isDigest_append (by decide) (by rw [hl]; decide) hc
  | sha512 hl hc => exact isDigest_append (by decide) (by rw [hl]; decide) hc

theorem isBlank_append {algorithm digits : List Char} (ha : algorithm.any isBlank = false)
    (h : ∀ c ∈ digits, isHexDigit c = true) :
    ∀ c ∈ algorithm ++ ':' :: digits, isBlank c = false := by
  refine List.forall_mem_append.2 ⟨isBlank_of_any ha, List.forall_mem_cons.2 ⟨rfl, ?_⟩⟩
  exact fun c hm => isBlank_of_isHexDigit (h c hm)

theorem Written.isBlank {text : List Char} (h : Written text) :
    ∀ c ∈ text, isBlank c = false := by
  cases h with
  | sha256 _ hc => exact isBlank_append rfl hc
  | sha512 _ hc => exact isBlank_append rfl hc

end Digest

namespace Reference

structure Spelling where
  host : Option (List Char)
  path : List (List Char)
  tag : Option (List Char)
  digest : Option (List Char)
  hostName : ∀ h ∈ host, HostName h
  path_ne_nil : path ≠ []
  component : ∀ part ∈ path, Component part
  isTag : ∀ t ∈ tag, Tag t
  isDigest : ∀ d ∈ digest, Digest.Written d
  hostless : host = none → 2 ≤ path.length →
    ∀ first ∈ path.head?, '.' ∉ first ∧ first ≠ "localhost".toList

namespace Spelling

def name (s : Spelling) : List Char :=
  ['/'].intercalate s.path

def hostPart (s : Spelling) : List Char :=
  match s.host with
  | some host => host ++ ['/']
  | none => []

def text (s : Spelling) : List Char :=
  s.hostPart ++ (s.name ++ marked ':' s.tag) ++ marked '@' s.digest

def registry (s : Spelling) : List Char :=
  match s.host with
  | none => "registry-1.docker.io".toList
  | some host =>
      if host ∈ ["docker.io".toList, "index.docker.io".toList, "registry-1.docker.io".toList] then
        "registry-1.docker.io".toList
      else host

def repository (s : Spelling) : List Char :=
  if s.registry = "registry-1.docker.io".toList ∧ s.path.length = 1 then "library/".toList ++ s.name
  else s.name

def chosenTag (s : Spelling) : Option (List Char) :=
  match s.tag, s.digest with
  | some tag, _ => some tag
  | none, some _ => none
  | none, none => some "latest".toList

def reference (s : Spelling) : Reference where
  registry := String.ofList s.registry
  repository := String.ofList s.repository
  tag := s.chosenTag.map String.ofList
  digest := s.digest.map String.ofList

variable (s : Spelling)

theorem not_mem_part {part : List Char} {c : Char} (hp : part ∈ s.path)
    (hc : isComponentChar c = false) : c ∉ part :=
  (s.component part hp).not_mem hc

theorem not_mem_name {c : Char} (hc : isComponentChar c = false) (hs : c ≠ '/') : c ∉ s.name := by
  intro hm
  obtain ⟨part, hp, hi⟩ := (mem_intercalate hm).resolve_left hs
  exact s.not_mem_part hp hc hi

theorem name_ne_nil : s.name ≠ [] := by
  obtain ⟨part, hp⟩ := List.exists_mem_of_ne_nil s.path s.path_ne_nil
  obtain ⟨c, hc⟩ := List.exists_mem_of_ne_nil part (s.component part hp).ne_nil
  exact List.ne_nil_of_mem (mem_intercalate_of_mem hp hc)

theorem slash_mem_name_iff : '/' ∈ s.name ↔ s.path.length ≠ 1 := by
  have hc := s.component
  have hne := s.path_ne_nil
  unfold name
  cases hp : s.path with
  | nil => exact absurd hp hne
  | cons part parts =>
      cases parts with
      | nil =>
          have hn : '/' ∉ part := (hc part (hp ▸ List.mem_cons_self)).not_mem (by decide)
          simp [hn]
      | cons next parts =>
          rw [List.intercalate_cons_cons]
          simp

theorem isBlank_name : ∀ c ∈ s.name, isBlank c = false := by
  intro c hc
  rcases mem_intercalate hc with rfl | ⟨part, hp, hi⟩
  · decide
  · exact isBlank_of_isComponentChar ((s.component part hp).chars c hi)

theorem isBlank_marked {mark : Char} {text : Option (List Char)} (hm : isBlank mark = false)
    (ht : ∀ t ∈ text, ∀ c ∈ t, isBlank c = false) : ∀ c ∈ marked mark text, isBlank c = false := by
  cases text with
  | none =>
      intro c hc
      cases hc
  | some t => exact List.forall_mem_cons.2 ⟨hm, ht t rfl⟩

theorem isBlank_behind_host :
    ∀ c ∈ s.name ++ marked ':' s.tag ++ marked '@' s.digest, isBlank c = false := by
  refine List.forall_mem_append.2 ⟨List.forall_mem_append.2 ⟨s.isBlank_name, ?_⟩, ?_⟩
  · exact isBlank_marked (by decide) fun t ht c hc =>
      isBlank_of_isTagChar ((s.isTag t ht).chars c hc)
  · exact isBlank_marked (by decide) fun d hd => (s.isDigest d hd).isBlank

theorem trimmed_text : Trimmed s.text := by
  have hbody := s.isBlank_behind_host
  have hne : s.name ++ marked ':' s.tag ++ marked '@' s.digest ≠ [] := by
    rw [List.append_assoc]
    exact List.append_ne_nil_of_left_ne_nil s.name_ne_nil _
  rw [text, List.append_assoc]
  refine ⟨fun c hc => ?_, fun c hc => ?_⟩
  · rw [hostPart] at hc
    cases hh : s.host with
    | none =>
        rw [hh] at hc
        exact hbody c (List.mem_of_mem_head? hc)
    | some host =>
        have hn := s.hostName host hh
        rw [hh, List.append_assoc, List.head?_append_of_ne_nil _ hn.ne_nil] at hc
        exact hn.begins c hc
  · rw [List.getLast?_append_of_ne_nil _ hne] at hc
    exact hbody c (List.mem_of_getLast? hc)

theorem text_ne_nil : s.text ≠ [] := by
  rw [text, List.append_assoc, List.append_assoc]
  exact List.append_ne_nil_of_right_ne_nil _ (List.append_ne_nil_of_left_ne_nil s.name_ne_nil _)

theorem isRepository_name : isRepository s.name = true := by
  rw [isRepository, name, pieces_intercalate (fun part hp => s.not_mem_part hp (by decide))
    s.path_ne_nil, List.all_eq_true]
  exact fun part hp => (s.component part hp).isComponent

theorem isRepository_repository : isRepository s.repository = true := by
  unfold repository
  split
  · have hl : "library/".toList ++ s.name = "library".toList ++ '/' :: s.name := rfl
    rw [hl, isRepository, pieces_append '/' s.name (by decide), List.all_cons, Bool.and_eq_true]
    exact ⟨by decide, s.isRepository_name⟩
  · exact s.isRepository_name

theorem canonicalHost_eq (host : List Char) :
    canonicalHost host =
      if host ∈ ["docker.io".toList, "index.docker.io".toList, "registry-1.docker.io".toList] then
        "registry-1.docker.io".toList
      else host := by
  have he : ["docker.io".toList, "index.docker.io".toList, "registry-1.docker.io".toList] =
      hubNames.map String.toList := rfl
  unfold canonicalHost
  refine if_congr ?_ rfl rfl
  simp only [he, List.any_eq_true, beq_iff_eq, List.mem_map]

theorem not_mem_marked_tag {c : Char} (hc : isTagChar c = false) (hm : c ≠ ':') :
    c ∉ marked ':' s.tag := by
  cases ht : s.tag with
  | none => simp [marked]
  | some t =>
      have hn : c ∉ t := (s.isTag t ht).not_mem hc
      simp [marked, hm, hn]

theorem first_of_cutFirst {first rest : List Char}
    (h : cutFirst '/' (s.name ++ marked ':' s.tag) = some (first, rest)) :
    2 ≤ s.path.length ∧ first ∈ s.path.head? := by
  have hc := s.component
  have hne := s.path_ne_nil
  have ht : '/' ∉ marked ':' s.tag := s.not_mem_marked_tag (by decide) (by decide)
  unfold name at h
  cases hp : s.path with
  | nil => exact absurd hp hne
  | cons part parts =>
      have hn : '/' ∉ part := (hc part (hp ▸ List.mem_cons_self)).not_mem (by decide)
      rw [hp] at h
      cases parts with
      | nil =>
          have hm : '/' ∉ part ++ marked ':' s.tag := by simp [hn, ht]
          rw [List.intercalate_singleton, cutFirst_eq_none_iff.2 hm] at h
          cases h
      | cons next parts =>
          rw [List.intercalate_cons_cons, List.append_assoc, List.append_assoc,
            List.singleton_append, cutFirst_append _ hn] at h
          cases h
          exact ⟨by simp, rfl⟩

theorem isHost_first {first : List Char} (h : s.host = none) (hl : 2 ≤ s.path.length)
    (hf : first ∈ s.path.head?) : isHost first = false := by
  obtain ⟨hd, hn⟩ := s.hostless h hl first hf
  have hc : ':' ∉ first := s.not_mem_part (List.mem_of_mem_head? hf) (by decide)
  refine Bool.eq_false_iff.2 fun hh => ?_
  rcases (isHost_iff first).1 hh with hh | hh | hh
  · exact hd hh
  · exact hc hh
  · exact hn hh

theorem splitRegistry_text :
    splitRegistry (s.hostPart ++ (s.name ++ marked ':' s.tag)) =
      (s.registry, s.name ++ marked ':' s.tag) := by
  rw [hostPart, registry]
  cases hh : s.host with
  | some host =>
      have hn := s.hostName host hh
      simp only [List.append_assoc, List.singleton_append]
      rw [splitRegistry_host _ hn.no_slash hn.isHost, canonicalHost_eq]
  | none =>
      refine splitRegistry_plain fun first rest hc => ?_
      obtain ⟨hl, hf⟩ := s.first_of_cutFirst hc
      exact s.isHost_first hh hl hf

theorem qualify_name : qualify s.registry s.name = s.repository := by
  unfold qualify repository
  refine if_congr ?_ rfl rfl
  rw [s.slash_mem_name_iff, not_not]
  rfl

theorem chooseTag_tag : chooseTag s.tag s.digest = s.chosenTag := by
  have ht := s.isTag
  unfold chosenTag
  cases htag : s.tag with
  | none => cases s.digest <;> rfl
  | some t =>
      exact chooseTag_eq_self (fun x hx => ne_nil_of_isTag (ht x (htag ▸ hx)).isTag) (.inl rfl)

theorem isTag_chosenTag : ∀ t ∈ s.chosenTag, Reference.isTag t = true := by
  intro t ht
  unfold chosenTag at ht
  split at ht
  · next tag _ hs =>
      cases ht
      exact (s.isTag t hs).isTag
  · cases ht
  · cases ht
    decide

theorem at_not_mem_front : '@' ∉ s.hostPart ++ (s.name ++ marked ':' s.tag) := by
  have hname : '@' ∉ s.name := s.not_mem_name (by decide) (by decide)
  have htag : '@' ∉ marked ':' s.tag := s.not_mem_marked_tag (by decide) (by decide)
  rw [hostPart]
  cases hh : s.host with
  | none => simp [hname, htag]
  | some host => simp [(s.hostName host hh).no_at, hname, htag]

theorem parse_spelling {before after : List Char} (hb : ∀ c ∈ before, isBlank c = true)
    (ha : ∀ c ∈ after, isBlank c = true) :
    parse (String.ofList (before ++ (s.text ++ after))) = .ok s.reference := by
  have hs : strip (String.ofList (before ++ (s.text ++ after))).toList = s.text := by
    rw [String.toList_ofList]
    exact strip_within s.trimmed_text hb ha
  have hd : splitDigest s.text = .ok (s.hostPart ++ (s.name ++ marked ':' s.tag), s.digest) :=
    splitDigest_marked s.at_not_mem_front fun d hd => (s.isDigest d hd).isDigest
  have ht : splitTag (s.name ++ marked ':' s.tag) = (s.name, s.tag) :=
    splitTag_marked (s.not_mem_name (by decide) (by decide)) fun t ht =>
      ⟨(s.isTag t ht).not_mem (by decide), (s.isTag t ht).not_mem (by decide)⟩
  have hne : strip (String.ofList (before ++ (s.text ++ after))).toList ≠ [] := by
    rw [hs]
    exact s.text_ne_nil
  rw [← hs] at hd
  rw [parse_of_splits hne hd s.splitRegistry_text ht, s.qualify_name, s.chooseTag_tag,
    ofParts_eq_ok_iff]
  exact ⟨s.isRepository_repository, s.isTag_chosenTag, rfl⟩

def localName : Spelling where
  host := some "localhost:5000".toList
  path := ["team".toList, "a__b--c".toList]
  tag := some "v1.0".toList
  digest := some ("sha256".toList ++ ':' :: List.replicate 64 'a')
  hostName := by
    rintro host ⟨⟩
    refine ⟨by decide, by decide, by decide, ?_⟩
    rintro c ⟨⟩
    decide
  path_ne_nil := by decide
  component := by decide
  isTag := by
    rintro tag ⟨⟩
    exact .text (by decide) (by decide) (List.all_eq_true.1 rfl)
  isDigest := by
    rintro digest ⟨⟩
    exact .sha256 (by decide) (List.all_eq_true.1 rfl)
  hostless := fun h => nomatch h

theorem parse_spelling_of_localName :
    (∀ c ∈ [' ', '\t'], isBlank c = true) ∧ (∀ c ∈ ['\n'], isBlank c = true) ∧
      parse (String.ofList ([' ', '\t'] ++ (localName.text ++ ['\n']))) =
        .ok ⟨"localhost:5000", "team/a__b--c", some "v1.0",
          some (String.ofList ("sha256:".toList ++ List.replicate 64 'a'))⟩ := by
  have hb : ∀ c ∈ [' ', '\t'], isBlank c = true := List.all_eq_true.1 rfl
  have ha : ∀ c ∈ ['\n'], isBlank c = true := List.all_eq_true.1 rfl
  exact ⟨hb, ha, localName.parse_spelling hb ha⟩

end Spelling

end Reference

end ImageRegistry
