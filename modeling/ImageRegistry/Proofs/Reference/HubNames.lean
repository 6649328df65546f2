import ImageRegistry.Proofs.Reference.Parts

namespace ImageRegistry

open Text

namespace Text

theorem cutFirst_behind {c : Char} {lead : List Char} (h : c ∉ lead) (text : List Char) :
    cutFirst c (lead ++ text) = (cutFirst c text).map fun parts => (lead ++ parts.1, parts.2) := by
  induction lead with
  | nil => exact Option.map_id'.symm
  | cons x lead ih =>
      rw [List.mem_cons, not_or] at h
      rw [List.cons_append, cutFirst, if_neg (Ne.symm h.1), ih h.2, Option.map_map]
      rfl

theorem strip_of_begins {text : List Char} (h : ∀ c ∈ text.head?, isBlank c = false) :
    strip text = stripEnd text := by
  rw [strip, stripStart, dropWhile_isBlank h]

theorem stripEnd_behind {lead : List Char} {c : Char} (hc : isBlank c = false) (text : List Char) :
    stripEnd (lead ++ c :: text) = lead ++ c :: stripEnd text := by
  have hd : (c :: lead.reverse).dropWhile isBlank = c :: lead.reverse :=
    List.dropWhile_cons_of_neg (Bool.eq_false_iff.1 hc)
  have hr : (lead ++ c :: text).reverse = text.reverse ++ c :: lead.reverse := by simp
  rw [stripEnd, hr, List.dropWhile_append, hd]
  split
  · next he =>
      rw [List.isEmpty_iff] at he
      simp [stripEnd, he]
  · simp [stripEnd]

end Text

namespace Reference

def readAtHub (text : List Char) : Except ReferenceError Reference := do
  let (front, digest) ← splitDigest text
  let (name, tag) := splitTag front
  ofParts hub.toList (qualify hub.toList name) (chooseTag tag digest) digest

theorem splitDigest_behind {lead : List Char} (h : '@' ∉ lead) (text : List Char) :
    splitDigest (lead ++ text) =
      (splitDigest text).map fun parts => (lead ++ parts.1, parts.2) := by
  rw [splitDigest, splitDigest, cutFirst_behind h]
  cases cutFirst '@' text with
  | none => rfl
  | some parts =>
      simp only [Option.map_some]
      split <;> rfl

theorem parse_eq_readAtHub {image : String} {lead text : List Char}
    (hs : strip image.toList = lead ++ text) (hne : lead ++ text ≠ []) (hl : '@' ∉ lead)
    (hr : ∀ front digest, splitDigest text = .ok (front, digest) →
      splitRegistry (lead ++ front) = (hub.toList, front)) :
    parse image = readAtHub text := by
  unfold parse
  rw [hs]
  split
  · next he => exact absurd he hne
  · rw [splitDigest_behind hl, readAtHub]
    cases hd : splitDigest text with
    | error e => rfl
    | ok parts =>
        simp only [Except.map, bind, Except.bind, hr parts.1 parts.2 hd]

theorem strip_named {host name : String} (hb : ∀ c ∈ host.toList.head?, isBlank c = false)
    (hne : host.toList ≠ []) :
    strip (host ++ "/" ++ name).toList = (host.toList ++ ['/']) ++ stripEnd name.toList := by
  have ht : (host ++ "/" ++ name).toList = host.toList ++ '/' :: name.toList := by simp
  rw [ht, strip_of_begins, stripEnd_behind (by decide)]
  · simp
  · rwa [List.head?_append_of_ne_nil _ hne]

theorem canonicalHost_hubName {host : String} (h : host ∈ hubNames) :
    canonicalHost host.toList = hub.toList := by
  unfold canonicalHost
  exact if_pos (List.any_eq_true.2 ⟨host, h, beq_self_eq_true host.toList⟩)

theorem hostName_hubName {host : String} (h : host ∈ hubNames) : HostName host.toList := by
  have hdot : ∀ name ∈ hubNames, '.' ∈ name.toList := by decide
  have hslash : ∀ name ∈ hubNames, '/' ∉ name.toList := by decide
  have hat : ∀ name ∈ hubNames, '@' ∉ name.toList := by decide
  have hblank : ∀ name ∈ hubNames, name.toList.head?.all (!isBlank ·) = true := by decide
  refine ⟨.inl (hdot host h), hslash host h, hat host h, fun c hc => ?_⟩
  simpa [Option.mem_def.1 hc] using hblank host h

theorem parse_hubName {host : String} (h : host ∈ hubNames) (name : String) :
    parse (host ++ "/" ++ name) = readAtHub (stripEnd name.toList) := by
  have hh := hostName_hubName h
  refine parse_eq_readAtHub (strip_named hh.begins hh.ne_nil) (by simp) (by simp [hh.no_at]) ?_
  intro front digest _
  rw [List.append_assoc, List.singleton_append, splitRegistry_host front hh.no_slash hh.isHost,
    canonicalHost_hubName h]

def BeginsWithHost (text : List Char) : Prop :=
  ∃ first rest, text = first ++ '/' :: rest ∧ '/' ∉ first ∧
    ('.' ∈ first ∨ ':' ∈ first ∨ first = "localhost".toList)

theorem splitRegistry_hostless {text : List Char} (h : ¬ BeginsWithHost text) :
    splitRegistry text = (hub.toList, text) := by
  refine splitRegistry_plain fun first rest hc => Bool.eq_false_iff.2 fun hh => h ?_
  obtain ⟨he, hs⟩ := eq_of_cutFirst hc
  exact ⟨first, rest, he, hs, (isHost_iff first).1 hh⟩

theorem BeginsWithHost.append {text : List Char} (h : BeginsWithHost text) (more : List Char) :
    BeginsWithHost (text ++ more) := by
  obtain ⟨first, rest, rfl, hs, hh⟩ := h
  exact ⟨first, rest ++ more, by simp, hs, hh⟩

-- What is cut off at the end is white space, so that the front before an `@` only gets shorter.
theorem hostless_front {text front : List Char} {digest : Option (List Char)}
    (h : ¬ BeginsWithHost (text.takeWhile (· ≠ '@')))
    (hd : splitDigest (stripEnd text) = .ok (front, digest)) : ¬ BeginsWithHost front := by
  obtain ⟨he, hat, -⟩ := eq_of_splitDigest hd
  obtain ⟨blanks, hblanks⟩ := stripEnd_prefix text
  have hfront : ∀ c ∈ front, decide (c ≠ '@') = true := fun c hc =>
    decide_eq_true fun heq => hat (heq ▸ hc)
  rw [← hblanks, he, List.append_assoc, List.takeWhile_append_of_pos hfront] at h
  exact fun hb => h (hb.append _)

theorem parse_hostless {name : String} (hb : ∀ c ∈ name.toList.head?, isBlank c = false)
    (hne : name.toList ≠ []) (hh : ¬ BeginsWithHost (name.toList.takeWhile (· ≠ '@'))) :
    parse name = readAtHub (stripEnd name.toList) := by
  have hs : strip name.toList = [] ++ stripEnd name.toList := strip_of_begins hb
  refine parse_eq_readAtHub hs (fun he => ?_) (by simp) fun front digest hd => ?_
  · rw [← hs] at he
    obtain ⟨c, text, hc⟩ := List.exists_cons_of_ne_nil hne
    have hblank := isBlank_of_strip he c (hc ▸ List.mem_cons_self)
    exact Bool.false_ne_true ((hb c (by rw [hc]; rfl)).symm.trans hblank)
  · exact splitRegistry_hostless (hostless_front hh hd)

theorem hub_names_alike {name : String} (hb : ∀ c ∈ name.toList.head?, isBlank c = false) :
    ∃ outcome : Except ReferenceError Reference,
      (∀ host ∈ ["docker.io", "index.docker.io", "registry-1.docker.io"],
        parse (host ++ "/" ++ name) = outcome) ∧
      (¬ BeginsWithHost (name.toList.takeWhile (· ≠ '@')) →
        ∀ r, parse name = .ok r ↔ outcome = .ok r) := by
  refine ⟨readAtHub (stripEnd name.toList), fun host hm => parse_hubName hm name, fun hh r => ?_⟩
  by_cases hne : name.toList = []
  · have he : parse name = .error .empty := by
      rw [parse, hne]
      rfl
    have hr : readAtHub (stripEnd name.toList) = .error (.repository "library/") := by
      rw [hne]
      rfl
    rw [he, hr]
    exact ⟨fun h => (nomatch h), fun h => (nomatch h)⟩
  · rw [parse_hostless hb hne hh]

theorem hub_names_alike_of_tagged :
    (∀ c ∈ "nginx:1.25\n".toList.head?, isBlank c = false) ∧
      parse "nginx:1.25\n" = .ok ⟨hub, "library/nginx", some "1.25", none⟩ := by
  have hb : ∀ c ∈ "nginx:1.25\n".toList.head?, isBlank c = false := by
    rintro c ⟨⟩
    decide
  have hh : ¬ BeginsWithHost ("nginx:1.25\n".toList.takeWhile (· ≠ '@')) := by
    rintro ⟨first, rest, he, -⟩
    have hm : '/' ∈ "nginx:1.25\n".toList.takeWhile (· ≠ '@') :=
      he ▸ List.mem_append_right _ List.mem_cons_self
    exact absurd hm (by decide)
  have hp : parse ("index.docker.io" ++ "/" ++ "nginx:1.25\n") =
      .ok ⟨hub, "library/nginx", some "1.25", none⟩ := rfl
  obtain ⟨outcome, hall, hbare⟩ := hub_names_alike hb
  rw [hall "index.docker.io" (by decide)] at hp
  exact ⟨hb, (hbare hh _).2 hp⟩

end Reference

end ImageRegistry
