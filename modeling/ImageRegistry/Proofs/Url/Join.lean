import ImageRegistry.Proofs.Url.Query

namespace ImageRegistry

open Text

open Text.Symbol (char)

namespace Url

structure Hosted (url : Url) : Prop where
  scheme : url.scheme = [] ∨ SmallScheme url.scheme
  authority : Authority url.authority
  filled : url.authority ≠ []
  path : Path url.path
  rooted : url.path = [] ∨ url.path.head? = some (char '/')
  query : ∀ symbol ∈ url.query, isKept symbol = true ∧ symbol ≠ char '#'
  fragment : ∀ symbol ∈ url.fragment, isKept symbol = true

section Schemes

theorem toLower_of_isSchemeChar {c : Char} (h : isSchemeChar c = true) :
    isSchemeChar c.toLower = true ∧ c.toLower.toLower = c.toLower ∧
      (c.isAlpha = true → c.toLower.isAlpha = true) := by
  have hsmall : ∀ n < 0x80, isSchemeChar (Char.ofNat n) = true →
      isSchemeChar (Char.ofNat n).toLower = true ∧
        (Char.ofNat n).toLower.toLower = (Char.ofNat n).toLower ∧
        ((Char.ofNat n).isAlpha = true → (Char.ofNat n).toLower.isAlpha = true) := by
    decide
  have hc := hsmall c.toNat (toNat_lt_of_isSchemeChar h)
  rw [Char.ofNat_toNat] at hc
  exact hc h

theorem smallScheme_toLower {scheme : List Char} (h : isScheme scheme = true) :
    SmallScheme (scheme.map Char.toLower) := by
  have hchars := isSchemeChar_of_isScheme h
  cases scheme with
  | nil => cases h
  | cons c rest =>
      rw [Url.isScheme, Bool.and_eq_true] at h
      refine ⟨?_, ?_⟩
      · rw [List.map_cons, Url.isScheme, Bool.and_eq_true, List.all_map, List.all_eq_true]
        refine ⟨(toLower_of_isSchemeChar (hchars c List.mem_cons_self)).2.2 h.1, fun x hx => ?_⟩
        exact (toLower_of_isSchemeChar (hchars x (List.mem_cons_of_mem c hx))).1
      · rw [List.map_map]
        exact List.map_congr_left fun x hx => (toLower_of_isSchemeChar (hchars x hx)).2.1

theorem splitScheme_scheme (text : List Symbol) :
    (splitScheme text).1 = [] ∨ SmallScheme (splitScheme text).1 := by
  unfold splitScheme
  split
  · split
    · next h => exact .inr (smallScheme_toLower h)
    · exact .inl rfl
  · exact .inl rfl

theorem splitScheme_subset (text : List Symbol) : (splitScheme text).2 ⊆ text := by
  unfold splitScheme
  split
  · next h =>
      split
      · rw [(eq_of_cutFirst h).1]
        exact List.subset_append_of_subset_right _ (List.subset_cons_self _ _)
      · exact List.Subset.refl text
  · exact List.Subset.refl text

theorem splitScheme_slash (rest : List Symbol) :
    splitScheme (char '/' :: rest) = ([], char '/' :: rest) := by
  unfold splitScheme
  split
  · next scheme after h =>
      cases scheme with
      | nil =>
          have hs := (eq_of_cutFirst h).1
          simp at hs
      | cons c scheme =>
          obtain ⟨rfl, -⟩ := List.cons.inj (eq_of_cutFirst h).1
          rfl
  · rfl

end Schemes

theorem isAuthority_of_plain {text : List Char}
    (h : ∀ c ∈ text, c ≠ '[' ∧ c ≠ ']' ∧ c.toNat ∉ unfolding) : isAuthority text = true := by
  have hopen : '[' ∉ text := fun hm => (h _ hm).1 rfl
  have hclose : ']' ∉ text := fun hm => (h _ hm).2.1 rfl
  simpa [isAuthority, hopen, hclose] using fun c hc => (h c hc).2.2

section Cuts

theorem splitAt_cons_self (c : Char) (text : List Symbol) :
    splitAt c (char c :: text) = ([], text) :=
  splitAt_append List.not_mem_nil text

theorem splitAt_cons_of_ne {c : Char} {symbol : Symbol} (h : symbol ≠ char c)
    (text : List Symbol) :
    splitAt c (symbol :: text) = (symbol :: (splitAt c text).1, (splitAt c text).2) := by
  rw [splitAt, splitAt, cutFirst, if_neg h]
  cases cutFirst (char c) text with
  | none => rfl
  | some parts => rfl

theorem splitAt_rest_subset (c : Char) (text : List Symbol) : (splitAt c text).2 ⊆ text := by
  rw [splitAt]
  cases h : cutFirst (char c) text with
  | none => exact List.nil_subset text
  | some parts =>
      rw [(eq_of_cutFirst h).1]
      exact List.subset_append_of_subset_right _ (List.subset_cons_self _ _)

theorem exists_mark_of_endsAuthority {symbol : Symbol} (h : symbol.is endsAuthority = true) :
    ∃ c ∈ ['/', '?', '#'], symbol = char c := by
  cases symbol with
  | char c => exact ⟨c, (endsAuthority_iff c).1 h, rfl⟩
  | half code => cases h

theorem rooted_splitAt {rest : List Symbol}
    (h : ∀ symbol ∈ rest.head?, symbol.is endsAuthority = true) :
    (splitAt '?' (splitAt '#' rest).1).1 = [] ∨
      (splitAt '?' (splitAt '#' rest).1).1.head? = some (char '/') := by
  cases rest with
  | nil => exact .inl rfl
  | cons symbol tail =>
      obtain ⟨c, hc, rfl⟩ := exists_mark_of_endsAuthority (h symbol rfl)
      simp only [List.mem_cons, List.not_mem_nil, or_false] at hc
      rcases hc with rfl | rfl | rfl
      · rw [splitAt_cons_of_ne (by decide), splitAt_cons_of_ne (by decide)]
        exact .inr rfl
      · rw [splitAt_cons_of_ne (by decide), splitAt_cons_self]
        exact .inl rfl
      · rw [splitAt_cons_self]
        exact .inl rfl

theorem endsAuthority_head?_dropWhile (body : List Symbol) :
    ∀ symbol ∈ (body.dropWhile fun symbol => !symbol.is endsAuthority).head?,
      symbol.is endsAuthority = true := by
  intro symbol hm
  have hhead := List.head?_dropWhile_not (fun symbol => !Symbol.is endsAuthority symbol) body
  rw [Option.mem_def.1 hm] at hhead
  simpa using hhead

theorem splitAuthority_filled {text : List Symbol} (h : (splitAuthority text).1 ≠ []) :
    ∃ body, text = char '/' :: char '/' :: body := by
  unfold splitAuthority at h
  split at h
  · exact ⟨_, rfl⟩
  · exact absurd rfl h

theorem splitAuthority_subset (text : List Symbol) : (splitAuthority text).1 ⊆ text := by
  unfold splitAuthority
  split
  · exact List.Subset.trans (List.takeWhile_sublist _).subset
      (List.subset_cons_of_subset _ (List.subset_cons_self _ _))
  · exact List.nil_subset text

end Cuts

theorem isSome_split?_of_plain {text : List Symbol}
    (h : ∀ c ∈ charsOf text, c ≠ '[' ∧ c ≠ ']' ∧ c.toNat ∉ unfolding) : (split? text).isSome := by
  have hclean : clean text ⊆ text := fun symbol hm =>
    (List.dropWhile_sublist _).subset (List.mem_filter.1 hm).1
  have hauthority : (splitAuthority (splitScheme (clean text)).2).1 ⊆ text :=
    List.Subset.trans (splitAuthority_subset _)
      (List.Subset.trans (splitScheme_subset _) hclean)
  have hplain : isAuthority (charsOf (splitAuthority (splitScheme (clean text)).2).1) = true :=
    isAuthority_of_plain fun c hc => h c (List.map_subset _ hauthority hc)
  rw [split?_eq]
  simp only
  rw [if_pos hplain, Option.isSome_some]

theorem split?_filled {text : List Symbol} {url : Url} (h : split? text = some url)
    (ha : url.authority ≠ []) :
    ∃ scheme body, (scheme = [] ∨ SmallScheme scheme) ∧
      (∀ symbol ∈ body, isKept symbol = true) ∧ splitBody? scheme body = some url := by
  rw [split?_eq] at h
  have hauthority : (splitAuthority (splitScheme (clean text)).2).1 ≠ [] := by
    obtain ⟨-, hu⟩ := Option.ite_none_right_eq_some.1 h
    cases hu
    exact ha
  obtain ⟨body, hb⟩ := splitAuthority_filled hauthority
  have hbody : body ⊆ (splitScheme (clean text)).2 := by
    rw [hb]
    exact List.subset_cons_of_subset _ (List.subset_cons_self _ _)
  refine ⟨(splitScheme (clean text)).1, body, splitScheme_scheme _, fun symbol hm => ?_, ?_⟩
  · exact (List.mem_filter.1 (splitScheme_subset _ (hbody hm))).2
  · simp only [hb] at h
    exact h

theorem hosted_of_split? {text : List Symbol} {url : Url} (h : split? text = some url)
    (ha : url.authority ≠ []) : url.Hosted := by
  obtain ⟨scheme, body, hscheme, hkept, hsplit⟩ := split?_filled h ha
  obtain ⟨hauthority, hpath⟩ := parts_of_splitBody? hkept hsplit
  have hrest : ∀ symbol ∈ body.dropWhile fun symbol => !symbol.is endsAuthority,
      isKept symbol = true := fun symbol hm =>
    hkept symbol ((List.dropWhile_sublist _).subset hm)
  rw [splitBody?] at hsplit
  obtain ⟨-, hu⟩ := Option.ite_none_right_eq_some.1 hsplit
  cases hu
  refine ⟨hscheme, hauthority, ha, hpath, rooted_splitAt (endsAuthority_head?_dropWhile body),
    fun symbol hm => ?_, fun symbol hm => hrest symbol (splitAt_rest_subset _ _ hm)⟩
  have hfront := splitAt_rest_subset _ _ hm
  refine ⟨hrest symbol (splitAt_subset _ _ hfront), ?_⟩
  rintro rfl
  exact not_mem_splitAt _ _ hfront

theorem split?_slashes (body : List Symbol) :
    split? (char '/' :: char '/' :: body) = splitBody? [] (body.filter isKept) := by
  have hc : clean (char '/' :: char '/' :: body) = char '/' :: char '/' :: body.filter isKept :=
    clean_cons (by decide) _
  rw [split?, hc, splitScheme_slash]
  rfl

def behind (url : Url) : List Symbol :=
  url.path ++ marked '?' url.query ++ marked '#' url.fragment

theorem marked_cases (mark : Char) (part : List Symbol) :
    marked mark part = [] ∨ marked mark part = char mark :: part := by
  unfold marked
  split
  · exact .inl rfl
  · exact .inr rfl

theorem isKept_marked {mark : Char} {part : List Symbol} (hm : isKept (char mark) = true)
    (hp : ∀ symbol ∈ part, isKept symbol = true) :
    ∀ symbol ∈ marked mark part, isKept symbol = true := by
  rcases marked_cases mark part with h | h
  · rw [h]
    exact nofun
  · rw [h]
    exact List.forall_mem_cons.2 ⟨hm, hp⟩

namespace Hosted

variable {url : Url} (h : url.Hosted)
include h

theorem join_eq :
    url.join = (if url.scheme.isEmpty then [] else symbolsOf url.scheme ++ [char ':']) ++
      char '/' :: char '/' :: (url.authority ++ url.behind) := by
  have hslash : (!url.path.isEmpty && url.path.head? != some (char '/')) = false := by
    rcases h.rooted with hp | hp
    · simp [hp]
    · simp [hp]
  have hauthority : url.hasAuthority = true := by simp [hasAuthority, h.filled]
  simp [join, joinPath, hslash, hauthority, behind]

theorem filter_isKept :
    (url.authority ++ url.behind).filter isKept = url.authority ++ url.behind := by
  refine List.filter_eq_self.2 (List.forall_mem_append.2 ⟨h.authority.kept, ?_⟩)
  refine List.forall_mem_append.2 ⟨List.forall_mem_append.2 ⟨h.path.kept, ?_⟩, ?_⟩
  · exact isKept_marked (by decide) fun symbol hm => (h.query symbol hm).1
  · exact isKept_marked (by decide) h.fragment

theorem head?_behind : ∀ symbol ∈ url.behind.head?, symbol.is endsAuthority = true := by
  rw [behind, List.append_assoc]
  rcases h.rooted with hp | hp
  · rw [hp, List.nil_append]
    rcases marked_cases '?' url.query with hq | hq
    · rw [hq, List.nil_append]
      rcases marked_cases '#' url.fragment with hf | hf
      · rw [hf]
        exact nofun
      · rw [hf]
        rintro symbol ⟨⟩
        decide
    · rw [hq]
      rintro symbol ⟨⟩
      decide
  · rw [List.head?_append, hp]
    rintro symbol ⟨⟩
    decide

theorem splitAt_behind :
    splitAt '#' url.behind = (url.path ++ marked '?' url.query, url.fragment) ∧
      splitAt '?' (url.path ++ marked '?' url.query) = (url.path, url.query) := by
  have hquestion : char '?' ∉ url.path := h.path '?' (by decide)
  have hsign : char '#' ∉ url.path := h.path '#' (by decide)
  have hquery : char '#' ∉ marked '?' url.query := by
    rcases marked_cases '?' url.query with hq | hq
    · rw [hq]
      exact List.not_mem_nil
    · rw [hq, List.mem_cons, not_or]
      exact ⟨by decide, fun hm => (h.query _ hm).2 rfl⟩
  refine ⟨splitAt_marked ?_ _, splitAt_marked hquestion _⟩
  rw [List.mem_append]
  exact not_or.2 ⟨hsign, hquery⟩

theorem splitBody?_eq : splitBody? url.scheme (url.authority ++ url.behind) = some url := by
  have htake : (url.authority ++ url.behind).takeWhile (fun symbol => !symbol.is endsAuthority) =
      url.authority := by
    rw [List.takeWhile_append_of_pos h.authority.inside]
    cases hb : url.behind with
    | nil => simp
    | cons symbol rest =>
        have hm := h.head?_behind symbol (by rw [hb]; rfl)
        rw [List.takeWhile_cons_of_neg (by simp [hm]), List.append_nil]
  have hdrop : (url.authority ++ url.behind).dropWhile (fun symbol => !symbol.is endsAuthority) =
      url.behind := by
    rw [List.dropWhile_append_of_pos h.authority.inside]
    cases hb : url.behind with
    | nil => rfl
    | cons symbol rest =>
        have hm := h.head?_behind symbol (by rw [hb]; rfl)
        rw [List.dropWhile_cons_of_neg (by simp [hm])]
  obtain ⟨hsign, hquestion⟩ := h.splitAt_behind
  simp only [splitBody?, htake, hdrop, hsign, hquestion, h.authority.isAuthority, if_true]

theorem split?_join : split? url.join = some url := by
  rw [h.join_eq]
  rcases h.scheme with hs | hs
  · have hbody := h.splitBody?_eq
    rw [hs] at hbody ⊢
    rw [List.isEmpty_nil, if_pos rfl, List.nil_append, split?_slashes, h.filter_isKept, hbody]
  · have hne : url.scheme ≠ [] := by
      intro hn
      rw [hn] at hs
      cases hs.isScheme
    have hmoved := split?_append hs (url.authority ++ url.behind)
    rw [h.filter_isKept, h.splitBody?_eq] at hmoved
    rw [← hmoved]
    simp [hne, symbols, symbolsOf]

theorem with_query {query : List Symbol}
    (hq : ∀ symbol ∈ query, isKept symbol = true ∧ symbol ≠ char '#') :
    Hosted { url with query := query } :=
  ⟨h.scheme, h.authority, h.filled, h.path, h.rooted, hq, h.fragment⟩

end Hosted

theorem kept_writePairs? {pairs : Pairs} {written : List Char}
    (h : writePairs? pairs = some written) :
    ∀ symbol ∈ symbolsOf written, isKept symbol = true ∧ symbol ≠ char '#' := by
  intro symbol hm
  have hnot (mark : Char) (hw : isWritten mark = false) (he : mark ≠ '=') (hand : mark ≠ '&') :
      symbol ≠ char mark := by
    rintro rfl
    exact not_mem_of_writePairs? hw he hand h (char_mem_symbolsOf.1 hm)
  refine ⟨isKept_of_ne ?_, hnot '#' (by decide) (by decide) (by decide)⟩
  simp only [List.forall_mem_cons, List.not_mem_nil, false_implies, implies_true, and_true]
  exact ⟨hnot '\t' (by decide) (by decide) (by decide),
    hnot '\r' (by decide) (by decide) (by decide),
    hnot '\n' (by decide) (by decide) (by decide)⟩

end Url

section TokenAddress

variable {realm service scope : List Symbol} {parts : Url}

theorem split?_tokenUrl (h : Url.split? realm = some parts) (ha : parts.authority ≠ [])
    (he : Encodable parts.query service scope) :
    ∃ url query, tokenUrl realm service scope = .ok url ∧
      Url.writePairs? (tokenPairs parts.query service scope) = some query ∧
      Url.split? url = some { parts with query := symbolsOf query } := by
  obtain ⟨query, hq⟩ := Option.isSome_iff_exists.1 (isSome_writePairs?_tokenPairs_iff.2 he)
  have hhosted := (Url.hosted_of_split? h ha).with_query (Url.kept_writePairs? hq)
  exact ⟨_, query, tokenUrl_eq_ok_iff.2 ⟨parts, query, h, hq, rfl⟩, hq, hhosted.split?_join⟩

theorem token_address_keeps_realm (h : Url.split? realm = some parts) (ha : parts.authority ≠ [])
    (service scope : List Symbol) :
    (Encodable parts.query service scope →
        ∃ url again, tokenUrl realm service scope = .ok url ∧ Url.split? url = some again ∧
          again.scheme = parts.scheme ∧ again.authority = parts.authority ∧
          again.path = parts.path ∧ again.fragment = parts.fragment ∧
          Url.readPairs again.query =
            ((Url.readPairs parts.query).filter fun pair =>
              pair.1 ≠ symbols "service" ∧ pair.1 ≠ symbols "scope") ++
              [(symbols "service", service), (symbols "scope", scope)]) ∧
      (¬ Encodable parts.query service scope →
        tokenUrl realm service scope = .error .unencodable) := by
  refine ⟨fun he => ?_, tokenUrl_of_not_encodable h⟩
  obtain ⟨url, query, hu, hq, hs⟩ := split?_tokenUrl h ha he
  refine ⟨url, _, hu, hs, rfl, rfl, rfl, rfl, ?_⟩
  rw [Url.readPairs_writePairs? hq, tokenPairs]
  congr 1
  refine List.filter_congr fun pair _ => Bool.eq_iff_iff.2 ?_
  simp only [isTokenParameter, Bool.not_eq_true', Bool.or_eq_false_iff, beq_eq_false_iff_ne,
    decide_eq_true_eq]

theorem token_address_keeps_realm_of_busy_query :
    let realm := symbols "HTTPS://user@ghcr.io:443?scope=a&b&=%F0%90c&%73ervice=" ++
      .half 0xDCFF :: symbols "&b=+e%2#f?g#h"
    let parts : Url :=
      { scheme := "https".toList, authority := symbols "user@ghcr.io:443", path := [],
        query := symbols "scope=a&b&=%F0%90c&%73ervice=" ++ .half 0xDCFF :: symbols "&b=+e%2",
        fragment := symbols "f?g#h" }
    Url.split? realm = some parts ∧ parts.authority ≠ [] ∧
      Encodable parts.query (symbols "r & d") (symbols "é") ∧
      ∃ url again, tokenUrl realm (symbols "r & d") (symbols "é") = .ok url ∧
        Url.split? url = some again ∧
        again.scheme = parts.scheme ∧ again.authority = parts.authority ∧
        again.path = parts.path ∧ again.fragment = parts.fragment ∧
        Url.readPairs again.query =
          [(symbols "b", []), ([], symbols "\uFFFDc"), (symbols "b", symbols " e%2"),
            (symbols "service", symbols "r & d"), (symbols "scope", symbols "é")] := by
  intro realm parts
  have h : Url.split? realm = some parts := by decide +kernel
  have ha : parts.authority ≠ [] := by decide
  have hpairs : ((Url.readPairs parts.query).filter fun pair =>
      pair.1 ≠ symbols "service" ∧ pair.1 ≠ symbols "scope") =
      [(symbols "b", []), ([], symbols "\uFFFDc"), (symbols "b", symbols " e%2")] := by
    decide +kernel
  have hwritten : (Url.writePairs? (tokenPairs parts.query (symbols "r & d")
      (symbols "é"))).isSome := by
    decide +kernel
  have he := isSome_writePairs?_tokenPairs_iff.1 hwritten
  have hkeeps := (token_address_keeps_realm h ha (symbols "r & d") (symbols "é")).1 he
  rw [hpairs] at hkeeps
  exact ⟨h, ha, he, hkeeps⟩

theorem half_not_written :
    ¬ ∀ (realm service scope : List Symbol) (parts : Url), Url.split? realm = some parts →
      parts.authority ≠ [] →
      ∃ url, tokenUrl realm service scope = .ok url ∧ (Url.split? url).isSome := by
  intro h
  have hs : Url.split? (symbols "https://a/t") =
      some ⟨"https".toList, symbols "a", symbols "/t", [], []⟩ := by
    decide
  obtain ⟨url, hu, -⟩ := h _ [.half 0xDCFF] (symbols "s") _ hs (by decide)
  have hn : ¬ Encodable [] [.half 0xDCFF] (symbols "s") := fun he =>
    he.service 0xDCFF (List.mem_singleton_self _)
  rw [tokenUrl_of_not_encodable hs hn] at hu
  cases hu

end TokenAddress

end ImageRegistry
