import ImageRegistry.Proofs.Url.Form
import ImageRegistry.Proofs.Url.Split
import ImageRegistry.TokenUrl

namespace ImageRegistry

open Text
open Text.Symbol (char)

namespace Url

def queryPart (address : List Symbol) : List Symbol :=
  (splitAt '#' (splitAt '?' address).2).1

theorem splitAt_append {c : Char} {text : List Symbol} (h : char c ∉ text) (rest : List Symbol) :
    splitAt c (text ++ char c :: rest) = (text, rest) := by
  rw [splitAt, cutFirst_append rest h, Option.getD_some]

theorem splitAt_marked {c : Char} {text : List Symbol} (h : char c ∉ text) (part : List Symbol) :
    splitAt c (text ++ marked c part) = (text, part) := by
  cases part with
  | nil => rw [marked, List.isEmpty_nil, if_pos rfl, List.append_nil, splitAt_of_not_mem h]
  | cons x part => exact splitAt_append h (x :: part)

theorem toNat_lt_of_isSchemeChar {c : Char} (h : isSchemeChar c = true) : c.toNat < 0x80 := by
  simp only [isSchemeChar, Bool.or_eq_true, beq_iff_eq] at h
  rcases h with ((h | rfl) | rfl) | rfl
  · exact toNat_lt_of_isAlphanum h
  · decide
  · decide
  · decide

theorem toLower_ne_question {c : Char} (h : isSchemeChar c = true) : c.toLower ≠ '?' := by
  have hsmall : ∀ n < 0x80, isSchemeChar (Char.ofNat n) = true → (Char.ofNat n).toLower ≠ '?' := by
    decide
  have hc := hsmall c.toNat (toNat_lt_of_isSchemeChar h)
  rw [Char.ofNat_toNat] at hc
  exact hc h

theorem question_not_mem_toLower {scheme : List Char} (h : isScheme scheme = true) :
    '?' ∉ scheme.map Char.toLower := by
  intro hm
  obtain ⟨c, hc, hl⟩ := List.mem_map.1 hm
  exact toLower_ne_question (isSchemeChar_of_isScheme h c hc) hl

theorem question_not_mem_splitScheme (text : List Symbol) : '?' ∉ (splitScheme text).1 := by
  unfold splitScheme
  split
  · split
    · next h => exact question_not_mem_toLower h
    · exact List.not_mem_nil
  · exact List.not_mem_nil

theorem question_not_mem_splitAuthority (text : List Symbol) :
    char '?' ∉ (splitAuthority text).1 := by
  unfold splitAuthority
  split
  · intro hm
    have hi := List.mem_takeWhile_imp hm
    exact absurd hi (by decide)
  · exact List.not_mem_nil

structure PlainFront (url : Url) : Prop where
  scheme : '?' ∉ url.scheme
  authority : char '?' ∉ url.authority
  path : char '?' ∉ url.path

theorem split?_eq (text : List Symbol) :
    split? text =
      let scheme := splitScheme (clean text)
      let authority := splitAuthority scheme.2
      let rest := splitAt '#' authority.2
      let path := splitAt '?' rest.1
      if isAuthority (charsOf authority.1) then
        some ⟨scheme.1, authority.1, path.1, path.2, rest.2⟩
      else none := rfl

theorem plainFront_of_split? {text : List Symbol} {url : Url} (h : split? text = some url) :
    url.PlainFront := by
  rw [split?_eq] at h
  obtain ⟨-, hu⟩ := Option.ite_none_right_eq_some.1 h
  cases hu
  exact ⟨question_not_mem_splitScheme _, question_not_mem_splitAuthority _, not_mem_splitAt _ _⟩

def front (url : Url) : List Symbol :=
  (if url.scheme.isEmpty then [] else symbolsOf url.scheme ++ [char ':']) ++ url.joinPath

theorem PlainFront.question_not_mem {url : Url} (h : url.PlainFront) :
    char '?' ∉ url.front := by
  have hscheme :
      char '?' ∉ (if url.scheme.isEmpty then [] else symbolsOf url.scheme ++ [char ':']) := by
    split
    · exact List.not_mem_nil
    · simpa using h.scheme
  have hpath : char '?' ∉ url.joinPath := by
    unfold joinPath
    split
    · simp only
      split <;> simp [h.authority, h.path]
    · exact h.path
  rw [front, List.mem_append]
  exact not_or.2 ⟨hscheme, hpath⟩

theorem queryPart_join {url : Url} (h : url.PlainFront) (hq : char '#' ∉ url.query)
    (hne : url.query ≠ []) : queryPart url.join = url.query := by
  have hjoin : url.join = url.front ++ char '?' :: (url.query ++ marked '#' url.fragment) := by
    simp [join, front, marked, hne]
  rw [queryPart, hjoin, splitAt_append h.question_not_mem, splitAt_marked hq]

end Url

theorem pullScope_symbols (repository : String) :
    pullScope (symbols repository) = symbols ("repository:" ++ repository ++ ":pull") := by
  simp [pullScope, symbols, symbolsOf]

def queryValues (url : List Symbol) (name : String) : List (List Symbol) :=
  ((Url.readPairs (Url.queryPart url)).filter fun pair => pair.1 == symbols name).map
    fun pair => pair.2

section TokenAddress

variable {realm service scope url : List Symbol}

structure Encodable (query service scope : List Symbol) : Prop where
  service : Whole service
  scope : Whole scope
  kept : ∀ pair ∈ Url.readPairs query, ¬ isTokenParameter pair.1 = true →
    Whole pair.1 ∧ Whole pair.2

theorem encodable_pull {service : List Symbol} (h : Whole service) (repository : String) :
    Encodable [] service (pullScope (symbols repository)) := by
  rw [pullScope_symbols]
  exact ⟨h, whole_symbolsOf _, nofun⟩

theorem isSome_writePairs?_tokenPairs_iff {query : List Symbol} :
    (Url.writePairs? (tokenPairs query service scope)).isSome ↔ Encodable query service scope := by
  have hname : Whole (symbols "service") ∧ Whole (symbols "scope") :=
    ⟨whole_symbolsOf _, whole_symbolsOf _⟩
  rw [Url.isSome_writePairs?_iff, tokenPairs, List.forall_mem_append]
  constructor
  · rintro ⟨hkept, hown⟩
    simp only [List.forall_mem_cons] at hown
    refine ⟨hown.1.2, hown.2.1.2, fun pair hp hn => ?_⟩
    exact hkept pair (List.mem_filter.2 ⟨hp, by simpa using hn⟩)
  · rintro ⟨hservice, hscope, hkept⟩
    constructor
    · intro pair hp
      obtain ⟨hp, hn⟩ := List.mem_filter.1 hp
      exact hkept pair hp (by simpa using hn)
    · simpa using ⟨⟨hname.1, hservice⟩, hname.2, hscope⟩

theorem tokenUrl_eq_ok_iff :
    tokenUrl realm service scope = .ok url ↔
      ∃ parts query, Url.split? realm = some parts ∧
        Url.writePairs? (tokenPairs parts.query service scope) = some query ∧
        url = { parts with query := symbolsOf query }.join := by
  rw [tokenUrl]
  cases Url.split? realm with
  | none => simp
  | some parts =>
      cases h : Url.writePairs? (tokenPairs parts.query service scope) with
      | none => simp [h]
      | some query => simp [h, eq_comm]

theorem tokenUrl_of_encodable {parts : Url} (h : Url.split? realm = some parts)
    (he : Encodable parts.query service scope) : ∃ url, tokenUrl realm service scope = .ok url := by
  obtain ⟨query, hq⟩ := Option.isSome_iff_exists.1 (isSome_writePairs?_tokenPairs_iff.2 he)
  exact ⟨_, tokenUrl_eq_ok_iff.2 ⟨parts, query, h, hq, rfl⟩⟩

theorem tokenUrl_of_not_encodable {parts : Url} (h : Url.split? realm = some parts)
    (he : ¬ Encodable parts.query service scope) :
    tokenUrl realm service scope = .error .unencodable := by
  rw [← isSome_writePairs?_tokenPairs_iff, Option.not_isSome_iff_eq_none] at he
  rw [tokenUrl, h]
  simp only [he]

theorem readPairs_queryPart_tokenUrl (h : tokenUrl realm service scope = .ok url) :
    ∃ parts, Url.split? realm = some parts ∧
      Url.readPairs (Url.queryPart url) = tokenPairs parts.query service scope := by
  obtain ⟨parts, query, hp, hq, rfl⟩ := tokenUrl_eq_ok_iff.1 h
  have hfront : Url.PlainFront { parts with query := symbolsOf query } :=
    let hf := Url.plainFront_of_split? hp
    ⟨hf.scheme, hf.authority, hf.path⟩
  have hne : query ≠ [] := Url.writePairs?_ne_nil hq (by simp [tokenPairs])
  have hsign : char '#' ∉ symbolsOf query := fun hm =>
    Url.not_mem_of_writePairs? (by decide) (by decide) (by decide) hq (char_mem_symbolsOf.1 hm)
  refine ⟨parts, hp, ?_⟩
  rw [Url.queryPart_join hfront hsign (by simpa [symbolsOf] using hne),
    Url.readPairs_writePairs? hq]

theorem filter_tokenPairs (query service scope : List Symbol) :
    (tokenPairs query service scope).filter (fun pair => isTokenParameter pair.1) =
      [(symbols "service", service), (symbols "scope", scope)] := by
  have hnone : ∀ pair ∈ Url.readPairs query,
      ¬ (isTokenParameter pair.1 && !isTokenParameter pair.1) = true := by
    simp
  rw [tokenPairs, List.filter_append, List.filter_filter, List.filter_eq_nil_iff.2 hnone]
  rfl

theorem filter_named_tokenPairs {name : List Symbol} (h : isTokenParameter name = true)
    (query service scope : List Symbol) :
    (tokenPairs query service scope).filter (fun pair => pair.1 == name) =
      [(symbols "service", service), (symbols "scope", scope)].filter fun pair =>
        pair.1 == name := by
  rw [← filter_tokenPairs query, List.filter_filter]
  refine List.filter_congr fun pair _ => ?_
  by_cases hn : pair.1 = name
  · simp [hn, h]
  · simp [hn]

theorem queryValues_tokenUrl (h : tokenUrl realm service scope = .ok url) :
    queryValues url "service" = [service] ∧ queryValues url "scope" = [scope] := by
  obtain ⟨parts, -, hp⟩ := readPairs_queryPart_tokenUrl h
  constructor
  · rw [queryValues, hp, filter_named_tokenPairs (by decide)]
    rfl
  · rw [queryValues, hp, filter_named_tokenPairs (by decide)]
    rfl

end TokenAddress

end ImageRegistry
