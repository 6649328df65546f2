import Mathlib.Data.Bool.AllAny
import Mathlib.Data.List.TakeWhile
import ImageRegistry.Text.Word
import ImageRegistry.Url.Basic

namespace ImageRegistry.Url

open Text
open Text.Symbol (char)

def isKept (symbol : Symbol) : Bool :=
  !symbol.is isDropped

theorem isKept_char_iff (c : Char) : isKept (char c) = true ↔ c ∉ ['\t', '\r', '\n'] := by
  simp [isKept, Symbol.is, isDropped, and_assoc]

theorem isKept_of_ne {symbol : Symbol} (h : ∀ c ∈ ['\t', '\r', '\n'], symbol ≠ char c) :
    isKept symbol = true := by
  cases symbol with
  | char c => exact (isKept_char_iff c).2 fun hc => h c hc rfl
  | half code => rfl

theorem isKept_of_isSchemeChar {c : Char} (h : isSchemeChar c = true) :
    isKept (char c) = true := by
  have hchars : ∀ m ∈ ['\t', '\r', '\n'], isSchemeChar m = false :=
    List.all_iff_forall_prop.1 (by decide)
  rw [isKept_char_iff]
  intro hm
  exact Bool.false_ne_true ((hchars c hm).symm.trans h)

theorem isSchemeChar_of_isScheme {scheme : List Char} (h : isScheme scheme = true) :
    ∀ c ∈ scheme, isSchemeChar c = true := by
  cases scheme with
  | nil => cases h
  | cons c rest =>
      rw [isScheme, Bool.and_eq_true, List.all_eq_true] at h
      refine List.forall_mem_cons.2 ⟨?_, h.2⟩
      simp [isSchemeChar, Char.isAlphanum, h.1]

theorem toNat_of_isAlpha {c : Char} (h : c.isAlpha = true) : ¬ c.toNat ≤ 0x20 := by
  delta Char.isAlpha Char.isUpper Char.isLower at h
  simp only [Bool.or_eq_true, Bool.and_eq_true, decide_eq_true_eq, UInt32.le_iff_toNat_le] at h
  have hc : c.toNat = c.val.toNat := rfl
  simp at h
  omega

theorem clean_cons {c : Char} (h : ¬ c.toNat ≤ 0x20) (text : List Symbol) :
    clean (char c :: text) = (char c :: text).filter isKept := by
  rw [clean, List.dropWhile_cons_of_neg (by simpa [Symbol.is, isLeading] using h)]
  rfl

structure SmallScheme (scheme : List Char) : Prop where
  isScheme : isScheme scheme = true
  small : scheme.map Char.toLower = scheme

theorem SmallScheme.chars {scheme : List Char} (h : SmallScheme scheme) :
    ∀ c ∈ scheme, isSchemeChar c = true :=
  isSchemeChar_of_isScheme h.isScheme

theorem smallScheme_web {scheme : String} (h : scheme = "https" ∨ scheme = "http") :
    SmallScheme scheme.toList := by
  rcases h with rfl | rfl
  · exact ⟨by decide, by decide⟩
  · exact ⟨by decide, by decide⟩

theorem splitScheme_append {scheme : List Char} (h : SmallScheme scheme) (rest : List Symbol) :
    splitScheme (symbolsOf scheme ++ char ':' :: rest) = (scheme, rest) := by
  have hc : char ':' ∉ symbolsOf scheme := fun hm =>
    absurd (h.chars ':' (char_mem_symbolsOf.1 hm)) (by decide)
  rw [splitScheme, cutFirst_append rest hc]
  simp [h.isScheme, h.small]

theorem clean_append {scheme : List Char} (h : SmallScheme scheme) (rest : List Symbol) :
    clean (symbolsOf scheme ++ rest) = symbolsOf scheme ++ rest.filter isKept := by
  have hs := h.isScheme
  have hf : (symbolsOf scheme).filter isKept = symbolsOf scheme := by
    refine List.filter_eq_self.2 fun symbol hm => ?_
    obtain ⟨c, hc, rfl⟩ := exists_char_of_mem_symbolsOf hm
    exact isKept_of_isSchemeChar (h.chars c hc)
  cases scheme with
  | nil => cases hs
  | cons c tail =>
      rw [Url.isScheme, Bool.and_eq_true] at hs
      have hc : symbolsOf (c :: tail) = char c :: symbolsOf tail := rfl
      rw [hc, List.cons_append, clean_cons (toNat_of_isAlpha hs.1), ← List.cons_append, ← hc,
        List.filter_append, hf]

def splitBody? (scheme : List Char) (body : List Symbol) : Option Url :=
  let rest := splitAt '#' (body.dropWhile fun symbol => !symbol.is endsAuthority)
  let path := splitAt '?' rest.1
  let authority := body.takeWhile fun symbol => !symbol.is endsAuthority
  if isAuthority (charsOf authority) then some ⟨scheme, authority, path.1, path.2, rest.2⟩ else none

theorem split?_append {scheme : List Char} (h : SmallScheme scheme) (body : List Symbol) :
    split? (symbolsOf scheme ++ symbols "://" ++ body) =
      splitBody? scheme (body.filter isKept) := by
  have hc : clean (symbolsOf scheme ++ symbols "://" ++ body) =
      symbolsOf scheme ++ char ':' :: char '/' :: char '/' :: body.filter isKept := by
    rw [List.append_assoc, clean_append h, List.filter_append]
    rfl
  rw [split?, hc, splitScheme_append h]
  rfl

theorem splitAt_of_not_mem {c : Char} {text : List Symbol} (h : char c ∉ text) :
    splitAt c text = (text, []) := by
  rw [splitAt, cutFirst_eq_none_iff.2 h]
  rfl

theorem not_mem_splitAt (c : Char) (text : List Symbol) : char c ∉ (splitAt c text).1 := by
  rw [splitAt]
  cases h : cutFirst (char c) text with
  | none => exact cutFirst_eq_none_iff.1 h
  | some parts => exact (eq_of_cutFirst h).2

theorem splitAt_subset (c : Char) (text : List Symbol) : (splitAt c text).1 ⊆ text := by
  rw [splitAt]
  cases h : cutFirst (char c) text with
  | none => exact List.Subset.refl text
  | some parts =>
      rw [(eq_of_cutFirst h).1]
      exact List.subset_append_left _ _

structure Authority (text : List Symbol) : Prop where
  chars : ∀ c ∈ ['\t', '\r', '\n', '/', '?', '#'], char c ∉ text
  isAuthority : isAuthority (charsOf text) = true

def isHostChar (c : Char) : Bool :=
  c.isAlphanum || ['.', '-', '_', ':'].contains c

theorem toNat_lt_of_isHostChar {c : Char} (h : isHostChar c = true) : c.toNat < 0x80 := by
  have hmarks : ∀ m ∈ ['.', '-', '_', ':'], m.toNat < 0x80 := List.all_iff_forall_prop.1 (by decide)
  rw [isHostChar, Bool.or_eq_true, List.contains_iff_mem] at h
  rcases h with h | h
  · exact toNat_lt_of_isAlphanum h
  · exact hmarks c h

theorem isAuthority_of_isHostChar {text : List Char} (h : ∀ c ∈ text, isHostChar c = true) :
    isAuthority text = true := by
  have hopen : '[' ∉ text := fun hm => absurd (h _ hm) (by decide)
  have hclose : ']' ∉ text := fun hm => absurd (h _ hm) (by decide)
  have hwide : ∀ n ∈ unfolding, 0x80 ≤ n := by decide
  have hu : ∀ c ∈ text, c.toNat ∉ unfolding := fun c hc hm => by
    have hl := toNat_lt_of_isHostChar (h c hc)
    have hg := hwide _ hm
    omega
  simpa [isAuthority, hopen, hclose] using hu

theorem authority_of_isHostChar {text : List Char} (h : ∀ c ∈ text, isHostChar c = true) :
    Authority (symbolsOf text) := by
  have hchars : ∀ c ∈ ['\t', '\r', '\n', '/', '?', '#'], isHostChar c = false :=
    List.all_iff_forall_prop.1 (by decide)
  refine ⟨fun c hm hc => ?_, by rw [charsOf_symbolsOf]; exact isAuthority_of_isHostChar h⟩
  exact Bool.false_ne_true ((hchars c hm).symm.trans (h c (char_mem_symbolsOf.1 hc)))

def Path (text : List Symbol) : Prop :=
  ∀ c ∈ ['\t', '\r', '\n', '?', '#'], char c ∉ text

theorem path_append {a b : List Symbol} : Path (a ++ b) ↔ Path a ∧ Path b := by
  constructor
  · intro h
    exact ⟨fun c hm hc => h c hm (List.mem_append_left _ hc),
      fun c hm hc => h c hm (List.mem_append_right _ hc)⟩
  · rintro ⟨ha, hb⟩ c hm hc
    rcases List.mem_append.1 hc with hc | hc
    · exact ha c hm hc
    · exact hb c hm hc

theorem isKept_of_not_mem {text : List Symbol} (h : ∀ c ∈ ['\t', '\r', '\n'], char c ∉ text) :
    ∀ symbol ∈ text, isKept symbol = true :=
  fun _ hm => isKept_of_ne fun c hc he => h c hc (he ▸ hm)

theorem not_mem_of_isKept {text part : List Symbol} (h : ∀ symbol ∈ text, isKept symbol = true)
    (hp : part ⊆ text) : ∀ c ∈ ['\t', '\r', '\n'], char c ∉ part :=
  fun c hm hc => (isKept_char_iff c).1 (h (char c) (hp hc)) hm

theorem endsAuthority_iff (c : Char) : endsAuthority c = true ↔ c ∈ ['/', '?', '#'] := by
  simp [endsAuthority, or_assoc]

theorem Authority.kept {text : List Symbol} (h : Authority text) :
    ∀ symbol ∈ text, isKept symbol = true :=
  isKept_of_not_mem fun c hc => h.chars c (List.mem_append_left ['/', '?', '#'] hc)

theorem Authority.inside {text : List Symbol} (h : Authority text) :
    ∀ symbol ∈ text, (!symbol.is endsAuthority) = true := by
  intro symbol hm
  cases symbol with
  | char c =>
      rw [Bool.not_eq_true', ← Bool.not_eq_true, Symbol.is, endsAuthority_iff]
      exact fun hc => h.chars c (List.mem_append_right ['\t', '\r', '\n'] hc) hm
  | half code => rfl

theorem Path.kept {text : List Symbol} (h : Path text) : ∀ symbol ∈ text, isKept symbol = true :=
  isKept_of_not_mem fun c hc => h c (List.mem_append_left ['?', '#'] hc)

theorem splitBody?_of_parts {scheme : List Char} {authority path : List Symbol}
    (ha : Authority authority) (hp : Path path) :
    splitBody? scheme ((authority ++ char '/' :: path).filter isKept) =
      some ⟨scheme, authority, char '/' :: path, [], []⟩ := by
  have hkept : (authority ++ char '/' :: path).filter isKept = authority ++ char '/' :: path := by
    refine List.filter_eq_self.2 (List.forall_mem_append.2 ⟨ha.kept, ?_⟩)
    exact List.forall_mem_cons.2 ⟨by decide, hp.kept⟩
  have hfragment : char '#' ∉ char '/' :: path := by simpa using hp '#' (by decide)
  have hquery : char '?' ∉ char '/' :: path := by simpa using hp '?' (by decide)
  have htake : (authority ++ char '/' :: path).takeWhile (fun symbol => !symbol.is endsAuthority) =
      authority := by
    rw [List.takeWhile_append_of_pos ha.inside, List.takeWhile_cons_of_neg (by decide),
      List.append_nil]
  have hdrop : (authority ++ char '/' :: path).dropWhile (fun symbol => !symbol.is endsAuthority) =
      char '/' :: path := by
    rw [List.dropWhile_append_of_pos ha.inside, List.dropWhile_cons_of_neg (by decide)]
  rw [hkept, splitBody?, htake, hdrop, splitAt_of_not_mem hfragment]
  simp only [splitAt_of_not_mem hquery, ha.isAuthority, if_true]

theorem authority_takeWhile {body : List Symbol} (hk : ∀ symbol ∈ body, isKept symbol = true)
    (ha : isAuthority (charsOf (body.takeWhile fun symbol => !symbol.is endsAuthority)) = true) :
    Authority (body.takeWhile fun symbol => !symbol.is endsAuthority) := by
  have ht := not_mem_of_isKept hk
    (List.takeWhile_sublist (l := body) fun symbol => !symbol.is endsAuthority).subset
  have he : ∀ c ∈ ['/', '?', '#'],
      char c ∉ body.takeWhile fun symbol => !symbol.is endsAuthority := by
    intro c hm hc
    have hi := List.mem_takeWhile_imp (p := fun symbol => !Symbol.is endsAuthority symbol) hc
    simp [Symbol.is, (endsAuthority_iff c).2 hm] at hi
  exact ⟨List.forall_mem_append.2 ⟨ht, he⟩, ha⟩

theorem path_splitAt {rest : List Symbol} (hk : ∀ symbol ∈ rest, isKept symbol = true) :
    Path (splitAt '?' (splitAt '#' rest).1).1 := by
  have hsub := splitAt_subset '?' (splitAt '#' rest).1
  have ht := not_mem_of_isKept hk (List.Subset.trans hsub (splitAt_subset '#' rest))
  have hq : char '?' ∉ (splitAt '?' (splitAt '#' rest).1).1 := not_mem_splitAt _ _
  have hf : char '#' ∉ (splitAt '?' (splitAt '#' rest).1).1 := fun hc =>
    not_mem_splitAt '#' rest (hsub hc)
  exact List.forall_mem_append.2 ⟨ht, by simpa using ⟨hq, hf⟩⟩

theorem parts_of_splitBody? {scheme : List Char} {body : List Symbol} {url : Url}
    (hk : ∀ symbol ∈ body, isKept symbol = true) (h : splitBody? scheme body = some url) :
    Authority url.authority ∧ Path url.path := by
  rw [splitBody?] at h
  split at h
  · next ha =>
      cases h
      refine ⟨authority_takeWhile hk ha, path_splitAt fun symbol hm => hk symbol ?_⟩
      exact (List.dropWhile_sublist _).subset hm
  · cases h

theorem split?_parts_iff {scheme : List Char} {authority path : List Symbol}
    (h : SmallScheme scheme) :
    split? (symbolsOf scheme ++ symbols "://" ++ (authority ++ char '/' :: path)) =
        some ⟨scheme, authority, char '/' :: path, [], []⟩ ↔
      Authority authority ∧ Path path := by
  rw [split?_append h]
  constructor
  -- Whatever the parts are that come back, they are an authority and a path; here they are the
  -- parts that were put in.
  · intro hs
    obtain ⟨ha, hp⟩ := parts_of_splitBody? (fun _ hm => (List.mem_filter.1 hm).2) hs
    exact ⟨ha, fun c hm hc => hp c hm (List.mem_cons_of_mem _ hc)⟩
  · rintro ⟨ha, hp⟩
    exact splitBody?_of_parts ha hp

end ImageRegistry.Url
