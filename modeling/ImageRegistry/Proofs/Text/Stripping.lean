import Mathlib.Data.List.Basic
import Mathlib.Data.List.TakeWhile
import ImageRegistry.Text.Blank
import ImageRegistry.Text.Word

namespace ImageRegistry.Text

def Ranges.codes (ranges : Ranges) : List Nat :=
  ranges.flatMap fun range => List.range' range.1 (range.2 + 1 - range.1)

theorem Ranges.mem_codes {ranges : Ranges} {code : Nat} (h : ranges.contains code = true) :
    code ∈ ranges.codes := by
  obtain ⟨range, hm, hl, hu⟩ := Ranges.contains_iff.1 h
  refine List.mem_flatMap.2 ⟨range, hm, List.mem_range'_1.2 ⟨hl, ?_⟩⟩
  omega

theorem isWord_of_isBlank {c : Char} (h : isBlank c = true) : isWord c = false := by
  have hcodes : ∀ code ∈ blankRanges.codes, isWord (Char.ofNat code) = false := by decide +kernel
  rw [← Char.ofNat_toNat c]
  exact hcodes c.toNat (Ranges.mem_codes h)

theorem isBlank_of_isWord {c : Char} (h : isWord c = true) : isBlank c = false := by
  by_contra hb
  have hn := isWord_of_isBlank (eq_true_of_ne_false hb)
  exact Bool.false_ne_true (hn.symm.trans h)

theorem isBlank_of_any {text : List Char} (h : text.any isBlank = false) :
    ∀ c ∈ text, isBlank c = false :=
  fun c hc => Bool.eq_false_iff.2 (List.any_eq_false.1 h c hc)

theorem isBlank_of_strip {text : List Char} (h : strip text = []) :
    ∀ c ∈ text, isBlank c = true := by
  rw [strip, stripEnd, List.reverse_eq_nil_iff, List.dropWhile_eq_nil_iff] at h
  intro c hc
  rw [← List.takeWhile_append_dropWhile (p := isBlank) (l := text), List.mem_append] at hc
  rcases hc with hc | hc
  · exact List.mem_takeWhile_imp hc
  · exact h c (List.mem_reverse.2 hc)

def Trimmed (text : List Char) : Prop :=
  (∀ c ∈ text.head?, isBlank c = false) ∧ ∀ c ∈ text.getLast?, isBlank c = false

theorem dropWhile_isBlank {text : List Char} (h : ∀ c ∈ text.head?, isBlank c = false) :
    text.dropWhile isBlank = text := by
  cases text with
  | nil => rfl
  | cons c text => exact List.dropWhile_cons_of_neg (Bool.eq_false_iff.1 (h c rfl))

theorem isBlank_head?_dropWhile (text : List Char) :
    ∀ c ∈ (text.dropWhile isBlank).head?, isBlank c = false := by
  intro c hc
  have hn := List.head?_dropWhile_not isBlank text
  rw [Option.mem_def.1 hc] at hn
  exact hn

theorem stripEnd_prefix (text : List Char) : stripEnd text <+: text := by
  have hs := List.dropWhile_suffix (l := text.reverse) isBlank
  have hp := List.reverse_prefix.2 hs
  rwa [List.reverse_reverse] at hp

theorem trimmed_strip (text : List Char) : Trimmed (strip text) := by
  refine ⟨?_, ?_⟩
  · intro c hc
    obtain ⟨rest, hr⟩ := stripEnd_prefix (stripStart text)
    have hh : (stripStart text).head? = some c := by
      rw [← hr, List.head?_append, ← strip, Option.mem_def.1 hc, Option.some_or]
    exact isBlank_head?_dropWhile text c hh
  · rw [strip, stripEnd, List.getLast?_reverse]
    exact isBlank_head?_dropWhile _

theorem strip_of_blank {text : List Char} (h : ∀ c ∈ text, isBlank c = true) :
    strip text = [] := by
  rw [strip, stripStart, List.dropWhile_eq_nil_iff.2 h]
  rfl

theorem stripEnd_append {text after : List Char} (ht : Trimmed text)
    (ha : ∀ c ∈ after, isBlank c = true) : stripEnd (text ++ after) = text := by
  have hr : ∀ c ∈ after.reverse, isBlank c = true := fun c hc => ha c (List.mem_reverse.1 hc)
  have hh : ∀ c ∈ text.reverse.head?, isBlank c = false := by
    rw [List.head?_reverse]
    exact ht.2
  rw [stripEnd, List.reverse_append, List.dropWhile_append_of_pos hr, dropWhile_isBlank hh,
    List.reverse_reverse]

theorem strip_within {before text after : List Char} (ht : Trimmed text)
    (hb : ∀ c ∈ before, isBlank c = true) (ha : ∀ c ∈ after, isBlank c = true) :
    strip (before ++ (text ++ after)) = text := by
  cases text with
  | nil =>
      refine strip_of_blank fun c hc => ?_
      rcases List.mem_append.1 hc with hc | hc
      · exact hb c hc
      · exact ha c hc
  | cons c text =>
      have hh : ∀ x ∈ (c :: text ++ after).head?, isBlank x = false := ht.1
      rw [strip, stripStart, List.dropWhile_append_of_pos hb, dropWhile_isBlank hh,
        stripEnd_append ht ha]

theorem Trimmed.strip {text : List Char} (h : Trimmed text) : strip text = text := by
  have hn : ∀ c ∈ ([] : List Char), isBlank c = true := fun c hc => nomatch hc
  have hw := strip_within h hn hn
  rwa [List.append_nil] at hw

end ImageRegistry.Text
