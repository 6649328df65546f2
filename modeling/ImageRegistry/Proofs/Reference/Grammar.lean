import Mathlib.Data.List.Basic
import ImageRegistry.Proofs.Text.Pieces
import ImageRegistry.Proofs.Text.Stripping
import ImageRegistry.Reference.Grammar

namespace ImageRegistry

open Text

namespace Text

theorem eq_or_eq_append_withoutFinalBreak (text : List Char) :
    text = withoutFinalBreak text ∨ text = withoutFinalBreak text ++ ['\n'] := by
  unfold withoutFinalBreak
  split
  · next h => exact .inr (List.dropLast_append_getLast? '\n' h).symm
  · exact .inl rfl

theorem withoutFinalBreak_of_not_mem {text : List Char} (h : '\n' ∉ text) :
    withoutFinalBreak text = text := by
  unfold withoutFinalBreak
  exact if_neg fun hl => h (List.mem_of_getLast? hl)

theorem mem_withoutFinalBreak {text : List Char} {c : Char} (h : c ∈ text) (hc : c ≠ '\n') :
    c ∈ withoutFinalBreak text := by
  rcases eq_or_eq_append_withoutFinalBreak text with he | he
  · rwa [← he]
  · rw [he, List.mem_append, List.mem_singleton] at h
    exact h.resolve_right hc

end Text

namespace Reference

inductive Separator : List Char → Prop
  | dot : Separator ['.']
  | underscore : Separator ['_']
  | underscores : Separator ['_', '_']
  | dashes (n : Nat) : Separator (List.replicate (n + 1) '-')

structure NameRun (text : List Char) : Prop where
  ne_nil : text ≠ []
  chars : ∀ c ∈ text, isNameChar c = true

inductive Component : List Char → Prop
  | run {run : List Char} : NameRun run → Component run
  | joined {run separator rest : List Char} :
      NameRun run → Separator separator → Component rest → Component (run ++ separator ++ rest)

theorem nameRun_singleton {c : Char} (h : isNameChar c = true) : NameRun [c] :=
  ⟨List.cons_ne_nil _ _, List.forall_mem_singleton.2 h⟩

theorem NameRun.concat {run : List Char} {c : Char} (hr : NameRun run) (hc : isNameChar c = true) :
    NameRun (run ++ [c]) := by
  refine ⟨List.append_ne_nil_of_left_ne_nil hr.ne_nil _, fun x hx => ?_⟩
  rcases List.mem_append.1 hx with hx | hx
  · exact hr.chars x hx
  · rw [List.mem_singleton.1 hx]
    exact hc

namespace Stage

theorem next?_of_isNameChar (stage : Stage) {c : Char} (h : isNameChar c = true) :
    stage.next? c = some .run := by
  unfold next?
  split
  · exact absurd h (by decide)
  · exact absurd h (by decide)
  · exact absurd h (by decide)
  · exact absurd h (by decide)
  · exact absurd h (by decide)
  · exact if_pos h

theorem accepts_cons {stage next : Stage} {c : Char} (h : stage.next? c = some next)
    (text : List Char) : stage.accepts (c :: text) = next.accepts text := by
  rw [accepts, h]

theorem accepts_run_append {run : List Char} (h : ∀ c ∈ run, isNameChar c = true)
    (rest : List Char) : Stage.run.accepts (run ++ rest) = Stage.run.accepts rest := by
  induction run with
  | nil => rfl
  | cons c run ih =>
      obtain ⟨hc, hr⟩ := List.forall_mem_cons.1 h
      rw [List.cons_append, accepts_cons (next?_of_isNameChar .run hc)]
      exact ih hr

theorem accepts_nameRun_append {run : List Char} (h : NameRun run) (stage : Stage)
    (rest : List Char) : stage.accepts (run ++ rest) = Stage.run.accepts rest := by
  cases run with
  | nil => exact absurd rfl h.ne_nil
  | cons c run =>
      obtain ⟨hc, hr⟩ := List.forall_mem_cons.1 h.chars
      rw [List.cons_append, accepts_cons (next?_of_isNameChar stage hc)]
      exact accepts_run_append hr rest

theorem accepts_dashes_append (n : Nat) (rest : List Char) :
    Stage.dashes.accepts (List.replicate n '-' ++ rest) = Stage.dashes.accepts rest := by
  induction n with
  | zero => rfl
  | succ n ih => exact ih

theorem accepts_of_component {text : List Char} (h : Component text) (stage : Stage) :
    stage.accepts text = true := by
  induction h generalizing stage with
  | run hr =>
      have ha := accepts_nameRun_append hr stage []
      rw [List.append_nil] at ha
      exact ha
  | @joined run separator rest hr hs _ ih =>
      rw [List.append_assoc, accepts_nameRun_append hr]
      cases hs with
      | dot => exact ih .fresh
      | underscore => exact ih .underscore
      | underscores => exact ih .fresh
      | dashes n =>
          have hd := accepts_dashes_append n rest
          exact hd.trans (ih .dashes)

inductive Pending : Stage → List Char → Prop
  | fresh : Pending .fresh []
  | run {run : List Char} : NameRun run → Pending .run run
  | underscore {run : List Char} : NameRun run → Pending .underscore (run ++ ['_'])
  | dashes {run : List Char} (n : Nat) :
      NameRun run → Pending .dashes (run ++ List.replicate (n + 1) '-')

theorem Pending.step {stage next : Stage} {front : List Char} {c : Char}
    (hp : stage.Pending front) (hn : stage.next? c = some next) :
    next.Pending (front ++ [c]) ∨
      ∃ run separator rest, front ++ [c] = run ++ separator ++ rest ∧
        NameRun run ∧ Separator separator ∧ next.Pending rest := by
  unfold next? at hn
  split at hn
  · cases hn
    cases hp with
    | run hr => exact .inr ⟨front, ['.'], [], (List.append_nil _).symm, hr, .dot, .fresh⟩
  · cases hn
    cases hp with
    | run hr => exact .inl (.underscore hr)
  · cases hn
    cases hp with
    | run hr => exact .inl (.dashes 0 hr)
  · cases hn
    cases hp with
    | @underscore run hr =>
        have he : run ++ ['_'] ++ ['_'] = run ++ ['_', '_'] ++ [] := by simp
        exact .inr ⟨run, ['_', '_'], [], he, hr, .underscores, .fresh⟩
  · cases hn
    cases hp with
    | @dashes run n hr =>
        rw [List.append_assoc, ← List.replicate_succ']
        exact .inl (.dashes (n + 1) hr)
  · split at hn
    · next hc =>
        cases hn
        cases hp with
        | fresh => exact .inl (.run (nameRun_singleton hc))
        | run hr => exact .inl (.run (hr.concat hc))
        | @underscore run hr =>
            exact .inr ⟨run, ['_'], [c], rfl, hr, .underscore, .run (nameRun_singleton hc)⟩
        | @dashes run n hr =>
            exact .inr ⟨run, _, [c], rfl, hr, .dashes n, .run (nameRun_singleton hc)⟩
    · cases hn

theorem component_of_accepts {stage : Stage} {front text : List Char} (hp : stage.Pending front)
    (ha : stage.accepts text = true) : Component (front ++ text) := by
  induction text generalizing stage front with
  | nil =>
      cases hp with
      | run hr =>
          rw [List.append_nil]
          exact .run hr
      | fresh => cases ha
      | underscore => cases ha
      | dashes => cases ha
  | cons c text ih =>
      rw [accepts] at ha
      split at ha
      · next next hn =>
          have he : front ++ c :: text = front ++ [c] ++ text := List.append_cons front c text
          rcases hp.step hn with hp' | ⟨run, separator, rest, hf, hr, hs, hp'⟩
          · rw [he]
            exact ih hp' ha
          · rw [he, hf, List.append_assoc]
            exact .joined hr hs (ih hp' ha)
      · cases ha

end Stage

theorem accepts_iff (text : List Char) : Stage.fresh.accepts text = true ↔ Component text :=
  ⟨fun h => Stage.component_of_accepts .fresh h, fun h => Stage.accepts_of_component h .fresh⟩

instance : DecidablePred Component := fun text => decidable_of_iff _ (accepts_iff text)

theorem isComponent_iff (text : List Char) :
    isComponent text = true ↔ Component (withoutFinalBreak text) :=
  accepts_iff _

def isComponentChar (c : Char) : Bool :=
  isNameChar c || ['.', '_', '-'].contains c

theorem isComponentChar_of_separator {separator : List Char} (h : Separator separator) :
    ∀ c ∈ separator, isComponentChar c = true := by
  cases h with
  | dot => exact List.all_eq_true.1 rfl
  | underscore => exact List.all_eq_true.1 rfl
  | underscores => exact List.all_eq_true.1 rfl
  | dashes n =>
      intro c hc
      rw [List.eq_of_mem_replicate hc]
      decide

theorem isComponentChar_of_nameRun {run : List Char} (h : NameRun run) :
    ∀ c ∈ run, isComponentChar c = true := by
  intro c hc
  rw [isComponentChar, h.chars c hc]
  rfl

theorem Component.chars {text : List Char} (h : Component text) :
    ∀ c ∈ text, isComponentChar c = true := by
  induction h with
  | run hr => exact isComponentChar_of_nameRun hr
  | joined hr hs _ ih =>
      intro c hc
      rcases List.mem_append.1 hc with hc | hc
      · rcases List.mem_append.1 hc with hc | hc
        · exact isComponentChar_of_nameRun hr c hc
        · exact isComponentChar_of_separator hs c hc
      · exact ih c hc

theorem Component.ne_nil {text : List Char} (h : Component text) : text ≠ [] := by
  cases h with
  | run hr => exact hr.ne_nil
  | joined hr =>
      rw [List.append_assoc]
      exact List.append_ne_nil_of_left_ne_nil hr.ne_nil _

theorem Component.not_mem {text : List Char} {c : Char} (h : Component text)
    (hc : isComponentChar c = false) : c ∉ text :=
  fun hm => Bool.false_ne_true (hc.symm.trans (h.chars c hm))

theorem Component.isComponent {text : List Char} (h : Component text) :
    isComponent text = true := by
  rwa [isComponent_iff, withoutFinalBreak_of_not_mem (h.not_mem (by decide))]

theorem not_mem_of_isRepository {name : List Char} {c : Char} (h : isRepository name = true)
    (hc : isComponentChar c = false) (hs : c ≠ '/') (hb : c ≠ '\n') : c ∉ name := by
  intro hm
  obtain ⟨part, hp, hi⟩ := mem_pieces hm hs
  have hr : isComponent part = true := List.all_eq_true.1 h part hp
  exact ((isComponent_iff part).1 hr).not_mem hc (mem_withoutFinalBreak hi hb)

theorem isAlphanum_of_isNameChar {c : Char} (h : isNameChar c = true) : c.isAlphanum = true := by
  have ha : c.isAlphanum = (c.isUpper || c.isLower || c.isDigit) := rfl
  rw [isNameChar, Bool.or_eq_true] at h
  rcases h with h | h
  · have hl : c.isLower = true := h
    rw [ha, hl, Bool.or_true, Bool.true_or]
  · rw [ha, h, Bool.or_true]

theorem isBlank_of_isComponentChar {c : Char} (h : isComponentChar c = true) :
    isBlank c = false := by
  rw [isComponentChar, Bool.or_eq_true, List.contains_iff_mem] at h
  rcases h with h | h
  · exact isBlank_of_isWord (isWord_of_isAlphanum (isAlphanum_of_isNameChar h))
  · exact isBlank_of_any rfl c h

inductive Tag : List Char → Prop
  | text {first : Char} {rest : List Char} :
      isWord first = true → rest.length ≤ 127 → (∀ c ∈ rest, isTagChar c = true) →
        Tag (first :: rest)

theorem isTag_iff (text : List Char) : isTag text = true ↔ Tag (withoutFinalBreak text) := by
  unfold isTag
  split
  · next first rest he =>
      rw [he, Bool.and_eq_true, Bool.and_eq_true, decide_eq_true_eq, List.all_eq_true]
      constructor
      · intro h
        exact .text h.1.1 h.1.2 h.2
      · intro h
        cases h with
        | text hf hl hr => exact ⟨⟨hf, hl⟩, hr⟩
  · next he =>
      rw [he]
      constructor
      · intro h
        cases h
      · intro h
        cases h

theorem Tag.chars {text : List Char} (h : Tag text) : ∀ c ∈ text, isTagChar c = true := by
  cases h with
  | text hf _ hr =>
      refine List.forall_mem_cons.2 ⟨?_, hr⟩
      rw [isTagChar, hf]
      rfl

theorem Tag.not_mem {text : List Char} {c : Char} (h : Tag text) (hc : isTagChar c = false) :
    c ∉ text :=
  fun hm => Bool.false_ne_true (hc.symm.trans (h.chars c hm))

theorem Tag.isTag {text : List Char} (h : Tag text) : isTag text = true := by
  rwa [isTag_iff, withoutFinalBreak_of_not_mem (h.not_mem (by decide))]

theorem not_mem_of_isTag {text : List Char} {c : Char} (h : isTag text = true)
    (hc : isTagChar c = false) (hb : c ≠ '\n') : c ∉ text := by
  intro hm
  exact ((isTag_iff text).1 h).not_mem hc (mem_withoutFinalBreak hm hb)

theorem ne_nil_of_isTag {text : List Char} (h : isTag text = true) : text ≠ [] := by
  rintro rfl
  exact absurd h (by decide)

theorem isBlank_of_isTagChar {c : Char} (h : isTagChar c = true) : isBlank c = false := by
  rw [isTagChar, Bool.or_eq_true, Bool.or_eq_true] at h
  rcases h with (h | h) | h
  · exact isBlank_of_isWord h
  · rw [beq_iff_eq.1 h]
    decide
  · rw [beq_iff_eq.1 h]
    decide

end Reference

end ImageRegistry
