import ImageRegistry.Challenge.Registration
import ImageRegistry.Proofs.Challenge.Outcome
import ImageRegistry.Proofs.Challenge.Table

namespace ImageRegistry

open Text Challenge

namespace Challenge.Decoders

variable {α : Type} (decoders : Decoders α)

theorem find?_register (scheme : List Symbol) (decoder : Decoder α) (key : List Symbol) :
    (decoders.register scheme decoder).find? key =
      if key = foldCase scheme then some decoder else decoders.find? key := by
  rw [find?, register, lookup_putPair]
  exact if_congr beq_iff_eq rfl rfl

theorem schemes_register (scheme : List Symbol) (decoder : Decoder α) :
    (decoders.register scheme decoder).schemes =
      decoders.schemes ++
        if foldCase scheme ∈ decoders.schemes then []
        else [foldCase scheme] := by
  rw [schemes, register, keys_putPair, schemes]
  refine congrArg _ (if_congr ?_ rfl rfl)
  rw [List.any_eq_true, List.mem_map]
  exact exists_congr fun pair => and_congr_right fun _ => beq_iff_eq

theorem find?_eq_none_iff {key : List Symbol} :
    decoders.find? key = none ↔ key ∉ decoders.schemes := by
  rw [find?, List.lookup_eq_none_iff, schemes, List.mem_map, not_exists]
  simp only [bne_iff_ne, not_and]
  exact forall₂_congr fun pair _ => ne_comm

theorem read_eq_ok_iff {header : List Symbol} {challenges : List α} :
    decoders.read (some header) = .ok challenges ↔
      ∃ tokens, readHeader header = .ok tokens ∧ decoders.decode tokens = challenges := by
  constructor
  · intro h
    by_cases hb : ∀ symbol ∈ header, symbol.is isBlank = true
    · rw [decoders.read_blank hb] at h
      cases h
      exact ⟨[], readHeader_blank hb, rfl⟩
    · rw [decoders.read_of_not_blank hb] at h
      cases hr : readHeader header with
      | ok tokens =>
          rw [hr] at h
          cases h
          exact ⟨tokens, rfl, rfl⟩
      | error fault =>
          rw [hr] at h
          cases fault <;> cases h
  · rintro ⟨tokens, hr, rfl⟩
    exact decoders.read_of_readHeader hr

end Challenge.Decoders

def Registration.key (registration : Registration) : List Symbol :=
  foldCase registration.scheme

namespace DecodedChallenge

structure Latest (registrations : List Registration) (key : List Symbol) (number : Nat)
    (registration : Registration) : Prop where
  placed : registrations[number]? = some registration
  named : registration.key = key
  last : ∀ later other, number < later → registrations[later]? = some other → other.key ≠ key

inductive InForce (registrations : List Registration) :
    List Symbol → Decoder DecodedChallenge → Prop
  | latest {key : List Symbol} {number : Nat} {registration : Registration} :
      Latest registrations key number registration →
        InForce registrations key (registration.decoder number)
  | bearer :
      (∀ registration ∈ registrations, registration.key ≠ symbols "bearer") →
        InForce registrations (symbols "bearer") fun raw => (Bearer.ofRaw raw).map .bearer

theorem Latest.unique {registrations : List Registration} {key : List Symbol} {number number' : Nat}
    {registration registration' : Registration} (h : Latest registrations key number registration)
    (h' : Latest registrations key number' registration') :
    number = number' ∧ registration = registration' := by
  rcases Nat.lt_trichotomy number number' with hlt | rfl | hlt
  · exact absurd h'.named (h.last _ _ hlt h'.placed)
  · exact ⟨rfl, Option.some.inj (h.placed.symm.trans h'.placed)⟩
  · exact absurd h.named (h'.last _ _ hlt h.placed)

section Concat

variable {registrations : List Registration} {registration : Registration}

theorem registered_concat :
    registered (registrations ++ [registration]) =
      (registered registrations).register registration.scheme
        (registration.decoder registrations.length) := by
  rw [registered, List.zipIdx_append, List.foldl_append, ← registered]
  simp

theorem latest_concat_self :
    Latest (registrations ++ [registration]) registration.key registrations.length
      registration where
  placed := List.getElem?_concat_length
  named := rfl
  last later other hl ho := by
    have hlt := (List.getElem?_eq_some_iff.1 ho).1
    rw [List.length_append, List.length_singleton] at hlt
    omega

theorem placed_concat_iff {other : Registration} (hk : registration.key ≠ other.key) (place : Nat) :
    (registrations ++ [registration])[place]? = some other ↔
      registrations[place]? = some other := by
  by_cases hp : place < registrations.length
  · rw [List.getElem?_append_left hp]
  · have hout : registrations[place]? = none := List.getElem?_eq_none (Nat.le_of_not_lt hp)
    rw [hout, List.getElem?_append_right (Nat.le_of_not_lt hp), List.getElem?_singleton]
    constructor
    · intro h
      split at h
      · exact absurd (congrArg Registration.key (Option.some.inj h)) hk
      · cases h
    · intro h
      cases h

theorem latest_concat_iff {key : List Symbol} (hk : registration.key ≠ key) {number : Nat}
    {other : Registration} :
    Latest (registrations ++ [registration]) key number other ↔
      Latest registrations key number other := by
  constructor
  · rintro ⟨hp, rfl, hl⟩
    refine ⟨(placed_concat_iff hk number).1 hp, rfl, fun later next hlt hn he => ?_⟩
    exact hl later next hlt ((placed_concat_iff (he ▸ hk) later).2 hn) he
  · rintro ⟨hp, rfl, hl⟩
    refine ⟨(placed_concat_iff hk number).2 hp, rfl, fun later next hlt hn he => ?_⟩
    exact hl later next hlt ((placed_concat_iff (he ▸ hk) later).1 hn) he

theorem inForce_concat_self_iff {decoder : Decoder DecodedChallenge} :
    InForce (registrations ++ [registration]) registration.key decoder ↔
      decoder = registration.decoder registrations.length := by
  constructor
  · intro h
    generalize hk : registration.key = key at h
    cases h with
    | latest hl =>
        obtain ⟨rfl, rfl⟩ := hl.unique (hk ▸ latest_concat_self)
        rfl
    | bearer hn => exact absurd hk (hn registration (by simp))
  · rintro rfl
    exact .latest latest_concat_self

theorem inForce_concat_iff {key : List Symbol} (hk : registration.key ≠ key)
    {decoder : Decoder DecodedChallenge} :
    InForce (registrations ++ [registration]) key decoder ↔ InForce registrations key decoder := by
  constructor
  · intro h
    cases h with
    | latest hl => exact .latest ((latest_concat_iff hk).1 hl)
    | bearer hn => exact .bearer fun other hm => hn other (List.mem_append_left _ hm)
  · intro h
    cases h with
    | latest hl => exact .latest ((latest_concat_iff hk).2 hl)
    | bearer hn =>
        refine .bearer fun other hm => ?_
        rcases List.mem_append.1 hm with hm | hm
        · exact hn other hm
        · rwa [List.mem_singleton.1 hm]

end Concat

theorem inForce_nil_iff {key : List Symbol} {decoder : Decoder DecodedChallenge} :
    InForce [] key decoder ↔
      key = symbols "bearer" ∧ decoder = fun raw => (Bearer.ofRaw raw).map .bearer := by
  constructor
  · intro h
    cases h with
    | latest hl => cases hl.placed
    | bearer _ => exact ⟨rfl, rfl⟩
  · rintro ⟨rfl, rfl⟩
    exact .bearer fun registration hm => nomatch hm

theorem find?_registered_nil (key : List Symbol) :
    (registered []).find? key =
      if key = symbols "bearer" then some fun raw => (Bearer.ofRaw raw).map .bearer else none := by
  rw [Decoders.find?, registered, List.zipIdx_nil, List.foldl_nil, decoders, List.lookup_cons]
  cases hk : key == symbols "bearer" with
  | true => exact (if_pos (eq_of_beq hk)).symm
  | false => exact (if_neg (beq_eq_false_iff_ne.1 hk)).symm

-- By the registrations from the last one on: the last is in force for its name, and for every other
-- name what was in force before it.
theorem find?_registered_iff {registrations : List Registration} {key : List Symbol}
    {decoder : Decoder DecodedChallenge} :
    (registered registrations).find? key = some decoder ↔ InForce registrations key decoder := by
  induction registrations using List.reverseRecOn with
  | nil =>
      rw [find?_registered_nil, inForce_nil_iff]
      by_cases hk : key = symbols "bearer" <;> simp [hk, eq_comm]
  | append_singleton registrations registration ih =>
      rw [registered_concat, Decoders.find?_register, ← Registration.key]
      by_cases hk : key = registration.key
      · rw [if_pos hk, hk, inForce_concat_self_iff, Option.some.injEq, eq_comm]
      · rw [if_neg hk, ih, inForce_concat_iff (Ne.symm hk)]

theorem eraseDups_concat {α : Type} [BEq α] [LawfulBEq α] (as : List α) (a : α) :
    (as ++ [a]).eraseDups = as.eraseDups ++ if a ∈ as.eraseDups then [] else [a] := by
  rw [List.eraseDups_append]
  by_cases h : a ∈ as <;> simp [List.removeAll, List.eraseDups_cons, h]

theorem schemes_registered (registrations : List Registration) :
    (registered registrations).schemes =
      (symbols "bearer" :: registrations.map Registration.key).eraseDups := by
  induction registrations using List.reverseRecOn with
  | nil => rfl
  | append_singleton registrations registration ih =>
      rw [registered_concat, Decoders.schemes_register, ih, ← Registration.key, List.map_append,
        ← List.cons_append, List.map_singleton, eraseDups_concat]

inductive Dispatched (registrations : List Registration) :
    List (List Symbol × Raw) → List DecodedChallenge → Prop
  | nil : Dispatched registrations [] []
  | decoded {key : List Symbol} {raw : Raw} {decoder : Decoder DecodedChallenge}
      {challenge : DecodedChallenge} {tokens : List (List Symbol × Raw)}
      {challenges : List DecodedChallenge} :
      InForce registrations key decoder → decoder raw = some challenge →
        Dispatched registrations tokens challenges →
          Dispatched registrations ((key, raw) :: tokens) (challenge :: challenges)
  | refused {key : List Symbol} {raw : Raw} {decoder : Decoder DecodedChallenge}
      {tokens : List (List Symbol × Raw)} {challenges : List DecodedChallenge} :
      InForce registrations key decoder → decoder raw = none →
        Dispatched registrations tokens challenges →
          Dispatched registrations ((key, raw) :: tokens) challenges
  | unregistered {key : List Symbol} {raw : Raw} {tokens : List (List Symbol × Raw)}
      {challenges : List DecodedChallenge} :
      key ∉ symbols "bearer" :: registrations.map Registration.key →
        Dispatched registrations tokens challenges →
          Dispatched registrations ((key, raw) :: tokens) challenges

theorem find?_eq_none_iff_unregistered {registrations : List Registration} {key : List Symbol} :
    (registered registrations).find? key = none ↔
      key ∉ symbols "bearer" :: registrations.map Registration.key := by
  rw [Decoders.find?_eq_none_iff, schemes_registered, List.mem_eraseDups]

theorem dispatched_decode (registrations : List Registration) (tokens : List (List Symbol × Raw)) :
    Dispatched registrations tokens ((registered registrations).decode tokens) := by
  induction tokens with
  | nil => exact .nil
  | cons token tokens ih =>
      obtain ⟨key, raw⟩ := token
      rw [Decoders.decode, List.filterMap_cons, ← Decoders.decode]
      cases hf : (registered registrations).find? key with
      | none => exact .unregistered (find?_eq_none_iff_unregistered.1 hf) ih
      | some decoder =>
          have hd := find?_registered_iff.1 hf
          cases hr : decoder raw with
          | none => simpa [hr] using Dispatched.refused hd hr ih
          | some challenge => simpa [hr] using Dispatched.decoded hd hr ih

theorem Dispatched.eq_decode {registrations : List Registration} {tokens : List (List Symbol × Raw)}
    {challenges : List DecodedChallenge} (h : Dispatched registrations tokens challenges) :
    challenges = (registered registrations).decode tokens := by
  induction h with
  | nil => rfl
  | decoded hf hr _ ih => simp [Decoders.decode, find?_registered_iff.2 hf, hr, ih]
  | refused hf hr _ ih => simp [Decoders.decode, find?_registered_iff.2 hf, hr, ih]
  | unregistered hk _ ih => simp [Decoders.decode, find?_eq_none_iff_unregistered.2 hk, ih]

theorem dispatched_iff {registrations : List Registration} {tokens : List (List Symbol × Raw)}
    {challenges : List DecodedChallenge} :
    Dispatched registrations tokens challenges ↔
      challenges = (registered registrations).decode tokens :=
  ⟨Dispatched.eq_decode, fun h => h ▸ dispatched_decode registrations tokens⟩

def isBearer : DecodedChallenge → Bool
  | .bearer _ => true
  | .echo _ => false

section Find

variable {registrations : List Registration} {tokens : List (List Symbol × Raw)}

theorem mem_decode_iff {challenge : DecodedChallenge} :
    challenge ∈ (registered registrations).decode tokens ↔
      ∃ key raw decoder, (key, raw) ∈ tokens ∧ InForce registrations key decoder ∧
        decoder raw = some challenge := by
  simp only [Decoders.decode, List.mem_filterMap, Prod.exists, Option.bind_eq_some_iff,
    find?_registered_iff]
  refine exists_congr fun key => exists_congr fun raw => ?_
  rw [exists_and_left]

theorem registration_of_decoder {registration : Registration} {number : Nat} {raw : Raw}
    {challenge : DecodedChallenge} (h : registration.decoder number raw = some challenge) :
    ∃ echo : Echo, challenge = .echo echo ∧ echo.registration = number := by
  unfold Registration.decoder at h
  split at h
  · cases h
  · cases h
    exact ⟨_, rfl, rfl⟩

theorem isSome_firstOf?_iff {number : Nat} {registration : Registration}
    (hp : registrations[number]? = some registration) :
    (firstOf? number ((registered registrations).decode tokens)).isSome = true ↔
      Latest registrations registration.key number registration ∧
        ∃ raw, (registration.key, raw) ∈ tokens ∧ registration.decoder number raw ≠ none := by
  rw [firstOf?, List.find?_isSome]
  constructor
  · rintro ⟨challenge, hm, ho⟩
    obtain ⟨key, raw, decoder, ht, hf, hd⟩ := mem_decode_iff.1 hm
    cases hf with
    | latest hl =>
        obtain ⟨echo, rfl, rfl⟩ := registration_of_decoder hd
        have hn : echo.registration = number := eq_of_beq ho
        subst hn
        obtain rfl := Option.some.inj (hl.placed.symm.trans hp)
        obtain rfl := hl.named
        exact ⟨hl, raw, ht, by simp [hd]⟩
    | bearer _ =>
        obtain ⟨bearer, -, rfl⟩ := Option.map_eq_some_iff.1 hd
        cases ho
  · rintro ⟨hl, raw, ht, hd⟩
    obtain ⟨challenge, hc⟩ := Option.ne_none_iff_exists'.1 hd
    refine ⟨challenge, mem_decode_iff.2 ⟨_, raw, _, ht, .latest hl, hc⟩, ?_⟩
    obtain ⟨echo, rfl, he⟩ := registration_of_decoder hc
    exact beq_iff_eq.2 he

theorem isSome_find?_isBearer_iff :
    (((registered registrations).decode tokens).find? isBearer).isSome = true ↔
      (∀ registration ∈ registrations, registration.key ≠ symbols "bearer") ∧
        ∃ raw, (symbols "bearer", raw) ∈ tokens ∧ Bearer.ofRaw raw ≠ none := by
  rw [List.find?_isSome]
  constructor
  · rintro ⟨challenge, hm, hb⟩
    obtain ⟨key, raw, decoder, ht, hf, hd⟩ := mem_decode_iff.1 hm
    cases hf with
    | latest hl =>
        obtain ⟨echo, rfl, -⟩ := registration_of_decoder hd
        cases hb
    | bearer hn =>
        obtain ⟨bearer, hr, -⟩ := Option.map_eq_some_iff.1 hd
        exact ⟨hn, raw, ht, by simp [hr]⟩
  · rintro ⟨hn, raw, ht, hr⟩
    obtain ⟨bearer, hb⟩ := Option.ne_none_iff_exists'.1 hr
    exact ⟨.bearer bearer, mem_decode_iff.2 ⟨_, raw, _, ht, .bearer hn, by simp [hb]⟩, rfl⟩

end Find

theorem registrations_in_force {registrations : List Registration} {header : List Symbol}
    {challenges : List DecodedChallenge}
    (h : (registered registrations).read (some header) = .ok challenges) :
    ∃ tokens, readHeader header = .ok tokens ∧
      (registered registrations).schemes =
        symbols "bearer" ::
          ((registrations.map Registration.key).filter (· != symbols "bearer")).eraseDups ∧
      (∀ answer, Dispatched registrations tokens answer ↔ answer = challenges) ∧
      (∀ number registration, registrations[number]? = some registration →
        ((firstOf? number challenges).isSome = true ↔
          Latest registrations registration.key number registration ∧
            ∃ raw, (registration.key, raw) ∈ tokens ∧ registration.decoder number raw ≠ none)) ∧
      ((challenges.find? isBearer).isSome = true ↔
        (∀ registration ∈ registrations, registration.key ≠ symbols "bearer") ∧
          ∃ raw, (symbols "bearer", raw) ∈ tokens ∧ Bearer.ofRaw raw ≠ none) := by
  obtain ⟨tokens, ht, rfl⟩ := ((registered registrations).read_eq_ok_iff).1 h
  refine ⟨tokens, ht, ?_, fun answer => dispatched_iff,
    fun number registration hp => isSome_firstOf?_iff hp, isSome_find?_isBearer_iff⟩
  rw [schemes_registered, List.eraseDups_cons]
  rfl

def shadowed : List Registration :=
  [⟨symbols "Basic", true⟩, ⟨symbols "BEARER", false⟩, ⟨symbols "basic", false⟩]

theorem registrations_in_force_of_shadowed :
    (registered shadowed).read (some (symbols "Basic, Digest a=\"b\", Bearer realm=\"r\"")) =
        .ok [.echo ⟨2, symbols "basic", .bare⟩,
          .echo ⟨1, symbols "BEARER", .fields [(symbols "realm", symbols "r")]⟩] ∧
      (registered shadowed).schemes = [symbols "bearer", symbols "basic"] ∧
      Latest shadowed (symbols "bearer") 1 ⟨symbols "BEARER", false⟩ ∧
      Latest shadowed (symbols "basic") 2 ⟨symbols "basic", false⟩ := by
  have h : (registered shadowed).read
      (some (symbols "Basic, Digest a=\"b\", Bearer realm=\"r\"")) =
        .ok [.echo ⟨2, symbols "basic", .bare⟩,
          .echo ⟨1, symbols "BEARER", .fields [(symbols "realm", symbols "r")]⟩] := by
    decide +kernel
  obtain ⟨tokens, -, hs, -, hfirst, -⟩ := registrations_in_force h
  exact ⟨h, hs.trans (by decide +kernel), ((hfirst 1 _ rfl).1 rfl).1, ((hfirst 2 _ rfl).1 rfl).1⟩

end DecodedChallenge

end ImageRegistry
