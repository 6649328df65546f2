import ImageRegistry.AccessToken
import ImageRegistry.Proofs.Calendar.Validity
import ImageRegistry.Proofs.Json.Members

namespace ImageRegistry

open Calendar Text

variable {form : NumberForm}

namespace Json

inductive Falsy : Json → Prop
  | null : Falsy .null
  | bool : Falsy (.bool false)
  | int : Falsy (.int 0)
  | double (negative : Bool) (exponent : Int) : Falsy (.double (.finite negative 0 exponent))
  | str : Falsy (.str [])
  | arr : Falsy (.arr [])
  | obj : Falsy (.obj [])

theorem falsy_iff {value : Json} : value.Falsy ↔ value.isTruthy = false := by
  constructor
  · intro h
    cases h <;> rfl
  · intro h
    cases value with
    | null => exact .null
    | bool b =>
        obtain rfl : b = false := h
        exact .bool
    | int n =>
        obtain rfl : n = 0 := by simpa [isTruthy] using h
        exact .int
    | double d =>
        cases d with
        | finite negative significand exponent =>
            obtain rfl : significand = 0 := by simpa [isTruthy, Decimal.Double.isZero] using h
            exact .double negative exponent
        | nan => cases h
        | infinite negative => cases h
    | str text =>
        obtain rfl : text = [] := by simpa [isTruthy] using h
        exact .str
    | arr items =>
        obtain rfl : items = [] := by simpa [isTruthy] using h
        exact .arr
    | obj members =>
        obtain rfl : members = [] := by simpa [isTruthy] using h
        exact .obj

end Json

theorem readIssueTime_eq_ok_iff {text : List Symbol} {time : Timestamp} :
    readIssueTime form text = .ok time ↔ Timestamp.read? form (charsOf text) = some time := by
  unfold readIssueTime
  cases Timestamp.read? form (charsOf text) with
  | none => simp
  | some read => simp

namespace AccessToken

inductive TokenText (value : Json) : List Symbol → Prop
  | access {text : List Symbol} :
      value.field? "access_token" = some (.str text) → text ≠ [] → TokenText value text
  | token {text : List Symbol} :
      (∀ access ∈ value.field? "access_token", access.Falsy) →
        value.field? "token" = some (.str text) → text ≠ [] → TokenText value text

def IssueTime (form : NumberForm) (text : List Symbol) (time : Timestamp) : Prop :=
  readIssueTime form text = .ok time ∧ time.IsValid

structure Granted (form : NumberForm) (value : Json) (token : AccessToken) : Prop where
  object : ∃ members, value = .obj members
  text : TokenText value token.value
  lifetime : Json.Given .int Eq (value.field? "expires_in") token.expiresIn
  issueTime : Json.Given .str (IssueTime form) (value.field? "issued_at") token.issuedAt

section Members

variable {members : Json.Members}

theorem value?_eq_some_iff {value : Json} :
    value? members = some value ↔
      Json.member? "access_token" members = some value ∧ ¬ value.Falsy ∨
        (∀ access ∈ Json.member? "access_token" members, access.Falsy) ∧
          Json.member? "token" members = some value := by
  unfold value?
  cases Json.member? "access_token" members with
  | none => simp
  | some access =>
      cases ht : access.isTruthy with
      | true =>
          have hn : ¬ access.Falsy := fun hf =>
            Bool.false_ne_true ((Json.falsy_iff.1 hf).symm.trans ht)
          simp only [ht, if_true]
          constructor
          · rintro ⟨⟩
            exact .inl ⟨rfl, hn⟩
          · rintro (⟨h, -⟩ | ⟨hf, -⟩)
            · exact h
            · exact absurd (hf access rfl) hn
      | false =>
          have hf : access.Falsy := Json.falsy_iff.2 ht
          simp only [ht, Bool.false_eq_true, if_false]
          constructor
          · intro h
            exact .inr ⟨fun _ ha => Option.some.inj ha ▸ hf, h⟩
          · rintro (⟨⟨⟩, hn⟩ | ⟨-, h⟩)
            · exact absurd hf hn
            · exact h

theorem tokenText_iff {text : List Symbol} :
    TokenText (.obj members) text ↔ value? members = some (.str text) ∧ text ≠ [] := by
  rw [value?_eq_some_iff]
  constructor
  · rintro (⟨ha, hn⟩ | ⟨hf, ht, hn⟩)
    · exact ⟨.inl ⟨ha, fun hf => hn (by cases hf; rfl)⟩, hn⟩
    · exact ⟨.inr ⟨hf, ht⟩, hn⟩
  · rintro ⟨⟨ha, -⟩ | ⟨hf, ht⟩, hn⟩
    · exact .access ha hn
    · exact .token hf ht hn

theorem decodeValue_eq_ok_iff {value : List Symbol} :
    decodeValue members = .ok value ↔ TokenText (.obj members) value := by
  rw [tokenText_iff]
  unfold decodeValue
  split
  · next text hv =>
      rw [hv]
      cases text with
      | nil =>
          simp only [List.isEmpty_nil, if_true, Option.some.injEq, Json.str.injEq, reduceCtorEq,
            false_iff, not_and, not_not]
          exact Eq.symm
      | cons symbol text =>
          simp only [List.isEmpty_cons, Bool.false_eq_true, if_false, Except.ok.injEq,
            Option.some.injEq, Json.str.injEq, iff_self_and]
          rintro rfl
          exact List.cons_ne_nil symbol text
  · next hv =>
      constructor
      · intro h
        cases h
      · rintro ⟨ht, -⟩
        exact absurd ht (hv value)

theorem decodeLifetime_eq_ok_iff {lifetime : Option Int} :
    decodeLifetime members = .ok lifetime ↔
      Json.Given .int Eq (Json.member? "expires_in" members) lifetime := by
  unfold decodeLifetime
  split
  · next hg =>
      have hk (seconds : Int) : Json.int seconds ≠ .null := nofun
      rw [Json.given_iff_of_none hk hg]
      simp [eq_comm]
  · next seconds hg =>
      rw [Json.given_iff_of_some hg]
      simp [eq_comm]
  · next value hi hg =>
      rw [Json.given_iff_of_some hg]
      constructor
      · intro h
        cases h
      · rintro ⟨seconds, -, hs, -⟩
        exact absurd hs (hi seconds)

theorem issueTime_iff {text : List Symbol} {time : Timestamp} :
    IssueTime form text time ↔ readIssueTime form text = .ok time := by
  exact and_iff_left_of_imp fun h => Timestamp.isValid_of_read? (readIssueTime_eq_ok_iff.1 h)

theorem decodeIssueTime_eq_ok_iff {time : Option Timestamp} :
    decodeIssueTime form members = .ok time ↔
      Json.Given .str (IssueTime form) (Json.member? "issued_at" members) time := by
  unfold decodeIssueTime
  split
  · next hg =>
      have hk (text : List Symbol) : Json.str text ≠ .null := nofun
      rw [Json.given_iff_of_none hk hg]
      simp [eq_comm]
  · next text hg =>
      simp only [Json.given_iff_of_some hg, map_eq_ok_iff, issueTime_iff]
      simp [eq_comm]
  · next value ht hg =>
      rw [Json.given_iff_of_some hg]
      constructor
      · intro h
        cases h
      · rintro ⟨text, -, hs, -⟩
        exact absurd hs (ht text)

end Members

theorem ofJson_eq_ok_iff {value : Json} {token : AccessToken} :
    ofJson form value = .ok token ↔ Granted form value token := by
  simp only [ofJson, bind_eq_ok_iff, Json.members_eq_ok_iff, decodeValue_eq_ok_iff,
    decodeLifetime_eq_ok_iff, decodeIssueTime_eq_ok_iff]
  constructor
  · rintro ⟨members, rfl, text, ht, lifetime, hl, time, hi, ⟨⟩⟩
    exact ⟨⟨members, rfl⟩, ht, hl, hi⟩
  · rintro ⟨⟨members, rfl⟩, ht, hl, hi⟩
    exact ⟨members, rfl, _, ht, _, hl, _, hi, rfl⟩

theorem decode_eq_ok_iff {body : List UInt8} {token : AccessToken} :
    decode form body = .ok token ↔
      ∃ value, Json.decode body = .ok value ∧ Granted form value token := by
  rw [decode, bind_eq_ok_iff]
  simp only [ofJson_eq_ok_iff]

theorem ofJson_of_access {value access : Json} (ha : value.field? "access_token" = some access)
    (hf : ¬ access.Falsy) (ht : ∀ text, access ≠ .str text) :
    ofJson form value = .error .noAccessToken := by
  obtain ⟨members, rfl⟩ := Json.object_of_field? ha
  have hv : value? members = some access := value?_eq_some_iff.2 (.inl ⟨ha, hf⟩)
  have hd : decodeValue members = .error .noAccessToken := by
    unfold decodeValue
    rw [hv]
    split
    · next text h => exact absurd (Option.some.inj h) (ht text)
    · rfl
  simp only [ofJson, Json.members, bind, Except.bind, hd]

theorem TokenText.ne_nil {value : Json} {text : List Symbol} (h : TokenText value text) :
    text ≠ [] := by
  cases h with
  | access _ hn => exact hn
  | token _ _ hn => exact hn

theorem granted_or_refused (form : NumberForm) (body : List UInt8) :
    ((∃ error, decode form body = .error error) ∨
      ∃ value token, Json.decode body = .ok value ∧ decode form body = .ok token ∧
        token.value ≠ [] ∧ Granted form value token) ∧
    (∀ value token, Json.decode body = .ok value → Granted form value token →
      decode form body = .ok token) ∧
    ∀ value access, Json.decode body = .ok value → value.field? "access_token" = some access →
      ¬ access.Falsy → (∀ text, access ≠ .str text) → decode form body = .error .noAccessToken := by
  refine ⟨?_, fun value token hv hg => decode_eq_ok_iff.2 ⟨value, hv, hg⟩, ?_⟩
  · cases hd : decode form body with
    | error error => exact .inl ⟨error, rfl⟩
    | ok token =>
        obtain ⟨value, hv, hg⟩ := decode_eq_ok_iff.1 hd
        exact .inr ⟨value, token, hv, rfl, hg.text.ne_nil, hg⟩
  · intro value access hv ha hf ht
    simp only [decode, hv, bind, Except.bind, ofJson_of_access ha hf ht]

end AccessToken

end ImageRegistry
