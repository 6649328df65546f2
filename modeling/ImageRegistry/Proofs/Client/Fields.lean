import ImageRegistry.Proofs.Challenge.Repeats
import ImageRegistry.Proofs.Client.Run

namespace ImageRegistry

open Exchange Challenge Text

def fieldValues (headers : Headers) (name : String) : List (List Symbol) :=
  (headers.filter fun header => smallLetters header.1 == smallLetters name).map Prod.snd

theorem header?_eq_head? (headers : Headers) (name : String) :
    header? headers name = (fieldValues headers name).head? := by
  rw [header?, fieldValues, List.head?_map, List.head?_filter]

theorem run_authenticate_congr {config : RegistryConfig} {repository : List Symbol}
    {response other : Response} (h : challengesIn response = challengesIn other)
    (rest : List Answer) :
    (authenticate config repository).run (.arrived response :: rest) =
      (authenticate config repository).run (.arrived other :: rest) := by
  unfold challengesIn at h
  simp only [run_authenticate, nextAnswer_cons, Answer.judged_unread, challengeIn_eq, h,
    List.length_cons, List.drop_one, List.tail_cons]

theorem requestToken_fails_or_sends (challenge : Bearer (List Symbol)) (repository : List Symbol)
    (answers : List Answer) :
    (∃ fault, ((requestToken challenge repository).run answers).result = .error fault) ∨
      ((requestToken challenge repository).run answers).requests ≠ [] := by
  rw [run_requestToken]
  cases tokenAddress challenge repository with
  | error fault => exact .inl ⟨fault, rfl⟩
  | ok address => exact .inr (by simp)

namespace Client

variable {client : Client} {image : Image} {response other : Response}

theorem step_auth_eq_of_run {answers others : List Answer} (hl : answers.length = others.length)
    (h : client.isOpen = true → ∀ r, image.resolve = .ok r →
      (authenticate (client.config r.registry) (symbols r.repository)).run answers =
        (authenticate (client.config r.registry) (symbols r.repository)).run others) :
    client.step (.auth image answers) = client.step (.auth image others) := by
  have hrun : (about image client.auth).run answers = (about image client.auth).run others := by
    rw [run_about, run_about]
    cases hr : image.resolve with
    | error error => rw [hl]
    | ok r =>
        simp only [auth_eq, run_inSession]
        by_cases ho : client.isOpen = true
        · rw [if_pos ho, if_pos ho, run_map, run_map, h ho r hr]
        · rw [if_neg ho, if_neg ho, hl]
  rw [step_auth, step_auth, hrun]

theorem outcome_ne_of_challenged {r : Reference} {challenge : Bearer (List Symbol)}
    (ho : client.isOpen = true) (hr : image.resolve = .ok r)
    (hn : challengesIn response = .ok []) (hc : challengesIn other = .ok [challenge])
    (rest : List Answer) :
    (client.step (.auth image (.arrived response :: rest))).1.outcome ≠
      (client.step (.auth image (.arrived other :: rest))).1.outcome := by
  rw [step_auth_open hr ho, step_auth_open hr ho, run_authenticate_anonymous hn,
    run_authenticate_challenged hc]
  intro he
  have hresult := congrArg Outcome.result he
  have hrequests := congrArg Outcome.requests he
  rcases requestToken_fails_or_sends challenge (symbols r.repository) rest with ⟨fault, hf⟩ | hs
  · simp [row, Outcome.map, Outcome.after, Except.map, hf] at hresult
  · simp [row, Outcome.map, Outcome.after] at hrequests
    exact hs hrequests

end Client

theorem challengesIn_of_head? {response : Response} {offers : List Offer}
    (h : (fieldValues response.headers challengeHeader).head? =
      some (offered offers)) :
    challengesIn response =
      .ok ((offers.filter Offer.isBearer).getLast?.map Offer.decoded).toList := by
  rw [challengesIn, header?_eq_head?, h, read_bearers]

section Offers

variable {first : Offer} {others : List Offer} {apart together : Response}

theorem head?_apart (h : fieldValues apart.headers challengeHeader =
      (first :: others).map Offer.text) :
    (fieldValues apart.headers challengeHeader).head? = some (offered [first]) := by
  simp [h, offered]

theorem head?_together (h : fieldValues together.headers challengeHeader =
      [offered (first :: others)]) :
    (fieldValues together.headers challengeHeader).head? =
      some (offered (first :: others)) := by
  rw [h, List.head?_cons]

theorem outcome_ne_of_later_bearer {client : Client} {image : Image} {r : Reference}
    (ho : client.isOpen = true) (hr : image.resolve = .ok r)
    (hd : ((first :: others).map fun o => o.scheme.lower).Nodup)
    (ha : fieldValues apart.headers challengeHeader =
      (first :: others).map Offer.text)
    (ht : fieldValues together.headers challengeHeader =
      [offered (first :: others)])
    (hfirst : first.isBearer = false) {o : Offer} (hm : o ∈ others) (hb : o.isBearer = true)
    (rest : List Answer) :
    (client.step (.auth image (.arrived apart :: rest))).1.outcome ≠
      (client.step (.auth image (.arrived together :: rest))).1.outcome := by
  have hone := challengesIn_of_head? (head?_apart ha)
  have htwo := challengesIn_of_head? (head?_together ht)
  rw [List.filter_singleton, hfirst] at hone
  rw [filter_isBearer hd (List.mem_cons_of_mem _ hm) (eq_of_beq hb)] at htwo
  exact Client.outcome_ne_of_challenged ho hr hone htwo rest

-- Of challenges as an `Offer` writes them: no value is empty or holds a quote or a backslash.
theorem fields_alike_iff (client : Client) (image : Image)
    (hd : ((first :: others).map fun o => o.scheme.lower).Nodup)
    (ha : fieldValues apart.headers challengeHeader =
      (first :: others).map Offer.text)
    (ht : fieldValues together.headers challengeHeader =
      [offered (first :: others)])
    (rest : List Answer) :
    let apartRow := (client.step (.auth image (.arrived apart :: rest))).1
    let togetherRow := (client.step (.auth image (.arrived together :: rest))).1
    (apartRow.outcome = togetherRow.outcome ∧ apartRow.store = togetherRow.store) ↔
      (client.isOpen = true → (∃ r, image.resolve = .ok r) →
        first.isBearer = true ∨ ∀ o ∈ others, o.isBearer = false) := by
  intro apartRow togetherRow
  constructor
  · rintro ⟨he, -⟩ ho ⟨r, hr⟩
    by_contra hn
    rw [not_or, Bool.not_eq_true] at hn
    obtain ⟨hfirst, hothers⟩ := hn
    obtain ⟨o, hm, hb⟩ : ∃ o ∈ others, o.isBearer = true := by simpa using hothers
    exact outcome_ne_of_later_bearer ho hr hd ha ht hfirst hm hb rest he
  · intro h
    have hstep : client.step (.auth image (.arrived apart :: rest)) =
        client.step (.auth image (.arrived together :: rest)) := by
      refine Client.step_auth_eq_of_run (by simp) fun ho r hr => ?_
      refine run_authenticate_congr ?_ rest
      have hfilter : [first].filter Offer.isBearer = (first :: others).filter Offer.isBearer := by
        rcases h ho ⟨r, hr⟩ with hfirst | hothers
        · rw [filter_isBearer hd List.mem_cons_self (eq_of_beq hfirst)]
          simp [hfirst]
        · have hnil : others.filter Offer.isBearer = [] :=
            List.filter_eq_nil_iff.2 fun o hm => by simp [hothers o hm]
          simp [List.filter_cons, hnil]
      rw [challengesIn_of_head? (head?_apart ha), challengesIn_of_head? (head?_together ht),
        hfilter]
    simp only [apartRow, togetherRow, hstep, and_self]

end Offers

def basicOffer : Offer :=
  ⟨.ofText "Basic".toList rfl, [letter realmName 'x' (by decide)], by simp⟩

def tokenOffer : Offer where
  scheme := bearerName
  parameters :=
    [⟨realmName, symbols "https://ghcr.io/token", by decide, by decide, by decide⟩,
      ⟨.ofText "service".toList rfl, symbols "reg", by decide, by decide, by decide⟩]
  parameters_ne_nil := by simp

def challenged (fields : List (List Symbol)) : Response :=
  ⟨401, fields.map fun field => ("WWW-Authenticate", field), .utf8, .ok []⟩

theorem fieldValues_challenged (fields : List (List Symbol)) :
    fieldValues (challenged fields).headers challengeHeader = fields := by
  simp [fieldValues, challenged, challengeHeader, List.filter_map, Function.comp_def]

theorem fields_alike_iff_of_first :
    let client := (Client.new "https" (.int 30)).enter
    let image := Image.reference ⟨"ghcr.io", "org/app", some "v1", none⟩
    let apartRow := (client.step (.auth image
      [.arrived (challenged [tokenOffer.text, basicOffer.text])])).1
    let togetherRow := (client.step (.auth image
      [.arrived (challenged [offered [tokenOffer, basicOffer]])])).1
    ([tokenOffer, basicOffer].map fun o => o.scheme.lower).Nodup ∧
      apartRow.outcome = togetherRow.outcome ∧ apartRow.store = togetherRow.store := by
  intro client image apartRow togetherRow
  have hd : ([tokenOffer, basicOffer].map fun o => o.scheme.lower).Nodup := by decide
  have hb : tokenOffer.isBearer = true := by decide
  exact ⟨hd, (fields_alike_iff client image hd (fieldValues_challenged _)
    (fieldValues_challenged _) []).2 fun _ _ => .inl hb⟩

theorem bearer_behind_first_field_passed_over :
    ¬ ∀ (client : Client) (image : Image) (offers : List Offer) (apart together : Response)
      (rest : List Answer), offers ≠ [] → Distinct offers →
      fieldValues apart.headers challengeHeader = offers.map Offer.text →
      fieldValues together.headers challengeHeader = [offered offers] →
      (client.step (.auth image (.arrived apart :: rest))).1.outcome =
          (client.step (.auth image (.arrived together :: rest))).1.outcome ∧
        (client.step (.auth image (.arrived apart :: rest))).1.store =
          (client.step (.auth image (.arrived together :: rest))).1.store := by
  intro h
  let image := Image.reference ⟨"ghcr.io", "org/app", some "v1", none⟩
  have hd : Distinct [basicOffer, tokenOffer] := ⟨by decide, by decide⟩
  have hsame := h (Client.new "https" (.int 30)).enter image [basicOffer, tokenOffer]
    (challenged [basicOffer.text, tokenOffer.text])
    (challenged [offered [basicOffer, tokenOffer]]) [] (by simp) hd (fieldValues_challenged _)
    (fieldValues_challenged _)
  exact outcome_ne_of_later_bearer rfl rfl hd.schemes (fieldValues_challenged _)
    (fieldValues_challenged _) (by decide) List.mem_cons_self (by decide) [] hsame.1

end ImageRegistry
