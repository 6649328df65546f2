import ImageRegistry.Proofs.Client.Run

namespace ImageRegistry

open Exchange Text

def Row.Settles (row : Row) (answer : Answer) (realm : List Symbol) (store : TokenStore) : Prop :=
  match answer.received with
  | .error failure =>
      row.outcome.result = .error (.unreachable (.token realm) failure.reason) ∧ row.store = store
  | .ok (status, charset, body) =>
      if status = 200 then
        match AccessToken.decode .literal body with
        | .ok token => row.outcome.result = .ok .done ∧ row.store.token = some token
        | .error error => row.outcome.result = .error (.undecodable error) ∧ row.store = store
      else
        match charset.read body with
        | .ok reason => row.outcome.result = .error (.rejected reason status) ∧ row.store = store
        | .error error => row.outcome.result = .error (.charset error) ∧ row.store = store

section Handshake

variable {client : Client} {image : Image} {r : Reference} (ho : client.isOpen = true)
  (hr : image.resolve = .ok r)

include ho hr

theorem settles_step_auth {response : Response} {rest : List Answer}
    {challenge : Bearer (List Symbol)} {others : List (Bearer (List Symbol))}
    {realm url : List Symbol}
    (hd : Bearer.decoders.read (header? response.headers challengeHeader) =
      .ok (challenge :: others))
    (ha : tokenAddress challenge (symbols r.repository) = .ok (realm, url)) :
    let row := (client.step (.auth image (.arrived response :: rest))).1
    row.outcome.requests = [apiRequest (client.config r.registry),
        ⟨url, none, ((nextAnswer rest).take fun _ => true).2⟩] ∧
      row.outcome.unused = rest.length - 1 ∧ row.Settles (nextAnswer rest) realm client.store := by
  intro row
  simp only [row]
  rw [Client.step_auth_open hr ho, run_authenticate_answered hd ha]
  refine ⟨rfl, rfl, ?_⟩
  rw [Answer.judged_token, Row.Settles]
  cases (nextAnswer rest).received with
  | error failure => exact ⟨rfl, rfl⟩
  | ok arrival =>
      obtain ⟨status, charset, body⟩ := arrival
      simp only [tokenOf]
      split
      · cases AccessToken.decode .literal body with
        | ok token => exact ⟨rfl, rfl⟩
        | error error => exact ⟨rfl, rfl⟩
      · cases charset.read body with
        | ok reason => exact ⟨rfl, rfl⟩
        | error error => exact ⟨rfl, rfl⟩

theorem handshake_outcome (response : Response) (rest : List Answer) :
    let decoded := Bearer.decoders.read (header? response.headers challengeHeader)
    let row := (client.step (.auth image (.arrived response :: rest))).1
    let first : Request := ⟨symbols (client.scheme ++ "://" ++ r.registry ++ "/v2/"), none, false⟩
    let scope := symbols ("repository:" ++ r.repository ++ ":pull")
    (header? response.headers challengeHeader = none ∨ decoded = .ok [] →
      row.outcome = ⟨.ok .done, [first], rest.length⟩ ∧ row.store = client.store) ∧
    ((∃ error, decoded = .error (.malformed error)) ∨
      (∃ challenge others, decoded = .ok (challenge :: others) ∧
        (Blank challenge.realm ∨ Blank challenge.service)) →
      ∃ error, row.outcome = ⟨.error (.challenge error), [first], rest.length⟩ ∧
        row.store = client.store) ∧
    ∀ challenge others realm service parts, decoded = .ok (challenge :: others) →
      challenge.Filled realm service → Url.split? realm = some parts →
      (¬ Encodable parts.query service scope →
        row.outcome = ⟨.error (.tokenUrl .unencodable), [first], rest.length⟩ ∧
          row.store = client.store) ∧
      (Encodable parts.query service scope →
        ∃ url read, tokenUrl realm service scope = .ok url ∧
          row.outcome.requests = [first, ⟨url, none, read⟩] ∧
          row.outcome.unused = rest.length - 1 ∧
          row.Settles (nextAnswer rest) realm client.store) := by
  intro decoded row first scope
  refine ⟨?_, ?_, ?_⟩
  · intro h
    have hd : decoded = .ok [] := by
      rcases h with h | h
      · simp only [decoded, h]
        rfl
      · exact h
    simp only [row]
    rw [Client.step_auth_open hr ho, run_authenticate_anonymous hd]
    exact ⟨rfl, rfl⟩
  · rintro (⟨error, hd⟩ | ⟨challenge, others, hd, hb⟩)
    · simp only [row]
      rw [Client.step_auth_open hr ho, run_authenticate_malformed hd]
      exact ⟨error, rfl, rfl⟩
    · obtain ⟨error, hrun⟩ := run_authenticate_blank hd hb
      simp only [row]
      rw [Client.step_auth_open hr ho, hrun]
      exact ⟨error, rfl, rfl⟩
  · intro challenge others realm service parts hd hf hs
    simp only [scope, ← pullScope_symbols]
    constructor
    · intro he
      simp only [row]
      rw [Client.step_auth_open hr ho, run_authenticate_unencodable hd hf hs he]
      exact ⟨rfl, rfl⟩
    · intro he
      obtain ⟨url, hu, ha⟩ := tokenAddress_of_parts hf hs he
      exact ⟨url, _, hu, settles_step_auth ho hr hd ha⟩

end Handshake

theorem handshake_outcome_granted :
    let client := (Client.new "https" (.int 30)).enter
    let r : Reference := ⟨"ghcr.io", "org/app", some "v1", none⟩
    let header := symbols
      "Basic realm=\"x\", Bearer realm=\"https://ghcr.io/token\",service=\"reg\""
    let response : Response := ⟨401, [("WWW-Authenticate", header)], .utf8, .ok []⟩
    let granted : Response :=
      ⟨200, [], .utf8, .ok (Utf8.encode "\x7b\"token\":\"abc\"\x7d".toList)⟩
    let row := (client.step (.auth (.reference r) [.arrived response, .arrived granted])).1
    client.isOpen = true ∧ (Image.reference r).resolve = .ok r ∧
      (∃ read, row.outcome.requests =
        [⟨symbols "https://ghcr.io/v2/", none, false⟩,
         ⟨symbols "https://ghcr.io/token?service=reg&scope=repository%3Aorg%2Fapp%3Apull", none,
          read⟩]) ∧
      row.store.token = some ⟨symbols "abc", none, none⟩ := by
  intro client r header response granted row
  have hh : header? response.headers challengeHeader = some header := by decide +kernel
  have hd : Bearer.decoders.read (some header) =
      .ok [⟨some (symbols "https://ghcr.io/token"), some (symbols "reg"), none⟩] := by
    decide +kernel
  have hf : Bearer.Filled ⟨some (symbols "https://ghcr.io/token"), some (symbols "reg"), none⟩
      (symbols "https://ghcr.io/token") (symbols "reg") := ⟨rfl, by decide, rfl, by decide⟩
  have hs : Url.split? (symbols "https://ghcr.io/token") =
      some ⟨"https".toList, symbols "ghcr.io", symbols "/token", [], []⟩ := by
    decide +kernel
  have he := encodable_pull (whole_symbolsOf "reg".toList) r.repository
  have hv : tokenUrl (symbols "https://ghcr.io/token") (symbols "reg")
        (symbols ("repository:" ++ r.repository ++ ":pull")) =
      .ok (symbols
        "https://ghcr.io/token?service=reg&scope=repository%3Aorg%2Fapp%3Apull") := by
    decide +kernel
  have ht : AccessToken.decode .literal (Utf8.encode "\x7b\"token\":\"abc\"\x7d".toList) =
      .ok ⟨symbols "abc", none, none⟩ := by decide +kernel
  obtain ⟨-, -, hc⟩ :=
    @handshake_outcome client (.reference r) r rfl rfl response [.arrived granted]
  rw [hh] at hc
  rw [pullScope_symbols] at he
  have hsent := hc ⟨some (symbols "https://ghcr.io/token"), some (symbols "reg"), none⟩ [] _ _ _
    hd hf hs
  obtain ⟨url, read, hu, hq, hsettled⟩ := hsent.2 he
  rw [Except.ok.inj (hu.symm.trans hv)] at hq
  simp only [Row.Settles, nextAnswer_cons, granted, Answer.received, Except.map, if_true, ht]
    at hsettled
  exact ⟨rfl, rfl, ⟨read, hq⟩, hsettled.2.2⟩

theorem half_in_service_escapes :
    ¬ ∀ (client : Client) (image : Image) (r : Reference) (response : Response)
      (rest : List Answer) (challenge : Bearer (List Symbol)) (realm service : List Symbol),
      client.isOpen = true → image.resolve = .ok r →
      Bearer.decoders.read (header? response.headers challengeHeader) = .ok [challenge] →
      challenge.Filled realm service → (Url.split? realm).isSome →
      (client.step (.auth image (.arrived response :: rest))).1.outcome.requests.length = 2 := by
  intro h
  let client := (Client.new "https" (.int 30)).enter
  let r : Reference := ⟨"ghcr.io", "org/app", some "v1", none⟩
  let realm := symbols "https://ghcr.io/token"
  let service := .char 'B' :: .half 0xDCFC :: symbols "ccher"
  let challenge : Bearer (List Symbol) := ⟨some realm, some service, none⟩
  let header :=
    symbols "Bearer realm=\"https://ghcr.io/token\",service=\"" ++ service ++ [.char '"']
  let response : Response := ⟨401, [("WWW-Authenticate", header)], .utf8, .ok []⟩
  have hd : Bearer.decoders.read (header? response.headers challengeHeader) = .ok [challenge] := by
    decide +kernel
  have hf : challenge.Filled realm service := ⟨rfl, by decide, rfl, by decide⟩
  have hs : Url.split? realm =
      some ⟨"https".toList, symbols "ghcr.io", symbols "/token", [], []⟩ := by
    decide +kernel
  have he : ¬ Encodable [] service (pullScope (symbols r.repository)) := fun he =>
    he.service 0xDCFC (List.mem_cons_of_mem _ List.mem_cons_self)
  have hlength := h client (.reference r) r response [] challenge realm service rfl rfl hd hf
    (by rw [hs]; rfl)
  rw [Client.step_auth_open rfl rfl, run_authenticate_unencodable hd hf hs he] at hlength
  cases hlength

end ImageRegistry
