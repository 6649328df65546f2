import ImageRegistry.Proofs.Client.Fields
import ImageRegistry.Proofs.Client.Operation

namespace ImageRegistry

open Exchange Text

section Version

variable {α β : Type}

structure Outcome.TellsVersion (outcome : Outcome α) (reply : List Symbol → α) (baseUrl : String)
    (headers : Headers) : Prop where
  requests : outcome.requests = [⟨symbols (baseUrl ++ "/v2/"), none, false⟩]
  result : match fieldValues headers versionHeader with
    | value :: _ => outcome.result = .ok (reply value)
    | [] => outcome.Raises .missingVersion

theorem Outcome.TellsVersion.map {outcome : Outcome α} {reply : List Symbol → α} {baseUrl : String}
    {headers : Headers} (h : outcome.TellsVersion reply baseUrl headers) (f : α → β) :
    (outcome.map f).TellsVersion (fun value => f (reply value)) baseUrl headers := by
  refine ⟨h.requests, ?_⟩
  have hresult := h.result
  cases hv : fieldValues headers versionHeader with
  | nil =>
      rw [hv] at hresult
      obtain ⟨fault, hf, hk⟩ := hresult
      exact ⟨fault, congrArg (Except.map f) hf, hk⟩
  | cons value others =>
      rw [hv] at hresult
      exact congrArg (Except.map f) hresult

variable {response other : Response} (config : RegistryConfig)

theorem run_fetchVersion_arrived (rest : List Answer) :
    (fetchVersion config).run (.arrived response :: rest) =
      ⟨judgeVersion config ⟨response.status, response.headers, response.charset, []⟩,
        [apiRequest config], rest.length⟩ := by
  rw [fetchVersion_eq, run_single, nextAnswer_cons, Answer.judged_unread, Answer.take_unread]
  rfl

theorem tellsVersion_fetchVersion (rest : List Answer) :
    ((fetchVersion config).run (.arrived response :: rest)).TellsVersion id config.baseUrl
      response.headers := by
  rw [run_fetchVersion_arrived]
  refine ⟨rfl, ?_⟩
  rw [judgeVersion, header?_eq_head?]
  cases fieldValues response.headers versionHeader with
  | nil => exact ⟨_, rfl, rfl⟩
  | cons value others => rfl

theorem run_fetchVersion_congr (h : response.headers = other.headers) (rest : List Answer) :
    (fetchVersion config).run (.arrived response :: rest) =
      (fetchVersion config).run (.arrived other :: rest) := by
  simp only [run_fetchVersion_arrived, judgeVersion, h]

end Version

namespace Client

variable {client : Client} {response other : Response}

theorem run_version_congr (h : response.headers = other.headers) (host : String)
    (rest : List Answer) :
    (client.version host).run (.arrived response :: rest) =
      (client.version host).run (.arrived other :: rest) := by
  rw [version, run_inSession, run_inSession, run_fetchVersion_congr _ h]
  rfl

theorem step_version_congr (h : response.headers = other.headers) (host : String)
    (rest : List Answer) :
    client.step (.version host (.arrived response :: rest)) =
      client.step (.version host (.arrived other :: rest)) := by
  rw [step_version, step_version, run_version_congr h]

theorem step_auth_congr (h : response.headers = other.headers) (image : Image)
    (rest : List Answer) :
    client.step (.auth image (.arrived response :: rest)) =
      client.step (.auth image (.arrived other :: rest)) := by
  refine step_auth_eq_of_run rfl fun _ r _ => ?_
  refine run_authenticate_congr ?_ rest
  rw [challengesIn, challengesIn, h]

theorem head?_step_auth {r : Reference} {image : Image} (ho : client.isOpen = true)
    (hr : image.resolve = .ok r) (answers : List Answer) :
    (client.step (.auth image answers)).1.outcome.requests.head? =
      some (apiRequest (client.config r.registry)) := by
  rw [step_auth_open hr ho]
  rcases authenticate_cases (client.config r.registry) (symbols r.repository) answers with
    ⟨fault, ha⟩ | ha | ⟨realm, url, read, ha⟩
  · rw [ha]
    rfl
  · rw [ha]
    rfl
  · rw [ha]
    rfl

theorem unread_head_auth (client : Client) (image : Image) (answers : List Answer) :
    ∀ request ∈ (client.step (.auth image answers)).1.outcome.requests.head?,
      request.read = false := by
  intro request hm
  have hcases := client.run_about_cases answers image fun r =>
    client.receive <$> authenticate (client.config r.registry) (symbols r.repository)
  simp only [← auth_eq] at hcases
  rcases hcases with ⟨fault, hf⟩ | ⟨ho, r, hr⟩
  · rw [step_auth, hf] at hm
    cases hm
  · rw [head?_step_auth ho hr] at hm
    cases hm
    rfl

end Client

theorem getApiVersion_congr {response other : Response} (h : response.headers = other.headers)
    (host scheme : String) (timeout : TimeLimit) (rest : List Answer) :
    getApiVersion host scheme timeout (.arrived response :: rest) =
      getApiVersion host scheme timeout (.arrived other :: rest) := by
  rw [getApiVersion, getApiVersion, Client.visit, Client.visit, Client.run_version_congr h]

theorem root_judged_by_headers (headers : Headers) (status status' : Int)
    (charset charset' : Charset) (body body' : Except TransportFailure (List UInt8))
    (later : List Answer) :
    let answers := .arrived ⟨status, headers, charset, body⟩ :: later
    let others := .arrived ⟨status', headers, charset', body'⟩ :: later
    (∀ (client : Client) (host : String),
      client.step (.version host answers) = client.step (.version host others)) ∧
    (∀ (client : Client) (image : Image),
      client.step (.auth image answers) = client.step (.auth image others)) ∧
    (∀ host scheme timeout,
      getApiVersion host scheme timeout answers = getApiVersion host scheme timeout others) ∧
    (∀ (client : Client) (image : Image),
      ∀ request ∈ (client.step (.auth image answers)).1.outcome.requests.head?,
        request.read = false) ∧
    (∀ (client : Client) (host : String), client.isOpen = true →
      (client.step (.version host answers)).1.outcome.TellsVersion Reply.version
        (client.scheme ++ "://" ++ host) headers) ∧
    ∀ host scheme timeout,
      (getApiVersion host scheme timeout answers).outcome.TellsVersion id
        (scheme ++ "://" ++ host) headers := by
  intro answers others
  have hh : (Response.mk status headers charset body).headers =
      (Response.mk status' headers charset' body').headers := rfl
  refine ⟨fun client host => Client.step_version_congr hh host later,
    fun client image => Client.step_auth_congr hh image later,
    fun host scheme timeout => getApiVersion_congr hh host scheme timeout later,
    fun client image => client.unread_head_auth image answers, ?_, ?_⟩
  · intro client host ho
    rw [Client.step_version, Client.run_version_open ho]
    exact (tellsVersion_fetchVersion (client.config host) later).map Reply.version
  · intro host scheme timeout
    have ho : (Client.new scheme timeout).enter.isOpen = true := rfl
    rw [getApiVersion, Client.visit, Client.run_version_open ho]
    exact tellsVersion_fetchVersion _ later

theorem root_judged_by_headers_of_failure :
    let headers := [("docker-DISTRIBUTION-api-version", symbols "registry/2.0"),
      (versionHeader, symbols "registry/1.0")]
    let client := (Client.new "https" (.int 30)).enter
    let image := Image.reference ⟨"ghcr.io", "org/app", some "v1", none⟩
    let broken : Answer := .arrived ⟨503, headers, .utf8, .error (.broken "reset")⟩
    let asked := apiRequest (client.config "ghcr.io")
    client.isOpen = true ∧
      (client.step (.version "ghcr.io" [broken])).1.outcome.result =
        .ok (.version (symbols "registry/2.0")) ∧
      asked ∈ (client.step (.auth image [broken])).1.outcome.requests.head? ∧
      asked.read = false := by
  intro headers client image broken asked
  have hs : smallLetters "docker-DISTRIBUTION-api-version" = smallLetters versionHeader := by
    rw [smallLetters, smallLetters, ← String.toList_inj, String.toList_map, String.toList_map]
    decide +kernel
  have hv : fieldValues headers versionHeader =
      [symbols "registry/2.0", symbols "registry/1.0"] := by
    simp [fieldValues, headers, hs]
  have hr : image.resolve = .ok ⟨"ghcr.io", "org/app", some "v1", none⟩ := rfl
  have hm : asked ∈ (client.step (.auth image [broken])).1.outcome.requests.head? :=
    Option.mem_def.2 (Client.head?_step_auth rfl hr [broken])
  obtain ⟨-, -, -, hread, hversion, -⟩ :=
    root_judged_by_headers headers 503 200 .utf8 .utf8 (.error (.broken "reset")) (.ok []) []
  have hresult := (hversion client "ghcr.io" rfl).result
  rw [hv] at hresult
  exact ⟨rfl, hresult, hm, hread client image asked hm⟩

end ImageRegistry
