import Mathlib.Data.List.Basic
import ImageRegistry.Proofs.Client.Run

namespace ImageRegistry

open Text

inductive Step.Traceless : Step → Except Fault Reply → Prop
  | version {host : String} {answers : List Answer} {result : Except Fault Reply} :
      Traceless (.version host answers) result
  | pull {image : Image} {answers : List Answer} {result : Except Fault Reply} :
      Traceless (.pull image answers) result
  | auth {image : Image} {answers : List Answer} {fault : Fault} :
      Traceless (.auth image answers) (.error fault)

namespace Client

theorem step_auth_failed {client : Client} {image : Image} {answers : List Answer} {fault : Fault}
    (h : (client.step (.auth image answers)).1.outcome.result = .error fault) :
    (client.step (.auth image answers)).2 = client := by
  rw [step_auth] at h ⊢
  cases hr : ((about image client.auth).run answers).result with
  | error fault => rfl
  | ok next =>
      simp [row, Outcome.map, Except.map, hr] at h

theorem step_traceless {client : Client} {step : Step} {result : Except Fault Reply}
    (hr : (client.step step).1.outcome.result = result) (ht : step.Traceless result) :
    (client.step step).2 = client := by
  cases ht with
  | version => rw [step_version]
  | pull => rw [step_pull]
  | auth => exact step_auth_failed hr

theorem steps_eraseIdx_traceless (client : Client) {steps : List Step} {i : Nat} {step : Step}
    {row : Row} (hs : steps[i]? = some step) (hr : (client.steps steps)[i]? = some row)
    (ht : step.Traceless row.outcome.result) :
    client.steps (steps.eraseIdx i) = (client.steps steps).eraseIdx i := by
  induction steps generalizing client i with
  | nil => cases hs
  | cons first rest ih =>
      cases i with
      | zero =>
          -- The rest of the sequence starts with the client that the erased step started with.
          obtain rfl : first = step := by simpa using hs
          obtain rfl : (client.step first).1 = row := by simpa [Client.steps] using hr
          have hc : (client.step first).2 = client := step_traceless rfl ht
          simp [Client.steps, hc]
      | succ i =>
          have hs' : rest[i]? = some step := by simpa using hs
          have hr' : ((client.step first).2.steps rest)[i]? = some row := by
            simpa [Client.steps] using hr
          have hrest := ih (client.step first).2 hs' hr'
          simp [Client.steps, hrest]

theorem steps_eraseIdx_traceless_rejected :
    let client := Client.new "https" (.int 30)
    let image := Image.reference ⟨"ghcr.io", "org/app", some "v1", none⟩
    let header := symbols "Bearer realm=\"https://ghcr.io/token\",service=\"reg\""
    let challenge : Response := ⟨401, [("WWW-Authenticate", header)], .utf8, .ok []⟩
    let rejected := Step.auth image [.arrived challenge, .arrived ⟨403, [], .utf8, .ok []⟩]
    (∃ row, (client.steps [.enter, rejected, .pull image []])[1]? = some row ∧
      row.outcome.result = .error (.rejected [] 403) ∧ row.outcome.requests.length = 2 ∧
      rejected.Traceless row.outcome.result) ∧
    client.steps [.enter, .pull image []] =
      (client.steps [.enter, rejected, .pull image []]).eraseIdx 1 := by
  intro client image header challenge rejected
  let offer : Bearer (List Symbol) :=
    ⟨some (symbols "https://ghcr.io/token"), some (symbols "reg"), none⟩
  have hd : Bearer.decoders.read (header? challenge.headers challengeHeader) = .ok [offer] := by
    decide +kernel
  have hs : Url.split? (symbols "https://ghcr.io/token") =
      some ⟨"https".toList, symbols "ghcr.io", symbols "/token", [], []⟩ := by
    decide +kernel
  have hf : offer.Filled (symbols "https://ghcr.io/token") (symbols "reg") :=
    ⟨rfl, by decide, rfl, by decide⟩
  obtain ⟨url, -, ha⟩ :=
    tokenAddress_of_parts hf hs (encodable_pull (whole_symbolsOf _) "org/app")
  have hr : (client.steps [.enter, rejected, .pull image []])[1]? =
      some (client.enter.step rejected).1 :=
    client.getElem?_steps [.enter] rejected [.pull image []]
  have hf : (client.enter.step rejected).1.outcome.result = .error (.rejected [] 403) ∧
      (client.enter.step rejected).1.outcome.requests.length = 2 := by
    rw [step_auth_open rfl rfl, run_authenticate_answered hd ha]
    exact ⟨rfl, rfl⟩
  have ht : rejected.Traceless (client.enter.step rejected).1.outcome.result := by
    rw [hf.1]
    exact .auth
  exact ⟨⟨_, hr, hf.1, hf.2, ht⟩, client.steps_eraseIdx_traceless rfl hr ht⟩

end Client

end ImageRegistry
