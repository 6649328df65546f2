import ImageRegistry.Proofs.Client.Pull
import ImageRegistry.Proofs.Url.Query

namespace ImageRegistry

open Text

theorem Answer.RefersTo.queryValues {repository url : List Symbol} {answer : Answer}
    (h : answer.RefersTo repository url) :
    ∃ response challenge others service, answer = .arrived response ∧
      challengesIn response = .ok (challenge :: others) ∧ challenge.service = some service ∧
      queryValues url "service" = [service] ∧
      queryValues url "scope" = [pullScope repository] := by
  cases h with
  | intro hc _ hs hu => exact ⟨_, _, _, _, rfl, hc, hs, queryValues_tokenUrl hu⟩

theorem handshake_asks_for_pull_alone (client : Client) (image : Image) (answers : List Answer) :
    let requests := (client.step (.auth image answers)).1.outcome.requests
    requests = [] ∨ ∃ r, image.resolve = .ok r ∧
      (requests = [rootRequest r client.scheme] ∨
        ∃ url read, requests = [rootRequest r client.scheme, ⟨url, none, read⟩] ∧
          ∃ response challenge others service, nextAnswer answers = .arrived response ∧
            challengesIn response = .ok (challenge :: others) ∧
            challenge.service = some service ∧
            queryValues url "service" = [service] ∧
            queryValues url "scope" =
              [symbols ("repository:" ++ r.repository ++ ":pull")]) := by
  intro requests
  have hcases := client.run_about_cases answers image fun r =>
    client.receive <$> authenticate (client.config r.registry) (symbols r.repository)
  simp only [← Client.auth_eq] at hcases
  rcases hcases with ⟨fault, hf⟩ | ⟨ho, r, hr⟩
  · left
    simp only [requests]
    rw [Client.step_auth, hf]
    rfl
  · refine .inr ⟨r, hr, ?_⟩
    simp only [requests]
    rw [Client.step_auth_open hr ho]
    rcases authenticate_answered (client.config r.registry) (symbols r.repository) answers with
      ⟨fault, ha⟩ | ⟨-, ha⟩ | ⟨realm, url, read, hn, ha⟩
    · rw [ha]
      exact .inl rfl
    · rw [ha]
      exact .inl rfl
    · rw [ha]
      rw [← pullScope_symbols]
      exact .inr ⟨url, read, rfl, hn.queryValues⟩

end ImageRegistry
