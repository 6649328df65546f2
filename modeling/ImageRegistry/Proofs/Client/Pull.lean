import ImageRegistry.Client.OneShot
import ImageRegistry.Proofs.Client.Token

namespace ImageRegistry

open Exchange Text

namespace Client

def pullInSteps (client : Client) (handshake : Bool) (image : Image) (answers : List Answer) :
    Outcome Reply :=
  if handshake then
    let (row, next) := client.step (.auth image answers)
    match row.outcome.result with
    | .ok _ =>
        let left := answers.drop (answers.length - row.outcome.unused)
        (next.step (.pull image left)).1.outcome.after row.outcome.requests
    | .error _ => row.outcome
  else (client.step (.pull image answers)).1.outcome

theorem framed_inSession {α : Type} (client : Client) {exchange : Exchange α}
    (h : Framed exchange) : Framed (client.inSession exchange) := by
  unfold inSession
  split
  · exact h
  · exact framed_throw .outOfSession

theorem framed_auth (client : Client) (r : Reference) : Framed (client.auth r) := by
  rw [auth_eq]
  exact client.framed_inSession (framed_map _ (framed_authenticate _ _))

theorem framed_pull (client : Client) (r : Reference) : Framed (client.pull r) := by
  rw [pull, fetchManifest_eq]
  exact client.framed_inSession (framed_single _ _ _ _ _)

theorem pullWith_true (client : Client) (r : Reference) :
    client.pullWith true r = client.auth r >>= fun next => next.pull r := rfl

theorem pullWith_false (client : Client) (r : Reference) :
    client.pullWith false r = client.pull r := rfl

variable {image : Image} {r : Reference}

theorem outcome_step_auth (client : Client) (hr : image.resolve = .ok r) (answers : List Answer) :
    (client.step (.auth image answers)).1.outcome =
      ((client.auth r).run answers).map fun _ => .done := by
  rw [step_auth, run_about, hr]
  rfl

theorem outcome_step_pull (client : Client) (hr : image.resolve = .ok r) (answers : List Answer) :
    (client.step (.pull image answers)).1.outcome =
      ((client.pull r).run answers).map .manifest := by
  rw [step_pull, run_about, hr]
  rfl

theorem step_auth_next (client : Client) (hr : image.resolve = .ok r) (answers : List Answer) :
    (client.step (.auth image answers)).2 =
      client.settled id ((client.auth r).run answers).result := by
  rw [step_auth, run_about, hr]

theorem run_pullWith (client : Client) (hr : image.resolve = .ok r) (handshake : Bool)
    (answers : List Answer) :
    ((client.pullWith handshake r).run answers).map .manifest =
      client.pullInSteps handshake image answers := by
  cases handshake with
  | false =>
      rw [pullWith_false]
      exact (client.outcome_step_pull hr answers).symm
  | true =>
      have hrun := run_bind (client.framed_auth r) (fun next => next.framed_pull r) answers
      rw [pullWith_true, hrun]
      simp only [pullInSteps, if_true, client.outcome_step_auth hr, client.step_auth_next hr]
      simp only [Outcome.map, drop_unused (client.framed_auth r), outcome_step_pull _ hr]
      cases ((client.auth r).run answers).result with
      | error fault => rfl
      | ok next => rfl

end Client

def rootRequest (r : Reference) (scheme : String) : Request :=
  ⟨symbols (scheme ++ "://" ++ r.registry ++ "/v2/"), none, false⟩

def manifestRequest (r : Reference) (scheme : String) (held : Option AccessToken) (read : Bool) :
    Request :=
  ⟨symbols (r.manifestUrl scheme), some (manifestHeaders (held.map AccessToken.bearer)), read⟩

inductive PullLog (r : Reference) (scheme : String) (answers : List Answer) :
    Bool → List Request → Prop
  | unasked {read : Bool} : PullLog r scheme answers false [manifestRequest r scheme none read]
  | stopped : PullLog r scheme answers true [rootRequest r scheme]
  | admitted {read : Bool} : (nextAnswer answers).Admits →
      PullLog r scheme answers true [rootRequest r scheme, manifestRequest r scheme none read]
  | refused {url : List Symbol} {read : Bool} :
      (nextAnswer answers).RefersTo (symbols r.repository) url →
      PullLog r scheme answers true [rootRequest r scheme, ⟨url, none, read⟩]
  | granted {url : List Symbol} {token : AccessToken} {asked read : Bool} :
      (nextAnswer answers).RefersTo (symbols r.repository) url →
      (nextAnswer (answers.drop 1)).Grants token →
      PullLog r scheme answers true
        [rootRequest r scheme, ⟨url, none, asked⟩, manifestRequest r scheme (some token) read]

theorem authorizations_manifestRequest {r : Reference} {scheme : String}
    {held : Option AccessToken} {read : Bool} {headers : Headers}
    (h : (manifestRequest r scheme held read).headers = some headers) :
    authorizations headers = (held.map AccessToken.bearer).toList := by
  rw [← Option.some.inj h]
  exact authorizations_manifestHeaders _

theorem PullLog.authorizations_iff {r : Reference} {scheme : String} {answers : List Answer}
    {handshake : Bool} {requests : List Request} (h : PullLog r scheme answers handshake requests) :
    ∀ request ∈ requests, ∀ headers, request.headers = some headers →
      (authorizations headers ≠ [] ↔ ∃ url read, requests[1]? = some ⟨url, none, read⟩) := by
  intro request hm headers hh
  cases h with
  | unasked =>
      rw [List.mem_singleton.1 hm] at hh
      simp [authorizations_manifestRequest hh]
  | stopped =>
      rw [List.mem_singleton.1 hm] at hh
      cases hh
  | admitted hn =>
      rcases List.mem_cons.1 hm with rfl | hm
      · cases hh
      · rw [List.mem_singleton.1 hm] at hh
        simp [authorizations_manifestRequest hh, manifestRequest]
  | refused hn =>
      simp only [List.mem_cons, List.not_mem_nil, or_false] at hm
      rcases hm with rfl | rfl
      · cases hh
      · cases hh
  | granted hn hg =>
      simp only [List.mem_cons, List.not_mem_nil, or_false] at hm
      rcases hm with rfl | rfl | rfl
      · cases hh
      · cases hh
      · simp [authorizations_manifestRequest hh]

namespace Client

variable (client : Client) {r : Reference}

theorem requests_pull (ho : client.isOpen = true) (answers : List Answer) :
    ∃ read, ((client.pull r).run answers).requests =
      [manifestRequest r client.scheme client.token read] := by
  rw [pull, run_inSession, if_pos ho, fetchManifest_eq, run_single]
  exact ⟨_, rfl⟩

theorem log_pullWith (ho : client.isOpen = true) (ht : client.token = none) (handshake : Bool)
    (answers : List Answer) :
    PullLog r client.scheme answers handshake
      ((client.pullWith handshake r).run answers).requests := by
  cases handshake with
  | false =>
      obtain ⟨read, hp⟩ := client.requests_pull ho answers
      rw [pullWith_false, hp, ht]
      exact .unasked
  | true =>
      rw [pullWith_true, run_bind (client.framed_auth r) fun next => next.framed_pull r]
      rw [auth_eq, run_inSession, if_pos ho, run_map]
      rcases authenticate_answered (client.config r.registry) (symbols r.repository) answers with
        ⟨fault, ha⟩ | ⟨hn, ha⟩ | ⟨realm, url, asked, hn, ha⟩
      · rw [ha]
        exact .stopped
      · obtain ⟨read, hp⟩ := client.requests_pull (r := r) ho (answers.drop 1)
        rw [ha]
        simp only [Outcome.map, Except.map, receive, Outcome.after, List.length_singleton, hp, ht]
        exact .admitted hn
      · rw [ha]
        cases hj : (nextAnswer (answers.drop 1)).judged (.token realm) (fun _ => true) tokenOf with
        | error fault => exact .refused hn
        | ok token =>
            obtain ⟨read, hp⟩ := (client.receive (some token)).requests_pull (r := r) ho
              (answers.drop 2)
            simp only [Outcome.map, Except.map, Outcome.after, List.length_cons, List.length_nil,
              hp]
            exact .granted hn (Answer.grants_of_judged hj)

end Client

theorem pullManifest_as_steps (image : Image) (handshake : Bool) (scheme : String)
    (timeout : TimeLimit) (answers : List Answer) :
    let pulled := pullManifest image handshake scheme timeout answers
    match image.resolve with
    | .error error =>
        pulled.outcome = ⟨.error (.reference error), [], answers.length⟩ ∧ pulled.sessions = []
    | .ok r =>
        let entered := ((Client.new scheme timeout).step .enter).2
        pulled.outcome.map .manifest = entered.pullInSteps handshake image answers ∧
          pulled.sessions = [⟨timeout, true⟩] ∧
          PullLog r scheme answers handshake pulled.outcome.requests ∧
          ∀ request ∈ pulled.outcome.requests, ∀ headers, request.headers = some headers →
            (authorizations headers ≠ [] ↔
              ∃ url read, pulled.outcome.requests[1]? = some ⟨url, none, read⟩) := by
  intro pulled
  cases hr : image.resolve with
  | error error =>
      simp only [pulled, pullManifest, hr, and_self]
  | ok r =>
      let entered := ((Client.new scheme timeout).step .enter).2
      have hv : pulled = (Client.new scheme timeout).visit
          (fun client => client.pullWith handshake r) answers := by
        simp only [pulled, pullManifest, hr]
      have hlog : PullLog r scheme answers handshake pulled.outcome.requests := by
        rw [hv]
        exact entered.log_pullWith rfl rfl handshake answers
      refine ⟨?_, ?_, hlog, hlog.authorizations_iff⟩
      · rw [hv]
        exact entered.run_pullWith hr handshake answers
      · rw [hv]
        rfl

end ImageRegistry
