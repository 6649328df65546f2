import ImageRegistry.Client.Walkthrough

namespace ImageRegistry.Walk

theorem run_attempt {α : Type} (exchange : Exchange α) (progress : Progress) :
    (attempt exchange).run.run progress =
      (match (exchange.onWire progress.wire).1 with
        | .ok value => .ok (.ok value)
        | .error fault => if fault.isReported then .ok (.error fault) else .error fault,
        { progress with wire := (exchange.onWire progress.wire).2 }) := by
  change attempt exchange progress = _
  unfold attempt ExceptT.mk
  simp only
  cases (exchange.onWire progress.wire).1 with
  | ok value => rfl
  | error fault => rfl

def sayVersion (r : Reference) : Except Fault (List Text.Symbol) → Walk Unit
  | .ok version =>
      say .info ("Registry " ++ r.registry ++ " speaks " ++ Text.textOf version)
  | .error fault => say .warning ("Version check failed: " ++ fault.message)

def orStop {α β : Type} (exchange : Exchange α) (next : α → Walk (Option β)) :
    Walk (Option β) := do
  match ← attempt exchange with
  | .error fault =>
      say .error (failureLine fault)
      pure none
  | .ok value => next value

theorem attempt_bind {α β : Type} (exchange : Exchange α)
    {next : Except Fault α → Walk (Option β)}
    (h : ∀ fault, next (.error fault) = say .error (failureLine fault) >>= fun _ => pure none) :
    attempt exchange >>= next = orStop exchange fun value => next (.ok value) := by
  unfold orStop
  congr 1
  funext result
  cases result with
  | ok value => rfl
  | error fault => exact h fault

theorem exchanges_eq (client : Client) (r : Reference) :
    exchanges client r = (do
      sayVersion r (← attempt (client.version r.registry))
      orStop (client.auth r) fun client => do
        say .info (if client.token.isSome then "✓ Obtained pull token"
          else "Registry allows anonymous pulls")
        orStop (client.pull r) fun manifest => pure (some manifest)) := by
  unfold exchanges
  congr 1
  funext version
  cases version with
  | ok version =>
      simp only [attempt_bind, implies_true]
      rfl
  | error fault =>
      simp only [attempt_bind, implies_true]
      rfl

end ImageRegistry.Walk
