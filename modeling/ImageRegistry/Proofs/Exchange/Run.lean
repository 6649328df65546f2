import ImageRegistry.Exchange.Wire

namespace ImageRegistry

open Text (Symbol)

section Runs

variable {σ α β : Type}

theorem run_run_bind (run : ExceptT Fault (StateM σ) α) (next : α → ExceptT Fault (StateM σ) β)
    (s : σ) :
    (run >>= next).run.run s =
      match run.run.run s with
      | (.ok a, s) => (next a).run.run s
      | (.error fault, s) => (.error fault, s) := by
  unfold ExceptT.run StateT.run
  simp only [bind, ExceptT.bind, ExceptT.mk, StateT.bind, ExceptT.bindCont]
  cases run s with
  | mk result s => cases result <;> rfl

end Runs

def nextAnswer (answers : List Answer) : Answer :=
  answers.head?.getD (.failed noAnswer)

theorem nextAnswer_cons (answer : Answer) (answers : List Answer) :
    nextAnswer (answer :: answers) = answer := rfl

namespace Outcome

variable {α β : Type}

def map (f : α → β) (outcome : Outcome α) : Outcome β :=
  ⟨outcome.result.map f, outcome.requests, outcome.unused⟩

def after (requests : List Request) (outcome : Outcome α) : Outcome α :=
  { outcome with requests := requests ++ outcome.requests }

end Outcome

namespace Exchange

variable {α β : Type}

theorem run_pure (a : α) (answers : List Answer) :
    (pure a : Exchange α).run answers = ⟨.ok a, [], answers.length⟩ := rfl

theorem run_throw (fault : Fault) (answers : List Answer) :
    (throw fault : Exchange α).run answers = ⟨.error fault, [], answers.length⟩ := rfl

theorem run_ofResult (result : Except Fault α) (answers : List Answer) :
    (ofResult result).run answers = ⟨result, [], answers.length⟩ := rfl

theorem run_send (endpoint : Endpoint) (url : List Symbol) (headers : Option Headers)
    (reads : Int → Bool) (answers : List Answer) :
    (send endpoint url headers reads).run answers =
      ⟨((nextAnswer answers).take reads).1.mapError fun failure =>
          .unreachable endpoint failure.reason,
        [⟨url, headers, ((nextAnswer answers).take reads).2⟩], (answers.drop 1).length⟩ := rfl

theorem ofResult_ok_bind (a : α) (next : α → Exchange β) : ofResult (.ok a) >>= next = next a := rfl

-- Every exchange of this library is framed; the runs below are read off from that alone.
def Framed (exchange : Exchange α) : Prop :=
  ∀ pending sent, exchange.onWire ⟨pending, sent⟩ =
    ((exchange.run pending).result,
      ⟨pending.drop (exchange.run pending).requests.length,
        sent ++ (exchange.run pending).requests⟩)

theorem framed_ofResult (result : Except Fault α) : Framed (ofResult result) := by
  intro pending sent
  rw [onWire_ofResult, run_ofResult, List.append_nil]
  rfl

theorem framed_pure (a : α) : Framed (pure a : Exchange α) :=
  framed_ofResult (.ok a)

theorem framed_throw (fault : Fault) : Framed (throw fault : Exchange α) :=
  framed_ofResult (.error fault)

theorem framed_send (endpoint : Endpoint) (url : List Symbol) (headers : Option Headers)
    (reads : Int → Bool) : Framed (send endpoint url headers reads) := by
  intro pending sent
  rw [onWire_send, run_send]
  rfl

theorem unused_run {exchange : Exchange α} (h : Framed exchange) (answers : List Answer) :
    (exchange.run answers).unused = answers.length - (exchange.run answers).requests.length := by
  have hw : (exchange.run answers).unused = (exchange.onWire ⟨answers, []⟩).2.pending.length := rfl
  rw [hw, h answers []]
  simp

theorem drop_unused {exchange : Exchange α} (h : Framed exchange) (answers : List Answer) :
    answers.drop (answers.length - (exchange.run answers).unused) =
      answers.drop (exchange.run answers).requests.length := by
  rw [unused_run h]
  by_cases hl : (exchange.run answers).requests.length ≤ answers.length
  · rw [Nat.sub_sub_self hl]
  · rw [List.drop_eq_nil_of_le (by omega), List.drop_eq_nil_of_le (by omega)]

section Bind

variable {exchange : Exchange α} {next : α → Exchange β}

theorem run_bind (h : Framed exchange) (hn : ∀ a, Framed (next a)) (answers : List Answer) :
    (exchange >>= next).run answers =
      match (exchange.run answers).result with
      | .ok a =>
          ((next a).run (answers.drop (exchange.run answers).requests.length)).after
            (exchange.run answers).requests
      | .error fault =>
          ⟨.error fault, (exchange.run answers).requests, (exchange.run answers).unused⟩ := by
  have hb := onWire_bind exchange next ⟨answers, []⟩
  rw [h answers []] at hb
  rw [run, hb]
  cases hr : (exchange.run answers).result with
  -- What the first exchange left is what the second one counts its own answers from.
  | ok a =>
      have hu := unused_run (hn a) (answers.drop (exchange.run answers).requests.length)
      simp [hn a _ _, Outcome.after, hu, Nat.sub_sub]
  | error fault => simp [unused_run h]

theorem framed_bind (h : Framed exchange) (hn : ∀ a, Framed (next a)) :
    Framed (exchange >>= next) := by
  intro pending sent
  rw [onWire_bind, h pending sent, run_bind h hn]
  cases hr : (exchange.run pending).result with
  | ok a => simp [hn a _ _, Outcome.after]
  | error fault => rfl

end Bind

section Map

variable (f : α → β)

theorem onWire_map (exchange : Exchange α) (wire : Wire) :
    (f <$> exchange).onWire wire =
      ((exchange.onWire wire).1.map f, (exchange.onWire wire).2) := by
  have hb : (f <$> exchange).onWire wire = _ :=
    onWire_bind exchange (fun a => pure (f a)) wire
  rw [hb]
  cases exchange.onWire wire with
  | mk result wire => cases result <;> rfl

theorem run_map (exchange : Exchange α) (answers : List Answer) :
    (f <$> exchange).run answers = (exchange.run answers).map f := by
  rw [run, onWire_map]
  rfl

theorem framed_map {exchange : Exchange α} (h : Framed exchange) : Framed (f <$> exchange) := by
  intro pending sent
  rw [onWire_map, h pending sent, run_map]
  rfl

end Map

end Exchange

end ImageRegistry
