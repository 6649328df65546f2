import ImageRegistry.Client.Basic

namespace ImageRegistry

inductive Step where
  | enter
  | leave
  | close
  | closeSession
  | version (host : String) (answers : List Answer)
  | auth (image : Image) (answers : List Answer)
  | pull (image : Image) (answers : List Answer)
  deriving Repr

inductive Reply where
  | entered
  | done
  | version (version : List Text.Symbol)
  | manifest (manifest : Manifest)
  deriving Repr

structure Row where
  outcome : Outcome Reply
  store : TokenStore
  openness : Option Bool
  sessions : List Session

namespace Client

def row (client : Client) (outcome : Outcome Reply) : Row :=
  ⟨outcome, client.store, client.openness, client.sessions⟩

def quiet (reply : Reply) : Outcome Reply :=
  ⟨.ok reply, [], 0⟩

def about {α : Type} (image : Image) (exchange : Reference → Exchange α) : Exchange α :=
  match image.resolve with
  | .ok r => exchange r
  | .error error => throw (.reference error)

def exchangeStep {α : Type} (client : Client) (answers : List Answer) (exchange : Exchange α)
    (next : α → Client) (reply : α → Reply) : Row × Client :=
  let outcome := exchange.run answers
  match outcome.result with
  | .ok value =>
      ((next value).row ⟨.ok (reply value), outcome.requests, outcome.unused⟩, next value)
  | .error fault => (client.row ⟨.error fault, outcome.requests, outcome.unused⟩, client)

def step (client : Client) : Step → Row × Client
  | .enter => (client.enter.row (quiet .entered), client.enter)
  | .leave => (client.close.row (quiet .done), client.close)
  | .close => (client.close.row (quiet .done), client.close)
  | .closeSession => (client.closeSession.row (quiet .done), client.closeSession)
  | .version host answers =>
      client.exchangeStep answers (client.version host) (fun _ => client) .version
  | .auth image answers =>
      client.exchangeStep answers (about image client.auth) id fun _ => .done
  | .pull image answers =>
      client.exchangeStep answers (about image client.pull) (fun _ => client) .manifest

def steps (client : Client) : List Step → List Row
  | [] => []
  | step :: rest => (client.step step).1 :: (client.step step).2.steps rest

end Client

end ImageRegistry
