import ImageRegistry.Client.Steps

namespace ImageRegistry

structure Visit (α : Type) where
  outcome : Outcome α
  sessions : List Session

def Exchange.onSession {α : Type} (exchange : Exchange α) (timeout : TimeLimit)
    (answers : List Answer) : Visit α :=
  ⟨exchange.run answers, [⟨timeout, false⟩]⟩

def Client.visit {α : Type} (client : Client) (exchange : Client → Exchange α)
    (answers : List Answer) : Visit α :=
  ⟨(exchange client.enter).run answers, client.enter.close.sessions⟩

def getApiVersion (host scheme : String) (timeout : TimeLimit) (answers : List Answer) :
    Visit (List Text.Symbol) :=
  (Client.new scheme timeout).visit (fun client => client.version host) answers

def Client.pullWith (client : Client) (handshake : Bool) (r : Reference) : Exchange Manifest := do
  let client ← if handshake then client.auth r else pure client
  client.pull r

def pullManifest (image : Image) (handshake : Bool) (scheme : String) (timeout : TimeLimit)
    (answers : List Answer) : Visit Manifest :=
  match image.resolve with
  | .ok r => (Client.new scheme timeout).visit (fun client => client.pullWith handshake r) answers
  | .error error => ⟨⟨.error (.reference error), [], answers.length⟩, []⟩

end ImageRegistry
