import ImageRegistry.Exchange.Manifest
import ImageRegistry.Exchange.Token
import ImageRegistry.Exchange.Version
import ImageRegistry.TokenStore

namespace ImageRegistry

open Text

structure Session where
  timeout : TimeLimit
  closed : Bool
  deriving Repr

structure Client where
  scheme : String
  timeout : TimeLimit
  sessions : List Session
  held : Option Nat
  store : TokenStore
  deriving Repr

namespace Client

def new (scheme : String) (timeout : TimeLimit) : Client :=
  ⟨scheme, timeout, [], none, .empty⟩

-- A session that is held is kept, be it closed.
def enter (client : Client) : Client :=
  if client.held.isSome then client
  else
    { client with
      sessions := client.sessions ++ [⟨client.timeout, false⟩]
      held := some client.sessions.length }

def closeSession (client : Client) : Client :=
  match client.held with
  | some i =>
      { client with
        sessions := client.sessions.modify i fun session => { session with closed := true } }
  | none => client

def close (client : Client) : Client :=
  { client.closeSession with held := none }

def openness (client : Client) : Option Bool :=
  client.held.map fun i => (client.sessions[i]?.map fun session => !session.closed).getD false

def isOpen (client : Client) : Bool :=
  client.openness == some true

def token (client : Client) : Option AccessToken :=
  client.store.token

def config (client : Client) (host : String) : RegistryConfig :=
  ⟨host, client.scheme, client.timeout⟩

def inSession {α : Type} (client : Client) (exchange : Exchange α) : Exchange α :=
  if client.isOpen then exchange else throw .outOfSession

def version (client : Client) (host : String) : Exchange (List Symbol) :=
  client.inSession (fetchVersion (client.config host))

def auth (client : Client) (r : Reference) : Exchange Client :=
  client.inSession do
    match ← authenticate (client.config r.registry) (symbols r.repository) with
    | some token => pure { client with store := client.store.replace token }
    | none => pure client

def pull (client : Client) (r : Reference) : Exchange Manifest :=
  client.inSession (fetchManifest r client.store.authorization client.scheme)

end Client

end ImageRegistry
