import ImageRegistry.AccessToken
import ImageRegistry.Challenge.Bearer
import ImageRegistry.Exchange.Wire
import ImageRegistry.RegistryConfig
import ImageRegistry.TokenUrl

namespace ImageRegistry

open Text

def challengeHeader : String := "WWW-Authenticate"

def discoverChallenge (config : RegistryConfig) : Exchange (Option (Bearer (List Symbol))) := do
  let arrival ← Exchange.send (.api config.apiUrl) (symbols config.apiUrl) none fun _ => false
  Exchange.ofResult
    ((Bearer.ofHeader (header? arrival.headers challengeHeader)).mapError .ofChallenge)

def filledField (error : ChallengeError) (value : Option (List Symbol)) :
    Except Fault (List Symbol) :=
  match value.filter fun text => !text.isEmpty with
  | some value => .ok value
  | none => .error (.challenge error)

def tokenOf (arrival : Arrival) : Except Fault AccessToken :=
  if arrival.status = 200 then (AccessToken.decode .literal arrival.body).mapError .undecodable
  else
    match arrival.charset.read arrival.body with
    | .ok reason => .error (.rejected reason arrival.status)
    | .error error => .error (.charset error)

def requestToken (challenge : Bearer (List Symbol)) (repository : List Symbol) :
    Exchange AccessToken := do
  let realm ← Exchange.ofResult (filledField .noRealm challenge.realm)
  let service ← Exchange.ofResult (filledField .noService challenge.service)
  match tokenUrl realm service (pullScope repository) with
  | .error error => throw (.tokenUrl error)
  | .ok url =>
      let arrival ← Exchange.send (.token realm) url none fun _ => true
      Exchange.ofResult (tokenOf arrival)

def authenticate (config : RegistryConfig) (repository : List Symbol) :
    Exchange (Option AccessToken) := do
  match ← discoverChallenge config with
  | none => pure none
  | some challenge => some <$> requestToken challenge repository

end ImageRegistry
