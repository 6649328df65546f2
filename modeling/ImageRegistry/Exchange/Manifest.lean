import ImageRegistry.Exchange.Wire

namespace ImageRegistry

open Text

def acceptedTypes : List String := [manifestType, manifestListType]

def manifestHeaders (authorization : Option (List Symbol)) : Headers :=
  ("Accept", symbols (",".intercalate acceptedTypes)) ::
    (authorization.map fun value => ("Authorization", value)).toList

def isServerError (status : Int) : Bool :=
  500 ≤ status && status < 600

def classifyManifest (status : Int) (body : List UInt8) (url : String) : Except Fault Manifest :=
  if status = 200 then (Manifest.decode body).mapError .ofManifest
  else if 400 ≤ status ∧ status < 500 then
    match ErrorEnvelope.decode body with
    | .ok envelope => .error (.refused envelope.first url)
    | .error error => .error (.undecodable error)
  else if isServerError status then .error (.server url)
  else .error (.unexpected status url (String.ofList (Text.Utf8.decodeLossy body)))

def fetchManifest (r : Reference) (authorization : Option (List Symbol)) (scheme : String) :
    Exchange Manifest := do
  let url := r.manifestUrl scheme
  let arrival ← Exchange.send (.manifest url) (symbols url) (some (manifestHeaders authorization))
    fun status => !isServerError status
  Exchange.ofResult (classifyManifest arrival.status arrival.body url)

end ImageRegistry
