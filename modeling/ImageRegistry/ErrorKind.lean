namespace ImageRegistry

inductive ErrorKind where
  | registry
  | connection
  | validation
  | decode
  | missingVersion
  | malformedChallenge
  | authentication
  | manifest
  | manifestClient
  | manifestServer
  | unexpectedStatus
  deriving DecidableEq, Repr

namespace ErrorKind

def all : List ErrorKind :=
  [registry, connection, validation, decode, missingVersion, malformedChallenge, authentication,
   manifest, manifestClient, manifestServer, unexpectedStatus]

def name : ErrorKind → String
  | registry => "RegistryError"
  | connection => "RegistryConnectionError"
  | validation => "ValidationError"
  | decode => "DecodeError"
  | missingVersion => "MissingVersionHeaderError"
  | malformedChallenge => "MalformedChallengeError"
  | authentication => "AuthenticationError"
  | manifest => "ManifestError"
  | manifestClient => "ManifestClientError"
  | manifestServer => "ManifestServerError"
  | unexpectedStatus => "UnexpectedStatusError"

def ofName? (name : String) : Option ErrorKind :=
  all.find? fun kind => kind.name == name

def generalizations : ErrorKind → List ErrorKind
  | registry => []
  | manifestClient | manifestServer | unexpectedStatus => [manifest, registry]
  | _ => [registry]

end ErrorKind

end ImageRegistry
