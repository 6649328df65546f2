import ImageRegistry.AccessToken

namespace ImageRegistry

structure TokenStore where
  token : Option AccessToken
  deriving DecidableEq, Repr

namespace TokenStore

def empty : TokenStore := ⟨none⟩

def replace (_ : TokenStore) (token : AccessToken) : TokenStore := ⟨some token⟩

def receive (store : TokenStore) : Except DecodeError AccessToken → TokenStore
  | .ok token => store.replace token
  | .error _ => store

def authorization (store : TokenStore) : Option (List Text.Symbol) :=
  store.token.map AccessToken.bearer

end TokenStore

end ImageRegistry
