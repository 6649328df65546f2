import ImageRegistry.Url.Basic
import ImageRegistry.Url.Form

namespace ImageRegistry

open Text

def pullScope (repository : List Symbol) : List Symbol :=
  symbols "repository:" ++ repository ++ symbols ":pull"

def isTokenParameter (name : List Symbol) : Bool :=
  name == symbols "service" || name == symbols "scope"

def tokenPairs (query service scope : List Symbol) : Url.Pairs :=
  ((Url.readPairs query).filter fun pair => !isTokenParameter pair.1) ++
    [(symbols "service", service), (symbols "scope", scope)]

inductive TokenUrlError where
  | badAuthority
  | unencodable
  deriving DecidableEq, Repr

def tokenUrl (realm service scope : List Symbol) : Except TokenUrlError (List Symbol) :=
  match Url.split? realm with
  | none => .error .badAuthority
  | some url =>
      match Url.writePairs? (tokenPairs url.query service scope) with
      | none => .error .unencodable
      | some query => .ok { url with query := symbolsOf query }.join

end ImageRegistry
