namespace ImageRegistry

structure Reference where
  registry : String
  repository : String
  tag : Option String
  digest : Option String
  deriving DecidableEq, Repr

namespace Reference

def defaultTag : String := "latest"

def hub : String := "registry-1.docker.io"

def hubNames : List String := ["docker.io", "index.docker.io", hub]

def filled? (text : Option String) : Option String :=
  text.filter fun text => !text.isEmpty

def manifestName (r : Reference) : String :=
  ((filled? r.digest).or (filled? r.tag)).getD defaultTag

def manifestUrl (r : Reference) (scheme : String) : String :=
  scheme ++ "://" ++ r.registry ++ "/v2/" ++ r.repository ++ "/manifests/" ++ r.manifestName

protected def toString (r : Reference) : String :=
  r.registry ++ "/" ++ r.repository ++
    (((filled? r.tag).map (":" ++ ·)).getD "") ++ (((filled? r.digest).map ("@" ++ ·)).getD "")

instance : ToString Reference := ⟨Reference.toString⟩

end Reference

end ImageRegistry
