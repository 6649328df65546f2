import ImageRegistry.Text.Cut
import ImageRegistry.Url.Percent

namespace ImageRegistry.Url

open Text

abbrev Pairs := List (List Symbol × List Symbol)

def readPair (piece : List Symbol) : List Symbol × List Symbol :=
  match cutFirst (.char '=') piece with
  | some (name, value) => (decode name, decode value)
  | none => (decode piece, [])

def readPairs (query : List Symbol) : Pairs :=
  ((pieces (.char '&') query).filter fun piece => !piece.isEmpty).map readPair

def writePair? (pair : List Symbol × List Symbol) : Option (List Char) := do
  let name ← encode? pair.1
  let value ← encode? pair.2
  pure (name ++ '=' :: value)

def writePairs? (pairs : Pairs) : Option (List Char) :=
  (pairs.mapM writePair?).map fun parts => (parts.intersperse ['&']).flatten

end ImageRegistry.Url
