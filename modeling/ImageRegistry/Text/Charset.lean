import ImageRegistry.Text.Symbol

namespace ImageRegistry.Text

-- What reading can end in where a character set was named that is known but is none for texts, or
-- that cannot replace what is ill-formed.
inductive CharsetError where
  | notText
  | notReplaced
  deriving DecidableEq, Repr

-- How the transport reads a body as a text: as UTF-8, unless the answer names another character
-- set.
inductive Charset where
  | utf8
  | named (decode : List UInt8 → Except CharsetError (List Symbol))

instance : Repr Charset where
  reprPrec
    | .utf8, _ => "utf8"
    | .named _, _ => "named"

def Charset.read : Charset → List UInt8 → Except CharsetError (List Symbol)
  | utf8, body => .ok (symbolsOf (Utf8.decodeLossy body))
  | named decode, body => decode body

end ImageRegistry.Text
