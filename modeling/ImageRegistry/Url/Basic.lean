import ImageRegistry.Text.Cut
import ImageRegistry.Text.Symbol
import ImageRegistry.Url.Host

namespace ImageRegistry

open Text

structure Url where
  scheme : List Char
  authority : List Symbol
  path : List Symbol
  query : List Symbol
  fragment : List Symbol
  deriving DecidableEq, Repr

namespace Url

def isLeading (c : Char) : Bool :=
  c.toNat ≤ 0x20

def isDropped (c : Char) : Bool :=
  c == '\t' || c == '\r' || c == '\n'

def clean (text : List Symbol) : List Symbol :=
  (text.dropWhile (Symbol.is isLeading)).filter fun symbol => !symbol.is isDropped

def isSchemeChar (c : Char) : Bool :=
  c.isAlphanum || c == '+' || c == '-' || c == '.'

def isScheme : List Char → Bool
  | c :: rest => c.isAlpha && rest.all isSchemeChar
  | [] => false

def splitScheme (text : List Symbol) : List Char × List Symbol :=
  match cutFirst (.char ':') text with
  | some (scheme, rest) =>
      if isScheme (charsOf scheme) then ((charsOf scheme).map Char.toLower, rest) else ([], text)
  | none => ([], text)

def endsAuthority (c : Char) : Bool :=
  c == '/' || c == '?' || c == '#'

def splitAuthority : List Symbol → List Symbol × List Symbol
  | .char '/' :: .char '/' :: rest =>
      (rest.takeWhile fun symbol => !symbol.is endsAuthority,
        rest.dropWhile fun symbol => !symbol.is endsAuthority)
  | text => ([], text)

def splitAt (c : Char) (text : List Symbol) : List Symbol × List Symbol :=
  (cutFirst (.char c) text).getD (text, [])

-- For what an authority can be, a half counts as the replacement character: neither is a mark, a
-- digit or a character that unfolds.
def split? (text : List Symbol) : Option Url :=
  let (scheme, rest) := splitScheme (clean text)
  let (authority, rest) := splitAuthority rest
  let (rest, fragment) := splitAt '#' rest
  let (path, query) := splitAt '?' rest
  if isAuthority (charsOf authority) then some ⟨scheme, authority, path, query, fragment⟩ else none

def authoritySchemes : List String :=
  ["ftp", "http", "gopher", "nntp", "telnet", "imap", "wais", "file", "mms", "https", "shttp",
   "snews", "prospero", "rtsp", "rtspu", "rsync", "svn", "svn+ssh", "sftp", "nfs", "git",
   "git+ssh", "ws", "wss"]

def hasAuthority (url : Url) : Bool :=
  !url.authority.isEmpty ||
    (authoritySchemes.any (fun scheme => scheme.toList == url.scheme) &&
      !([.char '/', .char '/'].isPrefixOf url.path))

def joinPath (url : Url) : List Symbol :=
  if url.hasAuthority then
    let slash := !url.path.isEmpty && url.path.head? != some (.char '/')
    .char '/' :: .char '/' :: url.authority ++ (if slash then .char '/' :: url.path else url.path)
  else url.path

def marked (mark : Char) (part : List Symbol) : List Symbol :=
  if part.isEmpty then [] else .char mark :: part

def join (url : Url) : List Symbol :=
  (if url.scheme.isEmpty then [] else symbolsOf url.scheme ++ [.char ':']) ++ url.joinPath ++
    marked '?' url.query ++ marked '#' url.fragment

end Url

end ImageRegistry
