import ImageRegistry.Digest
import ImageRegistry.Reference.Basic
import ImageRegistry.Reference.Grammar
import ImageRegistry.Text.Blank
import ImageRegistry.Text.Quoted

namespace ImageRegistry

open Text

inductive ReferenceError where
  | empty
  | digest (text : String)
  | repository (text : String)
  | tag (text : String)
  deriving DecidableEq, Repr

def ReferenceError.message : ReferenceError → String
  | empty => "Image reference must not be empty"
  | digest text => "Invalid digest format: " ++ text
  | repository text => "Invalid repository name: " ++ String.ofList (quoted text.toList)
  | tag text => "Invalid tag: " ++ String.ofList (quoted text.toList)

namespace Reference

-- A colon in front of a slash is that of a port.
def splitTag (text : List Char) : List Char × Option (List Char) :=
  match cutLast ':' text with
  | some (name, tag) => if '/' ∈ tag then (text, none) else (name, some tag)
  | none => (text, none)

def orLatest (tag : List Char) : List Char :=
  if tag.isEmpty then defaultTag.toList else tag

def repositoryTag (text : String) : String × String :=
  let (name, tag) := splitTag text.toList
  (String.ofList name, String.ofList (orLatest (tag.getD [])))

def isHost (text : List Char) : Bool :=
  text.contains '.' || text.contains ':' || text == "localhost".toList

def canonicalHost (host : List Char) : List Char :=
  if hubNames.any fun name => name.toList == host then hub.toList else host

def splitRegistry (name : List Char) : List Char × List Char :=
  match cutFirst '/' name with
  | some (first, rest) => if isHost first then (canonicalHost first, rest) else (hub.toList, name)
  | none => (hub.toList, name)

def qualify (registry name : List Char) : List Char :=
  if registry = hub.toList ∧ '/' ∉ name then "library/".toList ++ name else name

def splitDigest (text : List Char) : Except ReferenceError (List Char × Option (List Char)) :=
  match cutFirst '@' text with
  | some (name, digest) =>
      if Digest.isDigest digest then .ok (name, some digest)
      else .error (.digest (String.ofList digest))
  | none => .ok (text, none)

def chooseTag (tag digest : Option (List Char)) : Option (List Char) :=
  match tag, digest with
  | some tag, _ => some (orLatest tag)
  | none, some _ => none
  | none, none => some defaultTag.toList

def ofParts (registry name : List Char) (tag digest : Option (List Char)) :
    Except ReferenceError Reference :=
  if !isRepository name then .error (.repository (String.ofList name))
  else
    match tag.filter fun tag => !isTag tag with
    | some tag => .error (.tag (String.ofList tag))
    | none =>
        .ok ⟨String.ofList registry, String.ofList name, tag.map String.ofList,
          digest.map String.ofList⟩

-- References, registries and digests are given as strings, in which no half stands alone.
def parse (image : String) : Except ReferenceError Reference :=
  match strip image.toList with
  | [] => .error .empty
  | text => do
      let (name, digest) ← splitDigest text
      let (registry, rest) := splitRegistry name
      let (name, tag) := splitTag rest
      ofParts registry (qualify registry name) (chooseTag tag digest) digest

end Reference

inductive Image where
  | name (text : String)
  | reference (r : Reference)
  deriving DecidableEq, Repr

def Image.resolve : Image → Except ReferenceError Reference
  | .name text => Reference.parse text
  | .reference r => .ok r

end ImageRegistry
