import ImageRegistry.Text.Cut
import ImageRegistry.Text.Word

namespace ImageRegistry.Reference

open Text

def isNameChar (c : Char) : Bool :=
  ('a' ≤ c && c ≤ 'z') || c.isDigit

inductive Stage where
  | fresh
  | run
  | underscore
  | dashes
  deriving DecidableEq, Repr

def Stage.next? : Stage → Char → Option Stage
  | .run, '.' => some .fresh
  | .run, '_' => some .underscore
  | .run, '-' => some .dashes
  | .underscore, '_' => some .fresh
  | .dashes, '-' => some .dashes
  | _, c => if isNameChar c then some .run else none

def Stage.accepts : Stage → List Char → Bool
  | stage, [] => stage == .run
  | stage, c :: text =>
      match stage.next? c with
      | some next => next.accepts text
      | none => false

def isComponent (text : List Char) : Bool :=
  Stage.fresh.accepts (withoutFinalBreak text)

def isRepository (text : List Char) : Bool :=
  (pieces '/' text).all isComponent

def isTagChar (c : Char) : Bool :=
  isWord c || c == '.' || c == '-'

def isTag (text : List Char) : Bool :=
  match withoutFinalBreak text with
  | c :: rest => isWord c && rest.length ≤ 127 && rest.all isTagChar
  | [] => false

end ImageRegistry.Reference
