import ImageRegistry.Client.Basic

namespace ImageRegistry

inductive Level where
  | info
  | warning
  | error
  deriving DecidableEq, Repr

def Level.name : Level → String
  | .info => "INFO"
  | .warning => "WARNING"
  | .error => "ERROR"

structure LogLine where
  level : Level
  text : String
  deriving DecidableEq, Repr

def LogLine.write (line : LogLine) : String :=
  line.level.name ++ " " ++ line.text

structure Progress where
  wire : Wire
  log : List LogLine

abbrev Walk := ExceptT Fault (StateM Progress)

namespace Walk

def say (level : Level) (text : String) : Walk Unit :=
  modify fun progress => { progress with log := progress.log ++ [⟨level, text⟩] }

def attempt {α : Type} (exchange : Exchange α) : Walk (Except Fault α) :=
  ExceptT.mk fun progress =>
    let (result, wire) := exchange.onWire progress.wire
    let progress := { progress with wire := wire }
    match result with
    | .ok value => (.ok (.ok value), progress)
    | .error fault => (if fault.isReported then .ok (.error fault) else .error fault, progress)

def failureLine : Fault → String
  | .rejected reason _ => "Token request rejected: " ++ Text.textOf reason
  | .refused entry url => "Registry refused " ++ url ++ ": " ++ entry.display
  | fault => "Registry error: " ++ fault.message

def platformPart (name : String) (platform : Json.Members) : String :=
  ((Json.member? name platform).getD (Json.text "?")).plain

def platformMembers (platform : Json) : Except Fault (Json.Members) :=
  match platform with
  | .obj members => .ok members
  | value => if value.isTruthy then .error .badPlatform else .ok []

def listEntry (entry : Descriptor) : Walk Unit := do
  match platformMembers entry.platform with
  | .ok platform =>
      say .info
        ("  " ++ platformPart "os" platform ++ "/" ++ platformPart "architecture" platform ++ " " ++
          entry.digest)
  | .error fault => throw fault

def layerLine (layer : Descriptor) : String :=
  "  " ++ layer.digest ++ " (" ++ String.ofList (Text.grouped layer.size) ++ " bytes)"

def describe (manifest : Manifest) : Walk Unit := do
  if manifest.isList then
    say .info ("Manifest list with " ++ toString manifest.manifests.length ++ " platforms")
    manifest.manifests.forM listEntry
  else
    say .info ("Schema version " ++ toString manifest.schemaVersion)
    manifest.layers.forM fun layer => say .info (layerLine layer)

def exchanges (client : Client) (r : Reference) : Walk (Option Manifest) := do
  match ← attempt (client.version r.registry) with
  | .ok version => say .info ("Registry " ++ r.registry ++ " speaks " ++ Text.textOf version)
  | .error fault => say .warning ("Version check failed: " ++ fault.message)
  match ← attempt (client.auth r) with
  | .error fault =>
      say .error (failureLine fault)
      pure none
  | .ok client =>
      say .info
        (if client.token.isSome then "✓ Obtained pull token" else "Registry allows anonymous pulls")
      match ← attempt (client.pull r) with
      | .error fault =>
          say .error (failureLine fault)
          pure none
      | .ok manifest => pure (some manifest)

def through (client : Client) (r : Reference) : Walk Unit := do
  match ← exchanges client r with
  | some manifest => describe manifest
  | none => pure ()

end Walk

structure Walkthrough where
  outcome : Outcome Unit
  sessions : List Session
  log : List LogLine

def walkthrough (image : String) (answers : List Answer) : Walkthrough :=
  match Reference.parse image with
  | .error error => ⟨⟨.error (.reference error), [], answers.length⟩, [], []⟩
  | .ok r =>
      let client := (Client.new "https" (.int 30)).enter
      let (result, progress) := (Walk.through client r).run.run ⟨⟨answers, []⟩, []⟩
      ⟨⟨result, progress.wire.sent, progress.wire.pending.length⟩, client.close.sessions,
        progress.log⟩

end ImageRegistry
