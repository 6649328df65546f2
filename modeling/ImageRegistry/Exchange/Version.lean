import ImageRegistry.Exchange.Wire
import ImageRegistry.RegistryConfig

namespace ImageRegistry

open Text

def versionHeader : String := "Docker-Distribution-Api-Version"

def advertisedVersion? {α : Type} (lookup : String → Option α) : Option α :=
  lookup versionHeader

def fetchVersion (config : RegistryConfig) : Exchange (List Symbol) := do
  let arrival ← Exchange.send (.api config.apiUrl) (symbols config.apiUrl) none fun _ => false
  match advertisedVersion? (header? arrival.headers) with
  | some version => pure version
  | none => throw (.noVersion config.baseUrl)

end ImageRegistry
