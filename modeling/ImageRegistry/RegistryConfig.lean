import ImageRegistry.Json.Value

namespace ImageRegistry

abbrev TimeLimit := Json

structure RegistryConfig where
  host : String
  scheme : String := "https"
  timeout : TimeLimit := .int 30
  deriving Repr

namespace RegistryConfig

def baseUrl (config : RegistryConfig) : String :=
  config.scheme ++ "://" ++ config.host

def apiUrl (config : RegistryConfig) : String :=
  config.baseUrl ++ "/v2/"

end RegistryConfig

end ImageRegistry
