import ImageRegistry.Fault

namespace ImageRegistry

inductive Attribute where
  | value (value : Json)
  | entry (entry : ErrorEntry)
  deriving Repr

structure Report where
  kind : ErrorKind
  message : String
  attributes : List (String × Attribute)
  deriving Repr

def Fault.attributes : Fault → List (String × Attribute)
  | .rejected reason status =>
      [("reason", .value (.str reason)), ("status", .value (.int status))]
  | .refused entry url => [("entry", .entry entry), ("url", .value (Json.text url))]
  | .server url => [("url", .value (Json.text url))]
  | .unexpected status url body =>
      [("status", .value (.int status)), ("url", .value (Json.text url)),
       ("body", .value (Json.text body))]
  | _ => []

def Fault.report? (fault : Fault) : Option Report :=
  fault.kind?.map fun kind => ⟨kind, fault.message, fault.attributes⟩

def plainMessage : List Json → String
  | [] => ""
  | [argument] => argument.plain
  | arguments =>
      "(" ++ String.ofList (Json.listed (arguments.map Json.display)) ++ ")"

def rejection (reason status : Json) : Report :=
  { kind := .authentication
    message := "failed to authenticate: " ++ reason.plain
    attributes := [("reason", .value reason), ("status", .value status)] }

def ErrorKind.report? (kind : ErrorKind) (arguments : List Json) : Option Report :=
  match kind, arguments with
  | .authentication, [reason] => some (rejection reason .null)
  | .authentication, [reason, status] => some (rejection reason status)
  | .manifestClient, [error, url] =>
      some
        { kind
          message := error.plain ++ " on " ++ url.plain
          attributes := [("entry", .value error), ("url", .value url)] }
  | .manifestServer, [url] => some ⟨kind, "Server error at " ++ url.plain, [("url", .value url)]⟩
  | .unexpectedStatus, [status, url, body] =>
      some
        { kind
          message :=
            "An unexpected error occurred: code=" ++ status.plain ++ ", url=" ++ url.plain ++
              ", message='" ++ body.plain ++ "'"
          attributes := [("status", .value status), ("url", .value url), ("body", .value body)] }
  | .authentication, _ | .manifestClient, _ | .manifestServer, _ | .unexpectedStatus, _ => none
  | _, _ => some ⟨kind, plainMessage arguments, []⟩

end ImageRegistry
