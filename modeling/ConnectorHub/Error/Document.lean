import ConnectorHub.Error.Basic
import ConnectorHub.Json.Document

namespace ConnectorHub

def ConnectorKey.ofDocument? : Json → Option ConnectorKey
  | .list [.text bundle, .text version, .text name] => some ⟨bundle, version, name⟩
  | _ => none

namespace Error

def ofDocument? (j : Json) : Option Error := do
  let fields ← Document.fields? j
  let code ← Document.required fields "code" Document.text?
  let text := fun name => Document.required fields name Document.text?
  let number := fun name => Document.required fields name (Document.natBelow? UInt64.size)
  let source := (Document.lookup fields "source").bind Document.text?
  match code with
  | "INVALID_ARGUMENT" => return .invalidArgument (← text "argument") (← text "message")
  | "DUPLICATE_ATTRIBUTE" => return .duplicateAttribute (← text "name")
  | "INVALID_ATTRIBUTE_SET" => return .invalidAttributeSet (← text "message")
  | "INVALID_DELTA" => return .invalidDelta (← text "attribute") (← text "reason")
  | "INVALID_OBJECT" => return .invalidObject (← text "message")
  | "UNKNOWN_UID" => return .unknownUid (← text "object_class") (← text "uid")
  | "OBJECT_EXISTS" => return .objectExists (← text "identifier")
  | "OPERATION_NOT_SUPPORTED" =>
    return .notSupported (← Document.required fields "operation" Operation.ofDocument?)
  | "CONNECTION_FAILED" => return .connectionFailed (← text "message") source
  | "CONNECTION_TIMEOUT" => return .connectionTimeout (← number "timeout_secs")
  | "TARGET_UNAVAILABLE" => return .targetUnavailable (← text "message")
  | "NETWORK_ERROR" => return .networkError (← text "message") source
  | "AUTH_FAILED" => return .authenticationFailed
  | "PASSWORD_EXPIRED" => return .passwordExpired
  | "PERMISSION_DENIED" => return .permissionDenied (← text "operation")
  | "CONSTRAINT_VIOLATION" => return .constraintViolation (← text "message")
  | "INVALID_DATA" => return .invalidData (← text "message")
  | "OPERATION_FAILED" => return .operationFailed (← text "message") source
  | "INVALID_CONFIG" => return .invalidConfiguration (← text "message")
  | "CONNECTOR_NOT_REGISTERED" =>
    return .notRegistered (← Document.required fields "key" ConnectorKey.ofDocument?)
  | "POOL_EXHAUSTED" => return .poolExhausted (← number "waited_ms")
  | "INTERNAL_ERROR" => return .internal (← text "message") source
  | "SERIALIZATION_ERROR" => return .serialization (← text "message")
  | _ => none

end Error

end ConnectorHub
