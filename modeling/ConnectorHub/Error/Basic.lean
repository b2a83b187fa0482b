import ConnectorHub.Identifiers
import ConnectorHub.Operation

namespace ConnectorHub

/-- What can go wrong, by cause. Connectors fail with the same errors as the hub, so a connector's
error reaches the caller as it was raised. -/
inductive Error where
  | invalidArgument (argument message : String)
  | duplicateAttribute (name : String)
  | invalidAttributeSet (message : String)
  | invalidDelta (name reason : String)
  | invalidObject (message : String)
  | unknownUid (objectClass uid : String)
  | objectExists (identifier : String)
  | notSupported (operation : Operation)
  | connectionFailed (message : String) (source : Option String)
  | connectionTimeout (seconds : Nat)
  | targetUnavailable (message : String)
  | networkError (message : String) (source : Option String)
  | authenticationFailed
  | passwordExpired
  | permissionDenied (operation : String)
  | constraintViolation (message : String)
  | invalidData (message : String)
  | operationFailed (message : String) (source : Option String)
  | invalidConfiguration (message : String)
  | notRegistered (key : ConnectorKey)
  | poolExhausted (waited : Nat)
  | internal (message : String) (source : Option String)
  | serialization (message : String)
  deriving DecidableEq

namespace Error

def message : Error → String
  | invalidArgument argument m => "invalid argument '" ++ argument ++ "': " ++ m
  | duplicateAttribute name => "duplicate attribute name: " ++ name
  | invalidAttributeSet m => "invalid attribute set: " ++ m
  | invalidDelta name reason =>
    "invalid delta for attribute '" ++ name ++ "': " ++ reason
  | invalidObject m => "invalid object: " ++ m
  | unknownUid objectClass uid =>
    "unknown uid '" ++ uid ++ "' for object class '" ++ objectClass ++ "'"
  | objectExists identifier => "object already exists: " ++ identifier
  | notSupported operation =>
    "operation '" ++ operation.name ++ "' is not supported by this connector"
  | connectionFailed m _ => "connection failed: " ++ m
  | connectionTimeout seconds => "connection timeout after " ++ toString seconds ++ " seconds"
  | targetUnavailable m => "target system unavailable: " ++ m
  | networkError m _ => "network error: " ++ m
  | authenticationFailed => "authentication failed: invalid credentials"
  | passwordExpired => "authentication failed: password expired"
  | permissionDenied operation => "permission denied for " ++ operation
  | constraintViolation m => "constraint violation: " ++ m
  | invalidData m => "invalid data: " ++ m
  | operationFailed m _ => "operation failed: " ++ m
  | invalidConfiguration m => "invalid configuration: " ++ m
  | notRegistered key => "connector not registered: " ++ key.display
  | poolExhausted waited => "connector pool exhausted after waiting " ++ toString waited ++ " ms"
  | internal m _ => "internal error: " ++ m
  | serialization m => "serialization error: " ++ m

def code : Error → String
  | invalidArgument .. => "INVALID_ARGUMENT"
  | duplicateAttribute .. => "DUPLICATE_ATTRIBUTE"
  | invalidAttributeSet .. => "INVALID_ATTRIBUTE_SET"
  | invalidDelta .. => "INVALID_DELTA"
  | invalidObject .. => "INVALID_OBJECT"
  | unknownUid .. => "UNKNOWN_UID"
  | objectExists .. => "OBJECT_EXISTS"
  | notSupported .. => "OPERATION_NOT_SUPPORTED"
  | connectionFailed .. => "CONNECTION_FAILED"
  | connectionTimeout .. => "CONNECTION_TIMEOUT"
  | targetUnavailable .. => "TARGET_UNAVAILABLE"
  | networkError .. => "NETWORK_ERROR"
  | authenticationFailed => "AUTH_FAILED"
  | passwordExpired => "PASSWORD_EXPIRED"
  | permissionDenied .. => "PERMISSION_DENIED"
  | constraintViolation .. => "CONSTRAINT_VIOLATION"
  | invalidData .. => "INVALID_DATA"
  | operationFailed .. => "OPERATION_FAILED"
  | invalidConfiguration .. => "INVALID_CONFIG"
  | notRegistered .. => "CONNECTOR_NOT_REGISTERED"
  | poolExhausted .. => "POOL_EXHAUSTED"
  | internal .. => "INTERNAL_ERROR"
  | serialization .. => "SERIALIZATION_ERROR"

/-- The call may succeed when it is made again. -/
def isTransient : Error → Bool
  | connectionFailed .. | connectionTimeout .. | targetUnavailable .. | networkError ..
  | poolExhausted .. => true
  | _ => false

def isPermanent (e : Error) : Bool := !e.isTransient

/-- The text of an underlying error, where there is one. -/
def source? : Error → Option String
  | connectionFailed _ s | networkError _ s | operationFailed _ s | internal _ s => s
  | _ => none

end Error

end ConnectorHub
