import ConnectorHub.Configuration.Basic

namespace ConnectorHub

/-- Settings bound from properties: those of a connector that talks to one server. -/
structure ServerSettings where
  host : String
  port : UInt16 := 389
  tls : Bool := false
  bases : List String := []
  deriving DecidableEq

namespace ServerSettings

def ofFields? (fields : Fields) : Option ServerSettings := do
  let host ← Document.required fields "host" Document.text?
  let port ← Document.withDefault fields "port" 389 Document.word16?
  let tls ← Document.withDefault fields "tls" false Document.bool?
  let bases ← Document.withDefault fields "bases" [] (Document.list? Document.text?)
  pure ⟨host, port, tls, bases⟩

def check (s : ServerSettings) : Except Error Unit :=
  if s.host.isEmpty then .error (.invalidConfiguration "host is required")
  else if s.port = 0 then .error (.invalidConfiguration "port must not be 0")
  else .ok ()

end ServerSettings

end ConnectorHub
