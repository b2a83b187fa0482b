import ConnectorHub.Attribute

namespace ConnectorHub

namespace Attribute

def passwordName : String := "__PASSWORD__"

def passwordExpiredName : String := "__PASSWORD_EXPIRED__"

/-- Attributes that steer an account instead of describing it. -/
def operationalNames : List String :=
  ["__ENABLE__", "__ENABLE_DATE__", "__DISABLE_DATE__", "__LOCK_OUT__",
    "__PASSWORD_EXPIRATION_DATE__", passwordExpiredName, passwordName, "__CURRENT_PASSWORD__"]

end Attribute

structure ReservedNames where
  folded : List String

namespace ReservedNames

def ofList (names : List String) : ReservedNames := ⟨names.map Text.fold⟩

def standard : ReservedNames := ofList (Attribute.operationalNames ++ [Attribute.nameName])

def contains (r : ReservedNames) (name : String) : Bool := r.folded.contains (Text.fold name)

end ReservedNames

end ConnectorHub
