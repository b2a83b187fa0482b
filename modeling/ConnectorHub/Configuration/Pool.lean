import ConnectorHub.Error.Basic
import ConnectorHub.Json.Document

namespace ConnectorHub

/-- How many instances there may be, how many wait idle, how long a borrow waits and how old an idle
instance grows; times are in milliseconds. -/
structure PoolSettings where
  maxObjects : UInt32 := 10
  maxIdle : UInt32 := 10
  minIdle : UInt32 := 1
  maxWait : UInt64 := 150000
  minEvictableIdle : UInt64 := 120000
  deriving DecidableEq

namespace PoolSettings

def standard : PoolSettings := {}

def validate (s : PoolSettings) : Except Error Unit :=
  if s.maxObjects = 0 then .error (.invalidConfiguration "max_objects must be at least 1")
  else if s.maxIdle < s.minIdle then
    .error (.invalidConfiguration "max_idle must be greater than or equal to min_idle")
  else if s.maxObjects < s.maxIdle then
    .error (.invalidConfiguration "max_objects must be greater than or equal to max_idle")
  else .ok ()

/-- A duration as whole milliseconds, the largest number of them at most. -/
def milliseconds (seconds nanos : Nat) : UInt64 :=
  UInt64.ofNat (min (seconds * 1000 + nanos / 1000000) (UInt64.size - 1))

/-- Milliseconds as seconds and nanoseconds. -/
def duration (ms : UInt64) : Nat × Nat := (ms.toNat / 1000, ms.toNat % 1000 * 1000000)

/-- One setting by its name: a count, or a time of so many seconds and nanoseconds. -/
def set? (s : PoolSettings) (name : String) (n nanos : Nat) : Option PoolSettings :=
  match name with
  | "max_objects" => some { s with maxObjects := UInt32.ofNat n }
  | "max_idle" => some { s with maxIdle := UInt32.ofNat n }
  | "min_idle" => some { s with minIdle := UInt32.ofNat n }
  | "max_wait" => some { s with maxWait := milliseconds n nanos }
  | "min_evictable_idle" => some { s with minEvictableIdle := milliseconds n nanos }
  | _ => none

def ofDocument? (j : Json) : Option PoolSettings := do
  let fields ← Document.fields? j
  let maxObjects ← Document.withDefault fields "max_objects" standard.maxObjects Document.word32?
  let maxIdle ← Document.withDefault fields "max_idle" standard.maxIdle Document.word32?
  let minIdle ← Document.withDefault fields "min_idle" standard.minIdle Document.word32?
  let maxWait ← Document.withDefault fields "max_wait_ms" standard.maxWait Document.word64?
  let minEvictableIdle ←
    Document.withDefault fields "min_evictable_idle_ms" standard.minEvictableIdle Document.word64?
  pure ⟨maxObjects, maxIdle, minIdle, maxWait, minEvictableIdle⟩

def fields (s : PoolSettings) : Fields :=
  [("max_objects", Document.word s.maxObjects.toNat),
    ("max_idle", Document.word s.maxIdle.toNat), ("min_idle", Document.word s.minIdle.toNat),
    ("max_wait_ms", Document.word s.maxWait.toNat),
    ("min_evictable_idle_ms", Document.word s.minEvictableIdle.toNat)]

def toDocument (s : PoolSettings) : Json := .ofFields s.fields

end PoolSettings

end ConnectorHub
