import ConnectorHub.Proofs.Connector.Scripted
import ConnectorHub.Proofs.Hub.Frame
import ConnectorHub.Proofs.Hub.Making
import ConnectorHub.Proofs.Hub.Writes
import ConnectorHub.Proofs.Pool.Ready

namespace ConnectorHub

open ConnectorHub.Action
open Pool (Ready)

variable {σ κ τ ρ α : Type}

inductive Answer (ρ : Type) where
  | called (x : Request ρ) (result : Except Stop x.Reply) (caller : ρ)
  | validated (result : Except Stop Unit)

namespace Facade

/-- A facade for a context of its own. -/
def make (f : Factory σ κ) (c : Configuration) (reserved : ReservedNames) :
    Action (World σ κ) (Facade σ κ) := do
  let context ← Context.new f c
  Facade.new context reserved

end Facade

namespace Lease

variable {f : Factory σ κ} {c : Configuration} {known : Instance σ κ → Prop}
  {I : Site σ κ → Prop} {m n : Nat} {l : Lease σ κ} (h : f.Steady c.properties known I)
include h

end Lease

namespace Connector.Poolable

variable {f : Factory σ κ} {given : Fields} {shared : σ → τ} {o : Capability → Bool} {x : τ}
  {l : List (Entry κ)}

theorem steady (h : f.connector.Poolable given shared) :
    f.Steady given (Instance.Found f.connector o) (Site.Sees f.connector shared o x l) where
  note _ hs := hs.write rfl
  upkeep {i} y hi hy := by
    obtain ⟨id, d, found⟩ := i
    obtain rfl : d = f.connector := hi.connector
    exact h.call_sees id hy
  create := h.create_sees rfl
  ruled _ hi := ⟨hi.connector, hi.capabilities⟩

end Connector.Poolable

section

variable {f : Factory σ κ} {c : Configuration} {shared : σ → τ} {o : Capability → Bool}
  {n m : Nat} {w v : World σ κ}

namespace Facade

variable {g k : Facade σ κ}

/-- The check of a factory's own. -/
def check (f : Factory σ κ) (given : Fields) : Action (World σ κ) Unit :=
  match f.check with
  | none => pure ()
  | some check => do
    World.onSite (Site.write (.checked given))
    Action.ofExcept (check given)

end Facade

end

/-- What instances do over a switch that all of them see: what they offer, which to be asked may
change, and how they are found alive, disposed of and tested. -/
structure Switch where
  provides (x : Capability) (on : Bool) : Bool × Bool := (x == .test, on)
  alive : Action Bool Unit := pure ()
  dispose : Action Bool Unit := pure ()
  test : Action Bool Unit := pure ()

namespace Switch

def unsupported : Error := .internal "not by a switch" none

/-- All instances are alike, and can be initialized. -/
def connector (s : Switch) : Connector Bool Unit where
  provides _ := s.provides
  rule _ _ := none
  perform _
    | .init _ => pure ()
    | .checkAlive => s.alive
    | .dispose => s.dispose
    | .test => s.test
    | .schema => pure Schema.empty
    | _ => Action.fail unsupported
  translate _ _ _ _ on := ([], on)
  query _ _ _ _ on := .finish (.error (.error unsupported), on)
  sync _ _ _ _ on := .finish (.error (.error unsupported), on)

end Switch

end ConnectorHub
