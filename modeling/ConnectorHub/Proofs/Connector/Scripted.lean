import ConnectorHub.Proofs.Connector.Impersonal
import ConnectorHub.Proofs.Likeness.Scripted

namespace ConnectorHub

open ConnectorHub.Action

variable {α β γ : Type}

theorem Feed.Same.mapResult {Q : β → γ → Prop} {B C : Type} {V : B → C → Prop} {u : β → B}
    {v : γ → C} {feed : Feed α β} {feed' : Feed α γ} (h : feed.Same Q feed')
    (onward : ∀ b c, Q b c → V (u b) (v c)) : (feed.mapResult u).Same V (feed'.mapResult v) := by
  induction h with
  | finish hq => exact .finish (onward _ _ hq)
  | offer a _ ih => exact .offer a ih

namespace Resource

/-- The calls that see to an instance, by their names. -/
def upkeepNames : List String := ["init", "dispose", "check_alive"]

def isServing (name : String) : Bool := !upkeepNames.contains name

/-- What requests see. -/
def seen (r : Resource) : List ResourceObject × List String := (r.objects, r.uses.filter isServing)

def Alike (r q : Resource) : Prop := r.seen = q.seen

theorem Alike.objects {r q : Resource} (h : r.Alike q) : r.objects = q.objects :=
  congrArg Prod.fst h

theorem Alike.count {r q : Resource} (h : r.Alike q) {name : String} (serves : isServing name) :
    r.uses.count name = q.uses.count name := by
  have same : (r.uses.filter isServing).count name = (q.uses.filter isServing).count name :=
    congrArg (List.count name) (congrArg Prod.snd h)
  rwa [List.count_filter serves, List.count_filter serves] at same

/-- A computation that reads and changes the objects only. -/
def OnObjects (x : Action Resource α) : Prop :=
  ∀ r, x r = ((x ⟨r.objects, [], []⟩).1, { r with objects := (x ⟨r.objects, [], []⟩).2.objects })

theorem OnObjects.agree {x : Action Resource α} (h : OnObjects x) :
    Agree Alike (SameEnd Eq) x x := by
  intro r q hrq
  rw [h r, h q, hrq.objects]
  exact ⟨.refl (fun _ => rfl) _, congrArg (Prod.mk _) (congrArg Prod.snd hrq)⟩

end Resource

namespace ConnectorScript

/-- Instances can be initialized and keep their capabilities, and to see to one is never cut
short. -/
structure Gentle (s : ConnectorScript) : Prop where
  flaky : s.flaky = []
  late : s.late = []
  init : s.faults.lookup "init" = none
  settled : ∀ name ∈ Resource.upkeepNames, ∀ faults ∈ s.faults.lookup name, ∀ planned ∈ faults,
    ∀ fault ∈ planned, fault.stop.abrupt = false

variable {s : ConnectorScript} {place : Nat} {rs qs : Resources}

theorem provides_eq (h : s.Gentle) (id : Nat) (x : Capability) (rs : Resources) :
    ((s.fullConnector place).provides id x rs).1 = s.capabilities.contains x := by
  show (s.capabilities.contains x && (_ || !s.flaky.contains x) && (_ || !s.late.contains x)) = _
  rw [h.flaky, h.late]
  simp

end ConnectorScript

end ConnectorHub
