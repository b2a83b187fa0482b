import ConnectorHub.Pool.Waiting
import ConnectorHub.Proofs.Action.Keeps
import ConnectorHub.Proofs.Pool.Account

namespace ConnectorHub.Pool

open ConnectorHub.Action

variable {σ κ α : Type}

/-- A property that every single change keeps, constructions and the gate apart. -/
structure Stable (I : At σ κ → Prop) : Prop where
  write {s : Site σ κ} {p : Pool σ κ} {e : Entry κ} : e.built? = none → I (s, p) →
    I ({ s with journal := s.journal ++ [e] }, p)
  onSite {s : Site σ κ} {p : Pool σ κ} (clock : Nat) (resource : σ) : I (s, p) →
    I ({ s with clock := clock, resource := resource }, p)
  update {s : Site σ κ} {p : Pool σ κ} (idle : List (IdleInstance σ κ)) (closed : Bool) :
    I (s, p) → I (s, { p with idle := idle, closed := closed })

/-- Constructions keep it too; they are by the factory of the pool only. -/
structure Growing (I : At σ κ → Prop) : Prop extends Stable I where
  construct {s : Site σ κ} {p : Pool σ κ} : I (s, p) →
    I ({ s with built := s.built + 1, journal := s.journal ++ [.built s.built p.factory.tag] }, p)

/-- What is done at the gate keeps it too. -/
structure Lasting (I : At σ κ → Prop) : Prop extends Stable I where
  regate {s : Site σ κ} {p : Pool σ κ} (f : Semaphore → Semaphore) : I (s, p) → I (s, p.regate f)

structure Perennial (I : At σ κ → Prop) : Prop extends Lasting I, Growing I

theorem keeps_ended {I : At σ κ → Prop} {x : Action (At σ κ) (Instance σ κ)} (hx : Keeps I x) :
    Keeps I (ended x) :=
  hx.attempt.bind fun _ => .pure _

namespace Stable

variable {I : At σ κ → Prop} (h : Stable I)
include h

theorem writes {e : Entry κ} (he : e.built? = none) (p : Pool σ κ) :
    Keeps (fun s => I (s, p)) (Site.write e) :=
  Keeps.modify fun _ hs => h.write he hs

theorem onResource (x : Action σ α) (p : Pool σ κ) :
    Keeps (fun s => I (s, p)) (Site.onResource x) :=
  Keeps.zoom fun s hs => h.onSite s.clock _ hs

theorem call (c : Connector σ κ) (id : Nat) (x : Call) (p : Pool σ κ) :
    Keeps (fun s => I (s, p)) (c.call id x) :=
  (h.writes rfl p).bind fun _ => h.onResource _ p

theorem probe (c : Connector σ κ) (id : Nat) (capabilities : List Capability)
    (found : CapabilitySet) (p : Pool σ κ) :
    Keeps (fun s => I (s, p)) (c.probe id capabilities found) := by
  induction capabilities generalizing found with
  | nil => exact .pure found
  | cons capability rest ih => exact (h.onResource _ p).bind fun has => ih _

theorem note (n : ConnectorKey → Note) : Keeps I (Pool.note n) := fun _ hs => h.write rfl hs

theorem member (i : Instance σ κ) (x : Call) :
    Keeps I (Action.onFirst (i.call x) : Action (At σ κ) x.Reply) :=
  Keeps.onFirst fun p => h.call i.connector i.id x p

theorem discard (i : Instance σ κ) : Keeps I (Pool.discard i) := by
  refine (h.member i .dispose).attempt.bind fun result => ?_
  cases result with
  | ok done => exact .pure ()
  | error e => exact h.note _

theorem popIdle : Keeps I (Pool.popIdle (σ := σ) (κ := κ)) := by
  refine Keeps.get_bind fun s hs => ?_
  have evict (e : IdleInstance σ κ) :
      Keeps I (do Pool.note .evicting; Pool.discard e.member) :=
    (h.note .evicting).bind fun _ => h.discard e.member
  obtain ⟨site, p⟩ := s
  dsimp only
  generalize splitStale site.clock p.settings.minIdle.toNat p.settings.minEvictableIdle.toNat
    p.idle = split
  obtain ⟨stale, kept⟩ := split
  have taken : I (site, { p with idle := kept.dropLast }) := h.update _ p.closed hs
  exact ((Keeps.forEach evict stale).bind fun _ => .pure _) _ taken

theorem giveUp : Keeps I (Pool.giveUp (σ := σ) (κ := κ)) :=
  Keeps.get_bind fun _ hs => h.write rfl hs

theorem close : Keeps I (Pool.close (σ := σ) (κ := κ)) := by
  have shut : Keeps I (Pool.update (σ := σ) (κ := κ) fun p => { p with closed := true }) :=
    Keeps.modify fun s hs => h.update s.2.idle true hs
  refine shut.bind fun _ => Keeps.get_bind fun s hs => ?_
  exact Keeps.forEach (fun e : IdleInstance σ κ => h.discard e.member) s.2.idle _
    (h.update [] s.2.closed hs)

end Stable

namespace Lasting

variable {I : At σ κ → Prop} (h : Lasting I)
include h

theorem gate (f : Semaphore → Semaphore) : Keeps I (Pool.update (σ := σ) (κ := κ) (Pool.regate f)) :=
  Keeps.modify fun _ hs => h.regate f hs

theorem withdraw (w : Waiter) : Keeps I (Pool.withdraw (σ := σ) (κ := κ) w) :=
  (h.gate _).bind fun _ => h.giveUp

theorem expire (time : Nat) (progress : Progress σ κ) : Keeps I (Pool.expire time progress) := by
  cases progress with
  | ended result => exact .pure _
  | waiting w =>
    refine Keeps.get_bind fun s hs => ?_
    dsimp only
    split
    · exact keeps_ended (h.withdraw w) s hs
    · exact hs

theorem giveBack (i : Instance σ κ) : Keeps I (Pool.giveBack i) := by
  refine Keeps.get_bind fun s hs => ?_
  dsimp only
  split
  · exact h.member i .dispose _ (h.regate .release hs)
  · exact h.update _ s.2.closed (h.regate .release hs)

end Lasting

namespace Growing

variable {I : At σ κ → Prop} (h : Growing I)
include h

theorem create (p : Pool σ κ) (properties : Fields) :
    Keeps (fun s => I (s, p)) (Instance.create p.factory properties) := by
  have constructs : Keeps (fun s => I (s, p)) (Site.construct p.factory.tag) :=
    fun _ hs => h.construct hs
  refine constructs.bind fun id => (h.call _ id _ p).attempt.bind fun result => ?_
  cases result with
  | ok done => exact (h.probe _ id _ _ p).bind fun _ _ hs => hs
  | error e =>
    refine (h.call _ id _ p).attempt.bind fun disposed => ?_
    cases disposed with
    | ok done => exact .fail e
    | error e' => exact (h.writes rfl p).bind fun _ => .fail e

theorem createPooled : Keeps I (Pool.createPooled (σ := σ) (κ := κ)) := by
  refine (h.note _).bind fun _ => Keeps.get_bind fun s hs => ?_
  exact h.create s.2 s.2.properties s.1 hs

theorem takeLive (tries : Nat) : Keeps I (Pool.takeLive (σ := σ) (κ := κ) tries) := by
  induction tries with
  | zero => exact h.createPooled
  | succ tries ih =>
    refine h.popIdle.bind fun taken => ?_
    cases taken with
    | none => exact h.createPooled
    | some i =>
      refine (h.member i .checkAlive).attempt.bind fun answer => ?_
      cases answer with
      | ok done => exact .pure i
      | error e => exact (h.note _).bind fun _ => (h.discard i).bind fun _ => ih

end Growing

namespace Perennial

variable {I : At σ κ → Prop} (h : Perennial I)
include h

theorem enter (take : Semaphore → Semaphore) :
    Keeps I (Pool.enter (σ := σ) (κ := κ) take) := by
  refine (h.gate take).bind fun _ => Keeps.get_bind fun s hs => ?_
  exact (h.takeLive s.2.idle.length).onStop (fun t ht => h.regate .release ht) s hs

theorem borrow : Keeps I (Pool.borrow (σ := σ) (κ := κ)) := by
  refine Keeps.get_bind fun s hs => ?_
  dsimp only
  split
  · exact hs
  split
  · exact h.enter .take s hs
  · exact h.giveUp _ (h.onSite (s.1.clock + s.2.settings.maxWait.toNat) s.1.resource hs)

theorem begin : Keeps I (Pool.begin (σ := σ) (κ := κ)) := by
  refine Keeps.get_bind fun s hs => ?_
  dsimp only
  split
  · exact hs
  split
  · exact keeps_ended (h.enter .take) s hs
  · exact h.regate .join hs

theorem resume (progress : Progress σ κ) : Keeps I (Pool.resume progress) := by
  cases progress with
  | ended result => exact .pure _
  | waiting w =>
    refine Keeps.get_bind fun s hs => ?_
    dsimp only
    split
    · exact keeps_ended (h.enter _) s hs
    · exact hs

end Perennial

/-- A pool stays a pool of its factory. -/
theorem factory_lasting (f : Factory σ κ) : Perennial (fun s : At σ κ => s.2.factory = f) where
  write _ hs := hs
  construct hs := hs
  onSite _ _ hs := hs
  update _ _ hs := hs
  regate _ hs := hs

theorem settings_lasting (c : PoolSettings) : Perennial (fun s : At σ κ => s.2.settings = c) where
  write _ hs := hs
  construct hs := hs
  onSite _ _ hs := hs
  update _ _ hs := hs
  regate _ hs := hs

end ConnectorHub.Pool
