import ConnectorHub.Pool.Basic

namespace ConnectorHub.Pool

variable {σ κ : Type}

/-- What happens to a pool while a borrow waits, some time after what happened before. -/
inductive Meanwhile (σ κ : Type) where
  | giveBack (after : Nat) (i : Instance σ κ)
  | close (after : Nat)

def Meanwhile.after : Meanwhile σ κ → Nat
  | giveBack ms _ => ms
  | close ms => ms

/-- What came of an event: a return may fail, a close does not. -/
inductive EventResult where
  | returned (result : Except Error Unit)
  | closed

/-- A borrow that waits for a permit. -/
structure Waiter where
  ticket : Nat
  deadline : Nat
  deriving DecidableEq, Repr

/-- How far a borrow is. -/
inductive Progress (σ κ : Type) where
  | waiting (w : Waiter)
  | ended (result : Except Error (Instance σ κ))

/-- Carries a borrow to its end. -/
def ended (x : Action (At σ κ) (Instance σ κ)) : Action (At σ κ) (Progress σ κ) := do
  let result ← Action.attempt x
  pure (.ended result)

/-- Goes on as far as it can without waiting. A borrow that has to wait does so behind all others. -/
def begin : Action (At σ κ) (Progress σ κ) := do
  let (site, p) ← Action.get
  if p.closed then pure (.ended (.error closedError))
  else if 0 < p.gate.free then ended (enter .take)
  else do
    update (regate .join)
    pure (.waiting ⟨p.gate.ticket, site.clock + p.settings.maxWait.toNat⟩)

/-- Gives up, and with it the place in the queue. -/
def withdraw (w : Waiter) : Action (At σ κ) (Instance σ κ) := do
  update (regate (.leave w.ticket))
  giveUp

/-- Gives up if the deadline has come before `time` and no permit has. -/
def expire (time : Nat) : Progress σ κ → Action (At σ κ) (Progress σ κ)
  | .waiting w => do
    let (_, p) ← Action.get
    if w.deadline ≤ time ∧ w.ticket ∉ p.gate.handed then ended (withdraw w)
    else pure (.waiting w)
  | .ended result => pure (.ended result)

/-- Takes the permit that was handed over, if one was. -/
def resume : Progress σ κ → Action (At σ κ) (Progress σ κ)
  | .waiting w => do
    let (_, p) ← Action.get
    if w.ticket ∈ p.gate.handed then ended (enter (.claim w.ticket))
    else pure (.waiting w)
  | .ended result => pure (.ended result)

def occur : Meanwhile σ κ → Action (At σ κ) EventResult
  | .giveBack _ i => do
    let result ← Action.attempt (giveBack i)
    pure (.returned result)
  | .close _ => do
    close
    pure .closed

/-- A borrow that is dropped while it waits. -/
def Progress.drop : Progress σ κ → At σ κ → At σ κ
  | .waiting w, s => (s.1, s.2.regate (.abandon w.ticket))
  | .ended _, s => s

/-- One event and what it does to the borrow, which is dropped if the event is cut short. -/
def meet (event : Meanwhile σ κ) (progress : Progress σ κ) :
    Action (At σ κ) (EventResult × Progress σ κ) := do
  let (site, _) ← Action.get
  let progress ← expire (site.clock + event.after) progress
  Action.onFirst (Site.wait event.after)
  let result ← Action.onStop (occur event) progress.drop
  let progress ← resume progress
  pure (result, progress)

def meetAll : List (Meanwhile σ κ) → Progress σ κ →
    Action (At σ κ) (List EventResult × Progress σ κ)
  | [], progress => pure ([], progress)
  | event :: rest, progress => do
    let (result, progress) ← meet event progress
    let (results, progress) ← meetAll rest progress
    pure (result :: results, progress)

/-- Waits until the deadline if the borrow has not ended before. -/
def conclude : Progress σ κ → Action (At σ κ) (Except Error (Instance σ κ))
  | .waiting w => do
    let (site, _) ← Action.get
    Action.onFirst (Site.wait (w.deadline - site.clock))
    Action.attempt (withdraw w)
  | .ended result => pure result

/-- A borrow with the events that fall into its time, and beyond. -/
def borrowDuring (events : List (Meanwhile σ κ)) :
    Action (At σ κ) (Except Error (Instance σ κ) × List EventResult) := do
  let progress ← begin
  let (results, progress) ← meetAll events progress
  let result ← conclude progress
  pure (result, results)

end ConnectorHub.Pool
