import ConnectorHub.Error.Basic

namespace ConnectorHub

/-- Why a computation ends without a value. -/
inductive Stop where
  | error (e : Error)
  | panic (text : String)
  | cancelled
  deriving DecidableEq

/-- Whether a call is cut short, by a panic or by its cancellation. -/
def Stop.abrupt : Stop → Bool
  | error _ => false
  | _ => true

/-- A computation over a state that ends with a value or stops early. The state at the stop is kept,
so what a stopped computation held can still be released. -/
def Action (σ α : Type) : Type := σ → Except Stop α × σ

namespace Action

variable {σ ρ α β : Type}

def bind (x : Action σ α) (f : α → Action σ β) : Action σ β := fun s =>
  match x s with
  | (.ok a, s) => f a s
  | (.error stop, s) => (.error stop, s)

instance : Monad (Action σ) where
  pure a := fun s => (.ok a, s)
  bind := bind

def stop (why : Stop) : Action σ α := fun s => (.error why, s)

def fail (e : Error) : Action σ α := stop (.error e)

def ofExcept : Except Error α → Action σ α
  | .ok a => pure a
  | .error e => fail e

def get : Action σ σ := fun s => (.ok s, s)

def modify (f : σ → σ) : Action σ Unit := fun s => (.ok (), f s)

/-- Turns an error into a value. A panic or a cancellation goes on. -/
def attempt (x : Action σ α) : Action σ (Except Error α) := fun s =>
  match x s with
  | (.ok a, s) => (.ok (.ok a), s)
  | (.error (.error e), s) => (.ok (.error e), s)
  | (.error other, s) => (.error other, s)

/-- Runs `after` however `x` ends. A stop in `after` takes the place of the end of `x`. -/
def ensuring (x : Action σ α) (after : Action σ Unit) : Action σ α := fun s =>
  let (r, s) := x s
  match after s with
  | (.ok (), s) => (r, s)
  | (.error stop, s) => (.error stop, s)

/-- Changes the state when `x` stops. -/
def onStop (x : Action σ α) (undo : σ → σ) : Action σ α := fun s =>
  match x s with
  | (.ok a, s) => (.ok a, s)
  | (.error stop, s) => (.error stop, undo s)

/-- A computation on a part of the state. -/
def zoom {τ : Type} (part : σ → τ) (put : τ → σ → σ) (x : Action τ α) : Action σ α := fun s =>
  let (r, t) := x (part s)
  (r, put t s)

def onFirst (x : Action σ α) : Action (σ × ρ) α := zoom Prod.fst (fun t s => (t, s.2)) x

/-- A computation with a state of its own, handed out at its end however it ends. -/
def withState (x : Action (σ × ρ) α) (r : ρ) : Action σ (Except Stop α × ρ) := fun s =>
  let (result, t) := x (s, r)
  (.ok (result, t.2), t.1)

def forEach (xs : List β) (f : β → Action σ Unit) : Action σ Unit :=
  match xs with
  | [] => pure ()
  | x :: rest => do
    f x
    forEach rest f

@[simp] theorem pure_apply (a : α) (s : σ) : (pure a : Action σ α) s = (.ok a, s) := rfl

theorem bind_apply (x : Action σ α) (f : α → Action σ β) (s : σ) :
    (x >>= f) s = match x s with
      | (.ok a, t) => f a t
      | (.error stop, t) => (.error stop, t) := rfl

theorem bind_of_ok {x : Action σ α} {f : α → Action σ β} {s t : σ} {a : α} (h : x s = (.ok a, t)) :
    (x >>= f) s = f a t := by
  rw [bind_apply, h]

theorem bind_of_error {x : Action σ α} {f : α → Action σ β} {s t : σ} {why : Stop}
    (h : x s = (.error why, t)) : (x >>= f) s = (.error why, t) := by
  rw [bind_apply, h]

theorem onFirst_of_run {x : Action σ α} {s t : σ} {r : ρ} {result : Except Stop α}
    (run : x s = (result, t)) : (onFirst x : Action (σ × ρ) α) (s, r) = (result, (t, r)) := by
  simp [onFirst, zoom, run]

@[simp] theorem get_apply (s : σ) : (get : Action σ σ) s = (.ok s, s) := rfl

@[simp] theorem modify_apply (f : σ → σ) (s : σ) : modify f s = (.ok (), f s) := rfl

@[simp] theorem fail_apply (e : Error) (s : σ) :
    (fail e : Action σ α) s = (.error (.error e), s) := rfl

end Action

end ConnectorHub
