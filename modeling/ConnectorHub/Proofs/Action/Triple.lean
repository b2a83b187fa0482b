import ConnectorHub.Action

namespace ConnectorHub.Action

variable {σ τ ρ α β : Type}

/-- Started where `P` holds, `x` ends where `Q` holds of its value, or stops where `E` holds of the
reason. -/
def Triple (P : σ → Prop) (x : Action σ α) (Q : α → σ → Prop) (E : Stop → σ → Prop) : Prop :=
  ∀ s, P s → match x s with
    | (.ok a, t) => Q a t
    | (.error why, t) => E why t

variable {P P' : σ → Prop} {x : Action σ α} {f : α → Action σ β} {Q Q' : α → σ → Prop}
  {R : β → σ → Prop} {E E' : Stop → σ → Prop} {s t : σ}

theorem Triple.ok (h : Triple P x Q E) {a : α} (hs : P s) (run : x s = (.ok a, t)) : Q a t := by
  have ended := h s hs
  rwa [run] at ended

theorem Triple.error (h : Triple P x Q E) {why : Stop} (hs : P s) (run : x s = (.error why, t)) :
    E why t := by
  have ended := h s hs
  rwa [run] at ended

theorem Triple.weaken (h : Triple P x Q E) (hp : ∀ s, P' s → P s) (hq : ∀ a s, Q a s → Q' a s)
    (he : ∀ why s, E why s → E' why s) : Triple P' x Q' E' := by
  intro s hs
  cases run : x s with
  | mk result t =>
    cases result with
    | ok a => exact hq a t (h.ok (hp s hs) run)
    | error why => exact he why t (h.error (hp s hs) run)

theorem Triple.pre (h : Triple P x Q E) (hp : ∀ s, P' s → P s) : Triple P' x Q E :=
  h.weaken hp (fun _ _ => id) fun _ _ => id

theorem Triple.post (h : Triple P x Q E) (hq : ∀ a s, Q a s → Q' a s) : Triple P x Q' E :=
  h.weaken (fun _ => id) hq fun _ _ => id

theorem Triple.postStop (h : Triple P x Q E) (he : ∀ why s, E why s → E' why s) :
    Triple P x Q E' :=
  h.weaken (fun _ => id) (fun _ _ => id) he

theorem Triple.of_forall (hq : ∀ a s, Q a s) (he : ∀ why s, E why s) : Triple P x Q E := by
  intro s _
  cases x s with
  | mk result t =>
    cases result with
    | ok a => exact hq a t
    | error why => exact he why t

/-- Nothing is asked of the states. -/
theorem Triple.unasked (x : Action σ α) :
    Triple (fun _ => True) x (fun _ _ => True) fun _ _ => True :=
  Triple.of_forall (fun _ _ => trivial) fun _ _ => trivial

/-- What is known besides the state may be used. -/
theorem Triple.of_and {p : Prop} (h : p → Triple P x Q E) : Triple (fun s => p ∧ P s) x Q E :=
  fun s hs => h hs.1 s hs.2

theorem Triple.pure {a : α} (h : ∀ s, P s → Q a s) :
    Triple P (Pure.pure a : Action σ α) Q E := h

theorem Triple.fail {e : Error} (h : ∀ s, P s → E (.error e) s) :
    Triple P (Action.fail e : Action σ α) Q E := h

theorem Triple.modify {Q : Unit → σ → Prop} {g : σ → σ} (h : ∀ s, P s → Q () (g s)) :
    Triple P (Action.modify g) Q E := h

theorem Triple.bind (hx : Triple P x Q E) (hf : ∀ a, Triple (Q a) (f a) R E) :
    Triple P (x >>= f) R E := by
  intro s hs
  rw [bind_apply]
  cases run : x s with
  | mk result t =>
    cases result with
    | ok a => exact hf a t (hx.ok hs run)
    | error why => exact hx.error hs run

/-- The state that was read may be used up to its next change. -/
theorem Triple.get_bind {f : σ → Action σ β} (h : ∀ s, P s → Triple (· = s) (f s) R E) :
    Triple P (Action.get >>= f) R E :=
  fun s hs => h s hs s rfl

/-- An attempt goes on after an error, and stops where it is cut short. -/
theorem Triple.attempt {Q : Except Error α → σ → Prop} (h : Triple P x (fun a => Q (.ok a)) E)
    (raised : ∀ e s, E (.error e) s → Q (.error e) s)
    (cut : ∀ why s, why.abrupt = true → E why s → E' why s) :
    Triple P (Action.attempt x) Q E' := by
  intro s hs
  unfold Action.attempt
  cases run : x s with
  | mk result t =>
    cases result with
    | ok a => exact h.ok hs run
    | error why =>
      have stopped := h.error hs run
      cases why with
      | error e => exact raised e t stopped
      | panic text => exact cut _ t rfl stopped
      | cancelled => exact cut _ t rfl stopped

/-- Only being cut short stops an attempt. -/
theorem Triple.attempt_abrupt (x : Action σ α) :
    Triple (fun _ => True) (Action.attempt x) (fun _ _ => True) fun why _ => why.abrupt = true := by
  exact (Triple.unasked x).attempt (fun _ _ _ => trivial) fun _ _ cut _ => cut

/-- An attempt comes to the value, to the error, or it is cut short. -/
theorem attempt_cases {r : Except Stop α} (run : x s = (r, t)) :
    (∃ a, r = .ok a ∧ Action.attempt x s = (.ok (.ok a), t)) ∨
      (∃ e, r = .error (.error e) ∧ Action.attempt x s = (.ok (.error e), t)) ∨
      ∃ why, why.abrupt = true ∧ r = .error why ∧ Action.attempt x s = (.error why, t) := by
  unfold Action.attempt
  rw [run]
  cases r with
  | ok a => exact .inl ⟨a, rfl, rfl⟩
  | error why =>
    cases why with
    | error e => exact .inr (.inl ⟨e, rfl, rfl⟩)
    | panic text => exact .inr (.inr ⟨_, rfl, rfl, rfl⟩)
    | cancelled => exact .inr (.inr ⟨_, rfl, rfl, rfl⟩)

theorem Triple.onStop {undo : σ → σ} (h : Triple P x Q fun why s => E why (undo s)) :
    Triple P (Action.onStop x undo) Q E := by
  intro s hs
  have ended := h s hs
  unfold Action.onStop
  cases run : x s with
  | mk result t =>
    rw [run] at ended
    cases result <;> exact ended

theorem Triple.zoom {part : σ → τ} {put : τ → σ → σ} {x : Action τ α}
    (h : ∀ s, P s → Triple (· = part s) x (fun a t => Q a (put t s))
      fun why t => E why (put t s)) : Triple P (Action.zoom part put x) Q E := by
  intro s hs
  have ended := h s hs (part s) rfl
  unfold Action.zoom
  cases run : x (part s) with
  | mk result t =>
    rw [run] at ended
    cases result <;> exact ended

theorem Triple.onFirst {P : σ × ρ → Prop} {Q : α → σ × ρ → Prop} {E : Stop → σ × ρ → Prop}
    (h : ∀ r, Triple (fun s => P (s, r)) x (fun a s => Q a (s, r)) fun why s => E why (s, r)) :
    Triple P (Action.onFirst x : Action (σ × ρ) α) Q E :=
  Triple.zoom fun s hs => (h s.2).pre fun _ ht => ht ▸ hs

/-- What each round keeps. -/
theorem Triple.forEach {I : σ → Prop} {g : β → Action σ Unit} {bs : List β}
    (h : ∀ b ∈ bs, Triple I (g b) (fun _ => I) E) :
    Triple I (Action.forEach bs g) (fun _ => I) E := by
  induction bs with
  | nil => exact Triple.pure fun _ held => held
  | cons b rest ih =>
    obtain ⟨first, others⟩ := List.forall_mem_cons.mp h
    exact first.bind fun _ => ih others

end ConnectorHub.Action
