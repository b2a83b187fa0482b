import ConnectorHub.Proofs.Action.Triple

namespace ConnectorHub.Action

variable {σ τ ρ α β : Type} {I : σ → Prop} {x : Action σ α} {f : α → Action σ β}

def Keeps (I : σ → Prop) (x : Action σ α) : Prop := ∀ s, I s → I (x s).2

namespace Keeps

theorem triple (h : Keeps I x) : Triple I x (fun _ => I) fun _ => I := by
  intro s held
  have kept := h s held
  cases run : x s with
  | mk result t =>
    rw [run] at kept
    cases result <;> exact kept

theorem of_triple (h : Triple I x (fun _ => I) fun _ => I) : Keeps I x := by
  intro s held
  have ended := h s held
  cases run : x s with
  | mk result t =>
    rw [run] at ended
    cases result <;> exact ended

theorem pure (a : α) : Keeps I (Pure.pure a : Action σ α) := fun _ held => held

theorem stop (why : Stop) : Keeps I (Action.stop why : Action σ α) := fun _ held => held

theorem fail (e : Error) : Keeps I (Action.fail e : Action σ α) := stop _

theorem modify {g : σ → σ} (h : ∀ s, I s → I (g s)) : Keeps I (Action.modify g) := h

theorem bind (hx : Keeps I x) (hf : ∀ a, Keeps I (f a)) : Keeps I (x >>= f) := by
  intro s held
  have first := hx s held
  rw [bind_apply]
  cases run : x s with
  | mk result t =>
    rw [run] at first
    cases result with
    | error why => exact first
    | ok a => exact hf a t first

theorem get_bind {f : σ → Action σ β} (h : ∀ s, I s → I (f s s).2) :
    Keeps I (Action.get >>= f) := h

theorem onStop {undo : σ → σ} (hx : Keeps I x) (hu : ∀ s, I s → I (undo s)) :
    Keeps I (Action.onStop x undo) := by
  intro s held
  have kept := hx s held
  unfold Action.onStop
  cases run : x s with
  | mk result t =>
    rw [run] at kept
    cases result with
    | ok a => exact kept
    | error why => exact hu t kept

theorem attempt (hx : Keeps I x) : Keeps I (Action.attempt x) := by
  intro s held
  have kept := hx s held
  unfold Action.attempt
  cases run : x s with
  | mk result t =>
    rw [run] at kept
    cases result with
    | ok a => exact kept
    | error why => cases why <;> exact kept

theorem zoom {part : σ → τ} {put : τ → σ → σ} {x : Action τ α}
    (h : ∀ s, I s → I (put (x (part s)).2 s)) : Keeps I (Action.zoom part put x) := h

theorem onFirst {I : σ × ρ → Prop} (h : ∀ r, Keeps (fun s => I (s, r)) x) :
    Keeps I (Action.onFirst x : Action (σ × ρ) α) :=
  fun s held => h s.2 s.1 held

theorem forEach {g : β → Action σ Unit} (h : ∀ b, Keeps I (g b)) (bs : List β) :
    Keeps I (Action.forEach bs g) := by
  induction bs with
  | nil => exact pure ()
  | cons b rest ih => exact (h b).bind fun _ => ih

end Keeps

/-- What is refused leaves the state as it is. -/
theorem held_ofExcept_bind {r : Except Error α} {s : σ} (held : I s)
    (h : ∀ a, r = .ok a → I (f a s).2) : I ((Action.ofExcept r >>= f) s).2 := by
  cases r with
  | ok a => exact h a rfl
  | error e => exact held

theorem ensuring_snd (x : Action σ α) (after : Action σ Unit) (s : σ) :
    (Action.ensuring x after s).2 = (after (x s).2).2 := by
  unfold Action.ensuring
  cases x s with
  | mk result t =>
    dsimp only
    cases after t with
    | mk ended u => cases ended <;> rfl

end ConnectorHub.Action
