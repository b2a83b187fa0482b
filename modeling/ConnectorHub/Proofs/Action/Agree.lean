import ConnectorHub.Action
import Mathlib.Data.List.Forall2

namespace ConnectorHub

variable {σ τ ρ π α β γ δ : Type}

/-- Both end with values that are related, or both stop for one reason. -/
inductive SameEnd (V : α → β → Prop) : Except Stop α → Except Stop β → Prop where
  | ok {a : α} {b : β} (h : V a b) : SameEnd V (.ok a) (.ok b)
  | error (why : Stop) : SameEnd V (.error why) (.error why)

/-- A value or an error, from a call that is not cut short. -/
def Settled (r : Except Stop α) : Prop := ∀ why, r = .error why → why.abrupt = false

theorem settled_ok (a : α) : Settled (.ok a) := fun _ h => nomatch h

/-- Neither is cut short, or both are for one reason. -/
inductive SameCut : Except Stop α → Except Stop β → Prop where
  | settled {r : Except Stop α} {q : Except Stop β} (hr : Settled r) (hq : Settled q) : SameCut r q
  | cut (why : Stop) : SameCut (.error why) (.error why)

theorem SameEnd.refl {V : α → α → Prop} (hv : ∀ a, V a a) (r : Except Stop α) : SameEnd V r r := by
  cases r with
  | ok a => exact .ok (hv a)
  | error why => exact .error why

theorem SameEnd.eq {r q : Except Stop α} (h : SameEnd Eq r q) : r = q := by
  cases h with
  | ok h => rw [h]
  | error why => rfl

theorem SameCut.refl (r : Except Stop α) : SameCut r r := by
  cases r with
  | ok a => exact .settled (settled_ok a) (settled_ok a)
  | error why => exact .cut why

theorem SameEnd.sameCut {V : α → β → Prop} {r : Except Stop α} {q : Except Stop β}
    (h : SameEnd V r q) : SameCut r q := by
  cases h with
  | ok h => exact .settled (settled_ok _) (settled_ok _)
  | error why => exact .cut why

/-- One relation on each half. -/
def Both (R : σ → τ → Prop) (S : ρ → π → Prop) (s : σ × ρ) (t : τ × π) : Prop :=
  R s.1 t.1 ∧ S s.2 t.2

namespace Action

def Agree (R : σ → τ → Prop) (Q : Except Stop α → Except Stop β → Prop) (x : Action σ α)
    (y : Action τ β) : Prop :=
  ∀ s t, R s t → Q (x s).1 (y t).1 ∧ R (x s).2 (y t).2

variable {R : σ → τ → Prop} {S : ρ → π → Prop} {V : α → β → Prop}
  {Q : Except Stop γ → Except Stop δ → Prop} {x : Action σ α} {y : Action τ β}

theorem Agree.weaken {Q Q' : Except Stop α → Except Stop β → Prop} (h : Agree R Q x y)
    (hq : ∀ r q, Q r q → Q' r q) : Agree R Q' x y :=
  fun s t hst => ⟨hq _ _ (h s t hst).1, (h s t hst).2⟩

theorem Agree.refl (x : Action σ α) : Agree Eq (SameEnd Eq) x x := by
  rintro s t rfl
  exact ⟨.refl (fun _ => rfl) _, rfl⟩

theorem Agree.pure {a : α} {b : β} (h : V a b) :
    Agree R (SameEnd V) (Pure.pure a : Action σ α) (Pure.pure b : Action τ β) :=
  fun _ _ hst => ⟨.ok h, hst⟩

theorem Agree.stop (why : Stop) :
    Agree R (SameEnd V) (Action.stop why : Action σ α) (Action.stop why : Action τ β) :=
  fun _ _ hst => ⟨.error why, hst⟩

theorem Agree.fail (e : Error) :
    Agree R (SameEnd V) (Action.fail e : Action σ α) (Action.fail e : Action τ β) :=
  Agree.stop (.error e)

theorem Agree.ofExcept (r : Except Error α) :
    Agree R (SameEnd Eq) (Action.ofExcept r : Action σ α) (Action.ofExcept r : Action τ α) := by
  cases r with
  | ok a => exact Agree.pure rfl
  | error e => exact Agree.fail e

theorem Agree.modify {f : σ → σ} {g : τ → τ} (h : ∀ s t, R s t → R (f s) (g t)) :
    Agree R (SameEnd Eq) (Action.modify f) (Action.modify g) :=
  fun s t hst => ⟨.ok rfl, h s t hst⟩

theorem Agree.get : Agree R (SameEnd R) (Action.get : Action σ σ) (Action.get : Action τ τ) :=
  fun _ _ hst => ⟨.ok hst, hst⟩

theorem Agree.bind {f : α → Action σ γ} {g : β → Action τ δ} (hx : Agree R (SameEnd V) x y)
    (hf : ∀ a b, V a b → Agree R Q (f a) (g b)) (hq : ∀ why, Q (.error why) (.error why)) :
    Agree R Q (x >>= f) (y >>= g) := by
  intro s t hst
  obtain ⟨ends, next⟩ := hx s t hst
  rw [bind_apply, bind_apply]
  cases runx : x s with
  | mk r s' =>
    cases runy : y t with
    | mk q t' =>
      rw [runx, runy] at ends next
      cases ends with
      | ok h => exact hf _ _ h s' t' next
      | error why => exact ⟨hq why, next⟩

/-- With one value on both sides. -/
theorem Agree.bindEq {V : γ → δ → Prop} {x : Action σ α} {y : Action τ α} {f : α → Action σ γ}
    {g : α → Action τ δ} (hx : Agree R (SameEnd Eq) x y)
    (hf : ∀ a, Agree R (SameEnd V) (f a) (g a)) : Agree R (SameEnd V) (x >>= f) (y >>= g) :=
  Agree.bind hx (fun a b h => by rw [h]; exact hf b) .error

theorem attempt_of_settled {s s' : σ} {r : Except Stop α} (run : x s = (r, s')) (hr : Settled r) :
    ∃ v, Action.attempt x s = (.ok v, s') := by
  unfold Action.attempt
  rw [run]
  cases r with
  | ok a => exact ⟨.ok a, rfl⟩
  | error why =>
    cases why with
    | error e => exact ⟨.error e, rfl⟩
    | panic text => exact absurd (hr _ rfl) Bool.noConfusion
    | cancelled => exact absurd (hr _ rfl) Bool.noConfusion

theorem Agree.attempt (h : Agree R SameCut x y) :
    Agree R (SameEnd fun _ _ => True) (Action.attempt x) (Action.attempt y) := by
  intro s t hst
  obtain ⟨ends, next⟩ := h s t hst
  cases runx : x s with
  | mk r s' =>
    cases runy : y t with
    | mk q t' =>
      rw [runx, runy] at ends next
      cases ends with
      | settled hr hq =>
        obtain ⟨v, ranx⟩ := attempt_of_settled runx hr
        obtain ⟨w, rany⟩ := attempt_of_settled runy hq
        rw [ranx, rany]
        exact ⟨.ok trivial, next⟩
      | cut why =>
        unfold Action.attempt
        rw [runx, runy]
        cases why with
        | error e => exact ⟨.ok trivial, next⟩
        | panic text => exact ⟨.error _, next⟩
        | cancelled => exact ⟨.error _, next⟩

theorem Agree.attemptEq {x : Action σ α} {y : Action τ α} (h : Agree R (SameEnd Eq) x y) :
    Agree R (SameEnd Eq) (Action.attempt x) (Action.attempt y) := by
  intro s t hst
  obtain ⟨ends, next⟩ := h s t hst
  have same := ends.eq
  unfold Action.attempt
  cases runx : x s with
  | mk r s' =>
    cases runy : y t with
    | mk q t' =>
      rw [runx, runy] at same next
      obtain rfl : r = q := same
      cases r with
      | ok a => exact ⟨.ok rfl, next⟩
      | error why =>
        cases why with
        | error e => exact ⟨.ok rfl, next⟩
        | panic text => exact ⟨.error _, next⟩
        | cancelled => exact ⟨.error _, next⟩

/-- On one side something may be done in silence before. -/
theorem Agree.left {Q : Except Stop α → Except Stop β → Prop} {z : Action σ Unit}
    (hz : ∀ s t, R s t → (z s).1 = .ok () ∧ R (z s).2 t) (h : Agree R Q x y) :
    Agree R Q (do z; x) y := by
  intro s t hst
  obtain ⟨done, next⟩ := hz s t hst
  rw [bind_of_ok (Prod.ext done rfl)]
  exact h _ t next

theorem Agree.right {Q : Except Stop α → Except Stop β → Prop} {z : Action τ Unit}
    (hz : ∀ s t, R s t → (z t).1 = .ok () ∧ R s (z t).2) (h : Agree R Q x y) :
    Agree R Q x (do z; y) := by
  intro s t hst
  obtain ⟨done, next⟩ := hz s t hst
  rw [bind_of_ok (Prod.ext done rfl)]
  exact h s _ next

theorem Agree.onStop {f : σ → σ} {g : τ → τ} (h : Agree R (SameEnd V) x y)
    (hfg : ∀ s t, R s t → R (f s) (g t)) :
    Agree R (SameEnd V) (Action.onStop x f) (Action.onStop y g) := by
  intro s t hst
  obtain ⟨ends, next⟩ := h s t hst
  unfold Action.onStop
  cases runx : x s with
  | mk r s' =>
    cases runy : y t with
    | mk q t' =>
      rw [runx, runy] at ends next
      cases ends with
      | ok h => exact ⟨.ok h, next⟩
      | error why => exact ⟨.error why, hfg s' t' next⟩

theorem Agree.onFirst {Q : Except Stop α → Except Stop β → Prop} (h : Agree R Q x y) :
    Agree (Both R S) Q (Action.onFirst x : Action (σ × ρ) α)
      (Action.onFirst y : Action (τ × π) β) :=
  fun s t hst => ⟨(h s.1 t.1 hst.1).1, (h s.1 t.1 hst.1).2, hst.2⟩

theorem Agree.forEach {V : α → β → Prop} {f : α → Action σ Unit} {g : β → Action τ Unit}
    {as : List α} {bs : List β} (h : List.Forall₂ V as bs)
    (hf : ∀ a b, V a b → Agree R (SameEnd Eq) (f a) (g b)) :
    Agree R (SameEnd Eq) (Action.forEach as f) (Action.forEach bs g) := by
  induction h with
  | nil => exact Agree.pure rfl
  | cons hab _ ih => exact Agree.bindEq (hf _ _ hab) fun _ => ih

end Action

end ConnectorHub
