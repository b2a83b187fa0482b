import ConnectorHub.Pool.Basic

namespace ConnectorHub.Pool

variable {σ κ : Type} {now minIdle minAge : Nat} {es : List (IdleInstance σ κ)}

/-- Idle for so long that it may be evicted. -/
def isStale (now minAge : Nat) (e : IdleInstance σ κ) : Bool := minAge ≤ now - e.returnedAt

/-- In the order of their return. -/
def InOrder (es : List (IdleInstance σ κ)) : Prop :=
  es.Pairwise fun e f => e.returnedAt ≤ f.returnedAt

/-- The longest idle of the stale instances, as many as leave `minIdle`. -/
def due (now minIdle minAge : Nat) (es : List (IdleInstance σ κ)) : List (IdleInstance σ κ) :=
  (es.filter (isStale now minAge)).take (es.length - minIdle)

/-- What came back before a stale instance is stale too. -/
theorem isStale_of_le {e f : IdleInstance σ κ} (le : e.returnedAt ≤ f.returnedAt)
    (stale : isStale now minAge f = true) : isStale now minAge e = true := by
  simp only [isStale, decide_eq_true_eq] at stale ⊢
  omega

theorem splitStale_fst (ordered : InOrder es) :
    (splitStale now minIdle minAge es).1 = due now minIdle minAge es := by
  induction es with
  | nil => simp [splitStale, due]
  | cons e rest ih =>
    obtain ⟨later, ordered⟩ := List.pairwise_cons.mp ordered
    rw [splitStale]
    split
    · next out =>
      have stale : isStale now minAge e = true := decide_eq_true out.2
      have spare : (e :: rest).length - minIdle = rest.length - minIdle + 1 := by
        rw [List.length_cons]
        omega
      rw [due, spare, List.filter_cons, if_pos stale, List.take_succ_cons]
      exact congrArg (List.cons e) (ih ordered)
    · next kept =>
      by_cases spare : minIdle < rest.length + 1
      · have fresh : ¬isStale now minAge e = true := fun stale =>
          kept ⟨spare, of_decide_eq_true stale⟩
        have none : (e :: rest).filter (isStale now minAge) = [] := by
          rw [List.filter_eq_nil_iff]
          intro f hf stale
          rcases List.mem_cons.mp hf with rfl | hf
          · exact fresh stale
          · exact fresh (isStale_of_le (later f hf) stale)
        rw [due, none, List.take_nil]
      · have none : (e :: rest).length - minIdle = 0 := by
          rw [List.length_cons]
          omega
        rw [due, none, List.take_zero]

/-- Nothing is to be evicted. -/
def Settled (now minIdle minAge : Nat) (es : List (IdleInstance σ κ)) : Prop :=
  splitStale now minIdle minAge es = ([], es)

theorem settled_splitStale (es : List (IdleInstance σ κ)) :
    Settled now minIdle minAge (splitStale now minIdle minAge es).2 := by
  induction es with
  | nil => rfl
  | cons e rest ih =>
    by_cases out : minIdle < rest.length + 1 ∧ minAge ≤ now - e.returnedAt
    · rw [splitStale, if_pos out]
      exact ih
    · rw [splitStale, if_neg out, Settled, splitStale, if_neg out]

/-- Whoever takes from the end leaves no more to evict. -/
theorem Settled.of_append {e : IdleInstance σ κ} (settled : Settled now minIdle minAge (es ++ [e])) :
    Settled now minIdle minAge es := by
  cases es with
  | nil => rfl
  | cons first rest =>
    have stays : ¬(minIdle < (rest ++ [e]).length + 1 ∧ minAge ≤ now - first.returnedAt) := by
      intro out
      rw [Settled, List.cons_append, splitStale, if_pos out] at settled
      cases congrArg Prod.fst settled
    rw [Settled, splitStale, if_neg]
    rintro ⟨spare, stale⟩
    refine stays ⟨?_, stale⟩
    rw [List.length_append, List.length_singleton]
    omega

end ConnectorHub.Pool
