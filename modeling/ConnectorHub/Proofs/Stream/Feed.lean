import ConnectorHub.Proofs.Connector.Writes

namespace ConnectorHub

variable {α β σ κ ρ : Type}

namespace Feed

/-- The items offered to a handler that always wants more. -/
def items : Feed α β → List α
  | .finish _ => []
  | .offer a next => a :: (next true).items

/-- What the feed comes to when all its items are wanted. -/
def ending : Feed α β → β
  | .finish b => b
  | .offer _ next => (next true).ending

/-- Offers nothing after an item that is answered with no. -/
def Heeds : Feed α β → Prop
  | .finish _ => True
  | .offer _ next => (∃ b, next false = .finish b) ∧ (next true).Heeds

end Feed

/-- While what it keeps satisfies `I` the handler wants more, and `I` goes on to hold. -/
def WantsMore (I : ρ → Prop) (h : Handler ρ α) : Prop :=
  ∀ a r, I r → (h a r).1 = true ∧ I (h a r).2

/-- The handler always wants more. -/
def Eager (h : Handler ρ α) : Prop := ∀ a r, (h a r).1 = true

/-- What a handler keeps after it has taken the items. -/
def taken (h : Handler ρ α) (as : List α) (r : ρ) : ρ := as.foldl (fun r a => (h a r).2) r

@[simp] theorem taken_nil (h : Handler ρ α) (r : ρ) : taken h [] r = r := rfl

@[simp] theorem taken_cons (h : Handler ρ α) (a : α) (as : List α) (r : ρ) :
    taken h (a :: as) r = taken h as (h a r).2 := rfl

theorem taken_append (h : Handler ρ α) (as bs : List α) (r : ρ) :
    taken h (as ++ bs) r = taken h bs (taken h as r) := List.foldl_append

/-- The items with the answers of a handler that takes them in turn. -/
def answered (h : Handler ρ α) : List α → ρ → List (α × Bool)
  | [], _ => []
  | a :: as, r => (a, (h a r).1) :: answered h as (h a r).2

theorem map_fst_answered (h : Handler ρ α) (as : List α) (r : ρ) :
    (answered h as r).map Prod.fst = as := by
  induction as generalizing r with
  | nil => rfl
  | cons a as ih => exact congrArg (List.cons a) (ih _)

theorem answered_append (h : Handler ρ α) (as bs : List α) (r : ρ) :
    answered h (as ++ bs) r = answered h as r ++ answered h bs (taken h as r) := by
  induction as generalizing r with
  | nil => rfl
  | cons a as ih => exact congrArg (List.cons _) (ih _)

theorem answered_of_eager {h : Handler ρ α} (hh : Eager h) (as : List α) (r : ρ) :
    answered h as r = as.map fun a => (a, true) := by
  induction as generalizing r with
  | nil => rfl
  | cons a as ih => rw [answered, hh, ih, List.map_cons]

namespace Instance

variable {I : ρ → Prop} {h : Handler ρ α} {entry : α → Bool → Entry κ}

theorem deliver_of_wantsMore (hh : WantsMore I h) (feed : Feed α β) (s : Site σ κ) {r : ρ}
    (hr : I r) :
    deliver entry h feed (s, r) =
      (feed.ending, ({ s with journal := s.journal ++ feed.items.map fun a => entry a true },
        taken h feed.items r)) := by
  induction feed generalizing s r with
  | finish b => simp [deliver, Feed.ending, Feed.items]
  | offer a next ih =>
    obtain ⟨more, kept⟩ := hh a r hr
    have answer : h a r = (true, (h a r).2) := Prod.ext more rfl
    rw [deliver, answer]
    simp [ih true _ kept, Feed.ending, Feed.items]

theorem stream_of_wantsMore (hh : WantsMore I h) (start : σ → Feed α (Except Stop Unit × σ))
    (s : Site σ κ) {r : ρ} (hr : I r) :
    stream entry h start (s, r) =
      ((start s.resource).ending.1,
        ({ s with
            resource := (start s.resource).ending.2
            journal := s.journal ++ (start s.resource).items.map fun a => entry a true },
          taken h (start s.resource).items r)) := by
  rw [stream, deliver_of_wantsMore hh _ _ hr]

theorem deliver_offer (a : α) (next : Bool → Feed α β) (s : Site σ κ) (r : ρ) :
    deliver entry h (.offer a next) (s, r) =
      deliver entry h (next (h a r).1)
        ({ s with journal := s.journal ++ [entry a (h a r).1] }, (h a r).2) := rfl

/-- What holds while the handler wants more holds at the end, or else what its first refusal leaves
behind. -/
theorem deliver_of_heeds (entry : α → Bool → Entry κ) {E : ρ → Prop}
    (goes : ∀ a r, I r → (h a r).1 = true → I (h a r).2)
    (stops : ∀ a r, I r → (h a r).1 = false → E (h a r).2) {feed : Feed α β} (heeds : feed.Heeds)
    (s : Site σ κ) {r : ρ} (hr : I r) :
    I (deliver entry h feed (s, r)).2.2 ∨ E (deliver entry h feed (s, r)).2.2 := by
  induction feed generalizing s r with
  | finish b => exact .inl hr
  | offer a next ih =>
    obtain ⟨⟨b, stopped⟩, later⟩ := heeds
    rw [deliver_offer]
    cases answer : (h a r).1 with
    | true => exact ih true later _ (goes a r hr answer)
    | false =>
      rw [stopped]
      exact .inr (stops a r hr answer)

end Instance

end ConnectorHub
