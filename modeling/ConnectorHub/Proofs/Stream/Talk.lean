import ConnectorHub.Proofs.Stream.Record

namespace ConnectorHub

variable {σ κ ρ α β γ : Type}

/-- The feed comes to its end by these items, each with the answer that it got. -/
inductive Feed.Talks : Feed α β → List (α × Bool) → β → Prop where
  | finish (b : β) : Talks (.finish b) [] b
  | offer (a : α) (more : Bool) {next : Bool → Feed α β} {talk : List (α × Bool)} {b : β} :
    Talks (next more) talk b → Talks (.offer a next) ((a, more) :: talk) b

/-- A handler behind a change of the items answers what it does to the changed ones. -/
theorem map_snd_answered_change (h : Handler ρ β) (f : α → β) (as : List α) (r : ρ) :
    (answered (fun a => h (f a)) as r).map Prod.snd = (answered h (as.map f) r).map Prod.snd := by
  induction as generalizing r with
  | nil => rfl
  | cons a as ih => exact congrArg (List.cons _) (ih _)

/-- What entries of a talk show of it. -/
theorem filterMap_talk {item? : Entry κ → Option γ} {entry : α → Bool → Entry κ} {g : α → Bool → γ}
    (shown : ∀ a more, item? (entry a more) = some (g a more)) (talk : List (α × Bool)) :
    (talk.map fun x => entry x.1 x.2).filterMap item? = talk.map fun x => g x.1 x.2 := by
  rw [List.filterMap_map, ← List.filterMap_eq_map]
  exact List.filterMap_congr fun x _ => shown x.1 x.2

namespace Instance

theorem deliver_talks (entry : α → Bool → Entry κ) (h : Handler ρ α) (feed : Feed α β)
    (s : Site σ κ) (r : ρ) :
    ∃ as b, feed.Talks (answered h as r) b ∧
      deliver entry h feed (s, r) =
        (b, ({ s with journal := s.journal ++ (answered h as r).map fun x => entry x.1 x.2 },
          taken h as r)) := by
  induction feed generalizing s r with
  | finish b => exact ⟨[], b, .finish b, by simp [deliver, answered]⟩
  | offer a next ih =>
    obtain ⟨as, b, talks, run⟩ :=
      ih (h a r).1 { s with journal := s.journal ++ [entry a (h a r).1] } (h a r).2
    refine ⟨a :: as, b, .offer a _ talks, ?_⟩
    rw [deliver_offer, run]
    simp [answered]

theorem stream_talks (entry : α → Bool → Entry κ) (h : Handler ρ α)
    (start : σ → Feed α (Except Stop Unit × σ)) (s : Site σ κ) (r : ρ) :
    ∃ as result t, (start s.resource).Talks (answered h as r) (result, t) ∧
      stream entry h start (s, r) =
        (result,
          ({ s with
              resource := t
              journal := s.journal ++ (answered h as r).map fun x => entry x.1 x.2 },
            taken h as r)) := by
  obtain ⟨as, ⟨result, t⟩, talks, run⟩ := deliver_talks entry h (start s.resource) s r
  refine ⟨as, result, t, talks, ?_⟩
  rw [stream, run]

end Instance

end ConnectorHub
