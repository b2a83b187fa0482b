import ConnectorHub.Proofs.Stream.Talk

namespace ConnectorHub

open ConnectorHub.Action

variable {σ κ ρ τ α β : Type}

/-- The site that a computation beside no caller runs on. -/
abbrev Site.self (s : Site σ κ) : Site σ κ := s

/-- From wherever the run starts, the condition holds of its end, of what it has written by then and
of the resource it leaves. -/
def Leaves (site : τ → Site σ κ) (Q : Except Stop α → List (Entry κ) → σ → Prop)
    (x : Action τ α) : Prop :=
  ∀ s, ∃ es, (site (x s).2).journal = (site s).journal ++ es ∧ Q (x s).1 es (site (x s).2).resource

namespace Leaves

variable {site : τ → Site σ κ} {Q Q' : Except Stop α → List (Entry κ) → σ → Prop}
  {R P : Except Stop β → List (Entry κ) → σ → Prop} {x : Action τ α} {f : α → Action τ β}

theorem mono (h : Leaves site Q x) (hq : ∀ r es t, Q r es t → Q' r es t) : Leaves site Q' x := by
  intro s
  obtain ⟨es, grown, held⟩ := h s
  exact ⟨es, grown, hq _ es _ held⟩

theorem pure {a : α} (h : ∀ t, Q (.ok a) [] t) : Leaves site Q (Pure.pure a) :=
  fun _ => ⟨[], (List.append_nil _).symm, h _⟩

theorem fail {e : Error} (h : ∀ t, Q (.error (.error e)) [] t) : Leaves site Q (Action.fail e) :=
  fun _ => ⟨[], (List.append_nil _).symm, h _⟩

/-- A run that stops leaves what it has left so far; one that goes on adds what comes after. -/
theorem bind (hx : Leaves site Q x) (hf : ∀ a, Leaves site R (f a))
    (stops : ∀ why es t, Q (.error why) es t → P (.error why) es t)
    (goes : ∀ a es t r es' t', Q (.ok a) es t → R r es' t' → P r (es ++ es') t') :
    Leaves site P (x >>= f) := by
  intro s
  obtain ⟨es, grown, held⟩ := hx s
  rw [bind_apply]
  cases run : x s with
  | mk result u =>
    rw [run] at grown held
    cases result with
    | error why => exact ⟨es, grown, stops why es _ held⟩
    | ok a =>
      obtain ⟨es', grown', held'⟩ := hf a u
      refine ⟨es ++ es', ?_, goes a es _ _ es' _ held held'⟩
      rw [grown', grown, List.append_assoc]

theorem get_bind {f : τ → Action τ β} (h : ∀ u, Leaves site R (f u)) :
    Leaves site R (Action.get >>= f) :=
  fun s => h s s

theorem onFirst {x : Action (Site σ κ) α} (h : Leaves Site.self Q x) :
    Leaves Prod.fst Q (Action.onFirst x : Action (Site σ κ × ρ) α) :=
  fun s => h s.1

theorem of_writes {kind : Entry κ → Prop} {x : Action (Site σ κ) α} (h : Writes kind x) :
    Leaves Site.self (fun _ es _ => ∀ e ∈ es, kind e) x :=
  h.grown

theorem write (e : Entry κ) :
    Leaves Site.self (fun r es _ => r = .ok () ∧ es = [e]) (Site.write e : Action (Site σ κ) Unit) :=
  fun _ => ⟨[e], rfl, rfl, rfl⟩

/-- A call ends as the connector answers it. -/
theorem call (i : Instance σ κ) (c : Call) :
    Leaves Site.self (fun r es t => es = [.called i.id c] ∧ ∃ s, i.connector.perform i.id c s = (r, t))
      (i.call c) :=
  fun s => ⟨[.called i.id c], rfl, rfl, s.resource, rfl⟩

/-- A stream ends as its feed does. -/
theorem stream (entry : α → Bool → Entry κ) (h : Handler ρ α)
    (start : σ → Feed α (Except Stop Unit × σ)) :
    Leaves Prod.fst (fun r _ t => ∃ s talk, (start s).Talks talk (r, t))
      (Instance.stream entry h start) := by
  rintro ⟨s, r⟩
  obtain ⟨as, result, t, talks, run⟩ := Instance.stream_talks entry h start s r
  rw [run]
  exact ⟨_, rfl, s.resource, _, talks⟩

end Leaves

end ConnectorHub
