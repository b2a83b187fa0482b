import ConnectorHub.Pool.Basic
import ConnectorHub.Proofs.Likeness.Instance
import ConnectorHub.Proofs.Pool.Custody

namespace ConnectorHub

open ConnectorHub.Action

variable {σ κ : Type}

/-- Instances can always be made, and are `known`, whatever their rules. To see to them keeps `I`
and is not cut short. -/
structure Factory.Steady (f : Factory σ κ) (given : Fields) (known : Instance σ κ → Prop)
    (I : Site σ κ → Prop) : Prop where
  note {s : Site σ κ} (n : Note) : I s → I { s with journal := s.journal ++ [.noted n] }
  upkeep {i : Instance σ κ} {x : Call} : known i → x.isUpkeep = true →
    Triple I (i.call x) (fun _ => I) fun why s => why.abrupt = false ∧ I s
  create : Triple I (Instance.create f given) (fun i s => known i ∧ I s) fun _ _ => False
  ruled {i : Instance σ κ} (rule : Option NormalRule) : known i → known { i with rule := rule }

namespace Pool

/-- Of the factory and properties, open, with so many permits, for which nobody waits, and with
`known` instances only. -/
structure Ready (f : Factory σ κ) (given : Fields) (known : Instance σ κ → Prop)
    (I : Site σ κ → Prop) (m : Nat) (s : At σ κ) : Prop where
  factory : s.2.factory = f
  properties : s.2.properties = given
  opened : s.2.closed = false
  gate : s.2.gate = ⟨m, [], []⟩
  idle : ∀ e ∈ s.2.idle, known e.member
  site : I s.1

section

variable {f : Factory σ κ} {given : Fields} {known : Instance σ κ → Prop} {I : Site σ κ → Prop}
  {m : Nat} {s : At σ κ} {i : Instance σ κ}

/-- What holds of the site may change, and the pool stays as it is. -/
theorem Ready.at {J : Site σ κ → Prop} {t : Site σ κ} (hs : Ready f given known I m s) (ht : J t) :
    Ready f given known J m (t, s.2) :=
  ⟨hs.factory, hs.properties, hs.opened, hs.gate, hs.idle, ht⟩

/-- What keeps the site of a ready pool leaves the pool ready. -/
theorem Ready.onFirst {α : Type} {x : Action (Site σ κ) α} (Q : α → Prop) (E : Stop → Prop)
    (hx : Triple I x (fun a s => Q a ∧ I s) fun why s => E why ∧ I s) :
    Triple (Ready f given known I m) (Action.onFirst x) (fun a s => Q a ∧ Ready f given known I m s)
      fun why s => E why ∧ Ready f given known I m s := by
  intro s hs
  have ended := hx s.1 hs.site
  unfold Action.onFirst Action.zoom
  cases run : x s.1 with
  | mk result t =>
    rw [run] at ended
    cases result <;> exact ⟨ended.1, hs.at ended.2⟩

variable (h : f.Steady given known I)
include h

end

end Pool

end ConnectorHub
