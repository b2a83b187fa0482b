import ConnectorHub.Connector.Instance
import ConnectorHub.Proofs.Action.Keeps

namespace ConnectorHub

open ConnectorHub.Action

variable {σ κ α β : Type} {kind kind' : Entry κ → Prop} {before : List (Entry κ)}

/-- The journal has grown from `before` on by entries of one kind. -/
def Site.Grown (kind : Entry κ → Prop) (before : List (Entry κ)) (s : Site σ κ) : Prop :=
  ∃ es, s.journal = before ++ es ∧ ∀ e ∈ es, kind e

theorem Site.grown_self (s : Site σ κ) : s.Grown kind s.journal :=
  ⟨[], (List.append_nil _).symm, fun _ he => absurd he List.not_mem_nil⟩

theorem Site.Grown.mono {s : Site σ κ} (h : s.Grown kind before) (hk : ∀ e, kind e → kind' e) :
    s.Grown kind' before := by
  obtain ⟨es, grown, hes⟩ := h
  exact ⟨es, grown, fun e he => hk e (hes e he)⟩

theorem Site.Grown.append {s t : Site σ κ} (h : s.Grown kind before)
    (later : t.Grown kind s.journal) : t.Grown kind before := by
  obtain ⟨es, had, hes⟩ := h
  obtain ⟨more, grown, hmore⟩ := later
  refine ⟨es ++ more, by rw [grown, had, List.append_assoc], fun e he => ?_⟩
  exact (List.mem_append.mp he).elim (hes e) (hmore e)

theorem Site.Grown.write {s : Site σ κ} (h : s.Grown kind before) {e : Entry κ} (he : kind e) :
    Site.Grown kind before { s with journal := s.journal ++ [e] } :=
  h.append ⟨[e], rfl, fun _ hm => List.mem_singleton.mp hm ▸ he⟩

/-- All that it writes is of one kind. -/
def Writes (kind : Entry κ → Prop) (x : Action (Site σ κ) α) : Prop :=
  ∀ before, Keeps (Site.Grown kind before) x

namespace Writes

variable {x : Action (Site σ κ) α} {f : α → Action (Site σ κ) β}

theorem grown (h : Writes kind x) (s : Site σ κ) : (x s).2.Grown kind s.journal :=
  h s.journal s s.grown_self

theorem of_grown (h : ∀ s, (x s).2.Grown kind s.journal) : Writes kind x :=
  fun _ s held => held.append (h s)

theorem mono (h : Writes kind x) (hk : ∀ e, kind e → kind' e) : Writes kind' x :=
  of_grown fun s => (h.grown s).mono hk

theorem pure (a : α) : Writes kind (Pure.pure a : Action (Site σ κ) α) := fun _ => .pure a

theorem fail (e : Error) : Writes kind (Action.fail e : Action (Site σ κ) α) := fun _ => .fail e

theorem bind (hx : Writes kind x) (hf : ∀ a, Writes kind (f a)) : Writes kind (x >>= f) :=
  fun before => (hx before).bind fun a => hf a before

theorem ofExcept_bind {r : Except Error α} (h : ∀ a, r = .ok a → Writes kind (f a)) :
    Writes kind (Action.ofExcept r >>= f) :=
  of_grown fun s => held_ofExcept_bind s.grown_self fun a ha => (h a ha).grown s

theorem onResource (x : Action σ α) : Writes kind (Site.onResource x : Action (Site σ κ) α) :=
  fun _ => Keeps.zoom fun _ held => held

theorem write {e : Entry κ} (h : kind e) : Writes kind (Site.write e : Action (Site σ κ) Unit) :=
  of_grown fun _ => ⟨[e], rfl, fun _ he => List.mem_singleton.mp he ▸ h⟩

end Writes

/-- What an update was called with. -/
def Entry.replaced? : Entry κ → Option AttributeSet
  | .called _ (.update _ _ attributes _) => some attributes
  | _ => none

/-- The object that a connector has handed over. -/
def Entry.object? : Entry κ → Option ResourceObject
  | .handledObject _ o _ => some o
  | _ => none

/-- The delta that a connector has handed over. -/
def Entry.delta? : Entry κ → Option SyncDelta
  | .handledDelta _ d _ => some d
  | _ => none

namespace Site

variable {item? : Entry κ → Option α} {as bs : List α} {s t : Site σ κ}

/-- The entries since `before` show these items. -/
def Shows (item? : Entry κ → Option α) (before : List (Entry κ)) (as : List α) (s : Site σ κ) :
    Prop :=
  ∃ es, s.journal = before ++ es ∧ es.filterMap item? = as

theorem shows_self (s : Site σ κ) : s.Shows item? s.journal [] :=
  ⟨[], (List.append_nil _).symm, rfl⟩

theorem shows_all (h : s.journal.filterMap item? = as) : s.Shows item? [] as :=
  ⟨s.journal, rfl, h⟩

theorem Grown.shows (h : s.Grown kind before) (hk : ∀ e, kind e → item? e = none) :
    s.Shows item? before [] := by
  obtain ⟨es, grown, hes⟩ := h
  exact ⟨es, grown, List.filterMap_eq_nil_iff.mpr fun e he => hk e (hes e he)⟩

theorem Shows.append (h : s.Shows item? before as) (later : t.Shows item? s.journal bs) :
    t.Shows item? before (as ++ bs) := by
  obtain ⟨es, had, rfl⟩ := h
  obtain ⟨more, grown, rfl⟩ := later
  exact ⟨es ++ more, by rw [grown, had, List.append_assoc], List.filterMap_append⟩

end Site

namespace Instance

variable {i : Instance σ κ}

theorem asks_writes (c : Capability) : Writes kind (i.connector.asks i.id c) :=
  Writes.onResource _

theorem require_writes (c : Capability) : Writes kind (i.require c) := by
  unfold require
  split
  · refine (asks_writes c).bind fun has => ?_
    cases has with
    | true => exact .pure ()
    | false => exact .fail _
  · exact .fail _

theorem changesValues_writes : Writes kind i.changesValues := by
  unfold changesValues
  split
  · exact asks_writes _
  · exact .pure false

theorem call_writes {x : Call} (h : kind (.called i.id x)) : Writes kind (i.call x) :=
  (Writes.write h).bind fun _ => .onResource _

theorem translate_writes {oc : ObjectClass} {options : Options} {f : Filter}
    (h : kind (.translated i.id oc f options)) : Writes kind (i.translate oc options f) :=
  (Writes.write h).bind fun _ => .onResource _

end Instance

end ConnectorHub
