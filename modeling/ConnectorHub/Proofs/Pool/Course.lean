import ConnectorHub.Proofs.Pool.Turnover

namespace ConnectorHub.Pool

open ConnectorHub.Action

variable {σ κ : Type}

/-- The idle instances that a borrow evicts. -/
def dueAt (s : At σ κ) : List (IdleInstance σ κ) :=
  due s.1.clock s.2.settings.minIdle.toNat s.2.settings.minEvictableIdle.toNat s.2.idle

/-- The other idle instances. -/
def keptAt (s : At σ κ) : List (IdleInstance σ κ) := s.2.idle.drop (dueAt s).length

/-- How a borrow goes that evicts the `due` instances and then takes from the `kept` ones, and what
it leaves of them. -/
inductive Course (f : Factory σ κ) (given : Fields) (due kept : List (IdleInstance σ κ))
    (s : Site σ κ) : Except Stop (Instance σ κ) → List (IdleInstance σ κ) → Site σ κ → Prop where
  | through {t u : Site σ κ} {result : Except Stop (Instance σ κ)} {cares : List Care}
      {left : List (IdleInstance σ κ)} (evicted : Evicts due s (.ok ()) t)
      (takes : Takes f given kept t result cares left u)
      (done : s.Cares u (disposals due ++ cares)) : Course f given due kept s result left u
  | cut {t : Site σ κ} {why : Stop} {part : List (IdleInstance σ κ)}
      (evicted : Evicts due s (.error why) t) (first : part <+: due)
      (done : s.Cares t (disposals part)) : Course f given due kept s (.error why) kept.dropLast t

theorem Course.clock {f : Factory σ κ} {given : Fields} {due kept left : List (IdleInstance σ κ)}
    {s t : Site σ κ} {result : Except Stop (Instance σ κ)}
    (h : Course f given due kept s result left t) : t.clock = s.clock := by
  cases h with
  | through evicted takes done => exact done.clock
  | cut evicted first done => exact done.clock

/-- The gate after a borrow of this result: it has taken a permit, and given it back if it failed. -/
def gateAfter (take : Semaphore → Semaphore) (g : Semaphore) :
    Except Stop (Instance σ κ) → Semaphore
  | .ok _ => take g
  | .error _ => (take g).release

/-- What a borrow does that has a permit to take. -/
structure Turns (take : Semaphore → Semaphore) (s : At σ κ) (result : Except Stop (Instance σ κ))
    (t : At σ κ) : Prop where
  whole : dueAt s ++ keptAt s = s.2.idle
  oldest : ∀ e ∈ dueAt s, ∀ f ∈ keptAt s, e.returnedAt ≤ f.returnedAt
  course : Course s.2.factory s.2.properties (dueAt s) (keptAt s) s.1 result t.2.idle t.1
  left : t.2.idle <+: keptAt s
  rest : t.2 = { s.2 with idle := t.2.idle, gate := gateAfter take s.2.gate result }

section

variable {p : Pool σ κ} {s t : Site σ κ} {result : Except Stop (Instance σ κ)}
  {left : List (IdleInstance σ κ)}

theorem splitStale_at (ordered : InOrder p.idle) :
    splitStale s.clock p.settings.minIdle.toNat p.settings.minEvictableIdle.toNat p.idle =
      (dueAt (s, p), keptAt (s, p)) := by
  have whole := splitStale_append s.clock p.settings.minIdle.toNat
    p.settings.minEvictableIdle.toNat p.idle
  have first : (splitStale s.clock p.settings.minIdle.toNat p.settings.minEvictableIdle.toNat
    p.idle).1 = dueAt (s, p) := splitStale_fst ordered
  refine Prod.ext first ?_
  rw [keptAt, ← first]
  generalize splitStale s.clock p.settings.minIdle.toNat p.settings.minEvictableIdle.toNat
    p.idle = split at whole
  rw [← whole, List.drop_left]

theorem dueAt_append (ordered : InOrder p.idle) : dueAt (s, p) ++ keptAt (s, p) = p.idle := by
  have whole := splitStale_append s.clock p.settings.minIdle.toNat
    p.settings.minEvictableIdle.toNat p.idle
  rwa [splitStale_at ordered] at whole

theorem settled_keptAt (ordered : InOrder p.idle) {clock : Nat} (same : clock = s.clock) :
    Settled clock p.settings.minIdle.toNat p.settings.minEvictableIdle.toNat (keptAt (s, p)) := by
  have settled : Settled s.clock p.settings.minIdle.toNat p.settings.minEvictableIdle.toNat
      (splitStale s.clock p.settings.minIdle.toNat p.settings.minEvictableIdle.toNat p.idle).2 :=
    settled_splitStale p.idle
  rwa [splitStale_at ordered, ← same] at settled

/-- A round more is no harm where there is nothing to take. -/
theorem takeLive_rounds (s : Site σ κ) (p : Pool σ κ) :
    ∃ tries, p.idle.length ≤ tries + 1 ∧
      takeLive p.idle.length (s, p) = takeLive (tries + 1) (s, p) := by
  cases length : p.idle.length with
  | zero =>
    have empty : p.idle = [] := List.eq_nil_of_length_eq_zero length
    have settled : SettledAt s p := by
      rw [SettledAt, empty]
      rfl
    have pop := popIdle_of_settled settled
    refine ⟨0, Nat.zero_le 1, ?_⟩
    rw [takeLive, takeLive, bind_of_ok pop, empty]
    exact congrArg (fun idle => createPooled (s, { p with idle := idle })) empty
  | succ tries => exact ⟨tries, Nat.le_refl _, rfl⟩

theorem dueAt_oldest (ordered : InOrder p.idle) :
    ∀ e ∈ dueAt (s, p), ∀ f ∈ keptAt (s, p), e.returnedAt ≤ f.returnedAt := by
  rw [InOrder, ← dueAt_append (s := s) ordered, List.pairwise_append] at ordered
  exact ordered.2.2

/-- Only the first round evicts: after it the pool is as if there had been nothing to evict. -/
theorem takeLive_course (ordered : InOrder p.idle) :
    ∃ result left t, takeLive p.idle.length (s, p) = (result, (t, { p with idle := left })) ∧
      Course p.factory p.properties (dueAt (s, p)) (keptAt (s, p)) s result left t ∧
      left <+: keptAt (s, p) := by
  obtain ⟨tries, enough, same⟩ := takeLive_rounds s p
  have fewer : (keptAt (s, p)).length ≤ tries + 1 := by
    rw [keptAt, List.length_drop]
    exact Nat.le_trans (Nat.sub_le _ _) enough
  obtain ⟨r, t, pop, evicted⟩ := popIdle_evicts s p
  rw [splitStale_at ordered] at pop evicted
  obtain ⟨part, first, all, cares⟩ := evicted.cares
  rw [same]
  cases r with
  | ok done =>
    have settled : SettledAt t { p with idle := keptAt (s, p) } :=
      settled_keptAt ordered cares.clock
    obtain ⟨result, more, left, u, run, takes, later⟩ := takeLive_takes fewer settled
    rw [takeLive, bind_of_ok (popIdle_of_settled settled)] at run
    rw [all rfl] at cares
    rw [takeLive, bind_of_ok pop]
    exact ⟨result, left, u, run, .through evicted takes (cares.append later), takes.prefix_left⟩
  | error why =>
    rw [takeLive, bind_of_error pop]
    exact ⟨_, _, t, rfl, .cut evicted first cares, List.dropLast_prefix _⟩

theorem enter_turns (take : Semaphore → Semaphore) (ordered : InOrder p.idle) :
    Turns take (s, p) (enter take (s, p)).1 (enter take (s, p)).2 := by
  obtain ⟨result, left, t, run, course, prefixed⟩ :=
    takeLive_course (s := s) (p := p.regate take) ordered
  have entered : enter take (s, p) =
      (result, (t, { p with idle := left, gate := gateAfter take p.gate result })) := by
    have start : enter take (s, p) = Action.onStop (takeLive p.idle.length)
      (fun s => (s.1, s.2.regate .release)) (s, p.regate take) := rfl
    have length : (p.regate take).idle.length = p.idle.length := rfl
    rw [length] at run
    rw [start, Action.onStop, run]
    cases result <;> rfl
  rw [entered]
  exact ⟨dueAt_append ordered, dueAt_oldest ordered, course, prefixed, rfl⟩

theorem borrow_eq_enter (opened : p.closed = false) (free : 0 < p.gate.free) :
    borrow (s, p) = enter .take (s, p) := by
  rw [borrow, bind_apply, get_apply]
  dsimp only
  rw [if_neg (by simp [opened]), if_pos free]

theorem begin_eq_ended (opened : p.closed = false) (free : 0 < p.gate.free) :
    begin (s, p) = ended borrow (s, p) := by
  have entered : ended borrow (s, p) = ended (enter .take) (s, p) := by
    rw [ended, ended, bind_apply, bind_apply, Action.attempt, Action.attempt,
      borrow_eq_enter opened free]
  rw [entered, begin, bind_apply, get_apply]
  dsimp only
  rw [if_neg (by simp [opened]), if_pos free]

/-- Where no permit is free a borrow queues behind the others. -/
theorem begin_eq_waiting (opened : p.closed = false) (none : ¬0 < p.gate.free) :
    begin (s, p) =
      (.ok (.waiting ⟨p.gate.ticket, s.clock + p.settings.maxWait.toNat⟩), (s, p.regate .join)) := by
  rw [begin, bind_apply, get_apply]
  dsimp only
  rw [if_neg (by simp [opened]), if_neg none]
  rfl

theorem resume_eq_ended {w : Waiter} (handed : w.ticket ∈ p.gate.handed) :
    resume (.waiting w) (s, p) = ended (enter (.claim w.ticket)) (s, p) := by
  rw [resume, bind_apply, get_apply]
  dsimp only
  rw [if_pos handed]

theorem resume_eq_waiting {w : Waiter} (unhanded : w.ticket ∉ p.gate.handed) :
    resume (.waiting w) (s, p) = (.ok (.waiting w), (s, p)) := by
  rw [resume, bind_apply, get_apply]
  dsimp only
  rw [if_neg unhanded]
  rfl

end

end ConnectorHub.Pool
