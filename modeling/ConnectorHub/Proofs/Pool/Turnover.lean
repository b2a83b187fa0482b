import ConnectorHub.Proofs.Connector.Writes
import ConnectorHub.Proofs.Pool.Eviction
import ConnectorHub.Proofs.Pool.Usage

namespace ConnectorHub

open ConnectorHub.Action

variable {σ κ : Type}

/-- What is done to instances, told by their numbers. -/
inductive Care where
  | made (id : Nat)
  | probed (id : Nat)
  | disposed (id : Nat)
  deriving DecidableEq

def Entry.care? : Entry κ → Option Care
  | built id _ => some (.made id)
  | called id .checkAlive => some (.probed id)
  | called id .dispose => some (.disposed id)
  | _ => none

namespace Site

/-- Nothing happens but that notes are made. -/
def Noted (s t : Site σ κ) : Prop :=
  ∃ ns : List Note, t = { s with journal := s.journal ++ ns.map .noted }

theorem noted_self (s : Site σ κ) : s.Noted s := ⟨[], by simp⟩

theorem noted_write (s : Site σ κ) (n : Note) :
    s.Noted { s with journal := s.journal ++ [.noted n] } := ⟨[n], rfl⟩

theorem Noted.clock {s t : Site σ κ} (h : s.Noted t) : t.clock = s.clock := by
  obtain ⟨ns, rfl⟩ := h
  rfl

theorem Noted.shows {s t : Site σ κ} (h : s.Noted t) : t.Shows Entry.care? s.journal [] := by
  obtain ⟨ns, rfl⟩ := h
  refine ⟨ns.map .noted, rfl, List.filterMap_eq_nil_iff.mpr fun e he => ?_⟩
  obtain ⟨n, -, rfl⟩ := List.mem_map.mp he
  rfl

/-- From one site to the next these things are done to instances, and no time passes. -/
structure Cares (s t : Site σ κ) (cares : List Care) : Prop where
  shows : t.Shows Entry.care? s.journal cares
  clock : t.clock = s.clock

theorem Noted.cares {s t : Site σ κ} (h : s.Noted t) : s.Cares t [] := ⟨h.shows, h.clock⟩

theorem Cares.append {s t u : Site σ κ} {first later : List Care} (h : s.Cares t first)
    (next : t.Cares u later) : s.Cares u (first ++ later) :=
  ⟨h.shows.append next.shows, next.clock.trans h.clock⟩

end Site

theorem Connector.call_cares {c : Connector σ κ} {id : Nat} {x : Call} {s t : Site σ κ}
    {r : Except Stop x.Reply} (run : c.call id x s = (r, t)) :
    s.Cares t (Entry.care? (κ := κ) (.called id x)).toList := by
  have same : t = (c.call id x s).2 := by rw [run]
  subst same
  refine ⟨⟨[.called id x], rfl, ?_⟩, rfl⟩
  cases h : Entry.care? (κ := κ) (.called id x) <;> simp [h]

theorem Connector.probe_cares (c : Connector σ κ) (id : Nat) (capabilities : List Capability)
    (found : CapabilitySet) (s : Site σ κ) :
    ∃ all t, c.probe id capabilities found s = (.ok all, t) ∧ s.Cares t [] := by
  induction capabilities generalizing found s with
  | nil => exact ⟨found, s, rfl, s.noted_self.cares⟩
  | cons capability rest ih =>
    have asked : s.Cares (c.asks id capability s).2 [] :=
      ⟨⟨[], (List.append_nil _).symm, rfl⟩, rfl⟩
    obtain ⟨all, t, run, cares⟩ := ih
      (if (c.provides id capability s.resource).1 then found.insert capability else found)
      (c.asks id capability s).2
    exact ⟨all, t, run, asked.append cares⟩

/-- What is done to an instance of this number when it is made. -/
inductive Makes (id : Nat) : Except Stop (Instance σ κ) → List Care → Prop where
  | made {i : Instance σ κ} (number : i.id = id) : Makes id (.ok i) [.made id]
  | failed (e : Error) : Makes id (.error (.error e)) [.made id, .disposed id]
  | cut {why : Stop} {cares : List Care} (abrupt : why.abrupt = true)
      (part : cares <+: [.disposed id]) : Makes id (.error why) (.made id :: cares)

namespace Instance

variable {i : Instance σ κ} {s t u : Site σ κ}

theorem create_makes (f : Factory σ κ) (given : Fields) (s : Site σ κ) :
    ∃ result cares t, create f given s = (result, t) ∧ Makes s.built result cares ∧
      s.Cares t cares := by
  let built := (Site.construct f.tag s).2
  have constructed : s.Cares built [.made s.built] := ⟨⟨[.built s.built f.tag], rfl, rfl⟩, rfl⟩
  cases init : f.connector.call s.built (.init given) built with
  | mk answer t =>
  have asked : s.Cares t [.made s.built] := constructed.append (Connector.call_cares init)
  have start {α : Type} (rest : Nat → Action (Site σ κ) α) :
      (Site.construct f.tag >>= rest) s = rest s.built built := rfl
  rw [create, start]
  obtain ⟨done, rfl, tried⟩ | ⟨e, rfl, tried⟩ | ⟨why, abrupt, rfl, tried⟩ :=
    Action.attempt_cases init
  · obtain ⟨capabilities, u, probed, quiet⟩ :=
      f.connector.probe_cares s.built Capability.all .empty t
    rw [bind_of_ok tried]
    dsimp only
    rw [bind_of_ok probed]
    exact ⟨_, _, u, rfl, .made rfl, asked.append quiet⟩
  · rw [bind_of_ok tried]
    dsimp only
    cases dispose : f.connector.call s.built .dispose t with
    | mk answer u =>
    have disposed := asked.append (Connector.call_cares dispose)
    obtain ⟨done, rfl, tried⟩ | ⟨e', rfl, tried⟩ | ⟨why, abrupt, rfl, tried⟩ :=
      Action.attempt_cases dispose
    · rw [bind_of_ok tried]
      exact ⟨_, _, u, rfl, .failed e, disposed⟩
    · rw [bind_of_ok tried]
      exact ⟨_, _, _, rfl, .failed e, disposed.append (u.noted_write _).cares⟩
    · rw [bind_of_error tried]
      exact ⟨_, _, u, rfl, .cut abrupt (List.prefix_refl _), disposed⟩
  · rw [bind_of_error tried]
    exact ⟨_, _, t, rfl, .cut abrupt List.nil_prefix, asked⟩

theorem checkAlive_cares {r : Except Stop Unit} (run : i.checkAlive s = (r, t)) :
    s.Cares t [.probed i.id] :=
  Connector.call_cares (x := .checkAlive) run

theorem dispose_cares {r : Except Stop Unit} (run : i.dispose s = (r, t)) :
    s.Cares t [.disposed i.id] :=
  Connector.call_cares (x := .dispose) run

/-- An instance is disposed of. A failure is noted unless it cuts the call short. -/
inductive Sheds (i : Instance σ κ) (s : Site σ κ) : Except Stop Unit → Site σ κ → Prop where
  | gone {r : Except Stop Unit} {t u : Site σ κ} (run : i.dispose s = (r, t))
      (settled : Pool.cutBy r = false) (noted : t.Noted u) : Sheds i s (.ok ()) u
  | cut {why : Stop} {t : Site σ κ} (run : i.dispose s = (.error why, t))
      (abrupt : why.abrupt = true) : Sheds i s (.error why) t

theorem Sheds.cares {r : Except Stop Unit} (h : i.Sheds s r t) : s.Cares t [.disposed i.id] := by
  cases h with
  | gone run settled noted => exact (dispose_cares run).append noted.cares
  | cut run abrupt => exact dispose_cares run

end Instance

namespace Pool

variable {p : Pool σ κ} {s t u : Site σ κ} {es : List (IdleInstance σ κ)}

theorem discard_sheds (i : Instance σ κ) (s : Site σ κ) (p : Pool σ κ) :
    ∃ r t, discard i (s, p) = (r, (t, p)) ∧ i.Sheds s r t := by
  cases dispose : i.dispose s with
  | mk answer t =>
  rw [discard]
  obtain ⟨done, rfl, tried⟩ | ⟨e, rfl, tried⟩ | ⟨why, abrupt, rfl, tried⟩ :=
    Action.attempt_cases (Action.onFirst_of_run (r := p) dispose)
  · rw [bind_of_ok tried]
    exact ⟨_, t, rfl, .gone dispose rfl t.noted_self⟩
  · rw [bind_of_ok tried]
    exact ⟨_, _, rfl, .gone dispose rfl (t.noted_write _)⟩
  · rw [bind_of_error tried]
    exact ⟨_, t, rfl, .cut dispose abrupt⟩

/-- Instances are evicted one after the other, until none is left or a call is cut short. -/
inductive Evicts : List (IdleInstance σ κ) → Site σ κ → Except Stop Unit → Site σ κ → Prop where
  | none (s : Site σ κ) : Evicts [] s (.ok ()) s
  | next {e : IdleInstance σ κ} {es : List (IdleInstance σ κ)} {s t u v : Site σ κ}
      {r : Except Stop Unit} (noted : s.Noted t) (gone : e.member.Sheds t (.ok ()) u)
      (rest : Evicts es u r v) : Evicts (e :: es) s r v
  | cut {e : IdleInstance σ κ} {es : List (IdleInstance σ κ)} {s t u : Site σ κ} {why : Stop}
      (noted : s.Noted t) (cut : e.member.Sheds t (.error why) u) : Evicts (e :: es) s (.error why) u

def disposals (es : List (IdleInstance σ κ)) : List Care := es.map fun e => .disposed e.member.id

theorem Evicts.cares {r : Except Stop Unit} (h : Evicts es s r t) :
    ∃ part, part <+: es ∧ (r = .ok () → part = es) ∧ s.Cares t (disposals part) := by
  induction h with
  | none s => exact ⟨[], List.prefix_refl _, fun _ => rfl, s.noted_self.cares⟩
  | @next e es s t u v r noted gone rest ih =>
    obtain ⟨part, sub, whole, cares⟩ := ih
    refine ⟨e :: part, (List.prefix_cons_inj e).mpr sub, fun ok => by rw [whole ok], ?_⟩
    exact (noted.cares.append gone.cares).append cares
  | @cut e es s t u why noted cut =>
    refine ⟨[e], ?_, (fun ok => nomatch ok), noted.cares.append cut.cares⟩
    exact (List.prefix_cons_inj e).mpr List.nil_prefix

theorem evicts (es : List (IdleInstance σ κ)) (s : Site σ κ) (p : Pool σ κ) :
    ∃ r t, Action.forEach es (fun e => do note .evicting; discard e.member) (s, p) = (r, (t, p)) ∧
      Evicts es s r t := by
  induction es generalizing s with
  | nil => exact ⟨_, s, rfl, .none s⟩
  | cons e rest ih =>
    let noted : Site σ κ := { s with journal := s.journal ++ [.noted (.evicting p.factory.key)] }
    obtain ⟨r, t, run, sheds⟩ := discard_sheds e.member noted p
    have first : (do note .evicting; discard e.member : Action (At σ κ) Unit) (s, p) = (r, (t, p)) :=
      run
    rw [Action.forEach]
    cases r with
    | ok done =>
      obtain ⟨r, u, run, evicted⟩ := ih t
      rw [bind_of_ok first]
      exact ⟨r, u, run, .next (s.noted_write _) sheds evicted⟩
    | error why =>
      rw [bind_of_error first]
      exact ⟨_, t, rfl, .cut (s.noted_write _) sheds⟩

/-- Taking an instance where none is to be evicted. The latest returned is tried first; one that
proves dead is disposed of, and only where none is left is a new one made. `left` are those not
tried. -/
inductive Takes (f : Factory σ κ) (given : Fields) : List (IdleInstance σ κ) → Site σ κ →
    Except Stop (Instance σ κ) → List Care → List (IdleInstance σ κ) → Site σ κ → Prop where
  | alive {left : List (IdleInstance σ κ)} {e : IdleInstance σ κ} {s t : Site σ κ}
      (probed : e.member.checkAlive s = (.ok (), t)) :
      Takes f given (left ++ [e]) s (.ok e.member) [.probed e.member.id] left t
  | dead {es left : List (IdleInstance σ κ)} {e : IdleInstance σ κ} {s t u v w : Site σ κ}
      {failure : Error} {result : Except Stop (Instance σ κ)} {cares : List Care}
      (probed : e.member.checkAlive s = (.error (.error failure), t)) (noted : t.Noted u)
      (gone : e.member.Sheds u (.ok ()) v) (rest : Takes f given es v result cares left w) :
      Takes f given (es ++ [e]) s result
        (.probed e.member.id :: .disposed e.member.id :: cares) left w
  | new {s t u : Site σ κ} {result : Except Stop (Instance σ κ)} {cares : List Care}
      (noted : s.Noted t) (run : Instance.create f given t = (result, u))
      (makes : Makes s.built result cares) : Takes f given [] s result cares [] u
  | cutAtProbe {left : List (IdleInstance σ κ)} {e : IdleInstance σ κ} {s t : Site σ κ} {why : Stop}
      (probed : e.member.checkAlive s = (.error why, t)) (abrupt : why.abrupt = true) :
      Takes f given (left ++ [e]) s (.error why) [.probed e.member.id] left t
  | cutAtDisposal {left : List (IdleInstance σ κ)} {e : IdleInstance σ κ} {s t u v : Site σ κ}
      {failure : Error} {why : Stop}
      (probed : e.member.checkAlive s = (.error (.error failure), t)) (noted : t.Noted u)
      (cut : e.member.Sheds u (.error why) v) :
      Takes f given (left ++ [e]) s (.error why)
        [.probed e.member.id, .disposed e.member.id] left v

section

variable {f : Factory σ κ} {given : Fields} {left : List (IdleInstance σ κ)} {cares : List Care}
  {result : Except Stop (Instance σ κ)}

/-- The instances that are left keep their places. -/
theorem Takes.prefix_left (h : Takes f given es s result cares left t) : left <+: es := by
  induction h with
  | alive => exact List.prefix_append _ _
  | dead probed noted gone rest ih => exact ih.trans (List.prefix_append _ _)
  | new => exact List.prefix_refl _
  | cutAtProbe => exact List.prefix_append _ _
  | cutAtDisposal => exact List.prefix_append _ _

end

theorem popIdle_evicts (s : Site σ κ) (p : Pool σ κ) :
    let split := splitStale s.clock p.settings.minIdle.toNat p.settings.minEvictableIdle.toNat p.idle
    ∃ r t, popIdle (s, p) =
        (r.map fun _ => split.2.getLast?.map IdleInstance.member,
          (t, { p with idle := split.2.dropLast })) ∧ Evicts split.1 s r t := by
  intro split
  obtain ⟨r, t, run, evicted⟩ := evicts split.1 s { p with idle := split.2.dropLast }
  refine ⟨r, t, ?_, evicted⟩
  have start : popIdle (s, p) = (do
      Action.forEach split.1 fun e => do note .evicting; discard e.member
      pure (split.2.getLast?.map IdleInstance.member) : Action (At σ κ) _)
      (s, { p with idle := split.2.dropLast }) := rfl
  rw [start]
  cases r with
  | ok done =>
    rw [bind_of_ok run]
    rfl
  | error why =>
    rw [bind_of_error run]
    rfl

/-- Nothing in the pool is to be evicted at the site. -/
def SettledAt (s : Site σ κ) (p : Pool σ κ) : Prop :=
  Settled s.clock p.settings.minIdle.toNat p.settings.minEvictableIdle.toNat p.idle

theorem popIdle_of_settled (settled : SettledAt s p) :
    popIdle (s, p) =
      (.ok (p.idle.getLast?.map IdleInstance.member), (s, { p with idle := p.idle.dropLast })) := by
  obtain ⟨r, t, run, evicted⟩ := popIdle_evicts s p
  rw [SettledAt, Settled] at settled
  simp only [settled] at run evicted
  cases evicted
  exact run

theorem createPooled_makes (s : Site σ κ) (p : Pool σ κ) :
    ∃ result cares t u, createPooled (s, p) = (result, (u, p)) ∧ s.Noted t ∧
      Instance.create p.factory p.properties t = (result, u) ∧ Makes s.built result cares ∧
      s.Cares u cares := by
  let noted : Site σ κ := { s with journal := s.journal ++ [.noted (.creatingPooled p.factory.key)] }
  obtain ⟨result, cares, u, run, makes, done⟩ := Instance.create_makes p.factory p.properties noted
  have quiet : s.Noted noted := s.noted_write _
  refine ⟨result, cares, noted, u, ?_, quiet, run, makes, quiet.cares.append done⟩
  exact Action.onFirst_of_run run

/-- Where none is to be evicted at first, none is later on. -/
theorem takeLive_takes {tries : Nat} (enough : es.length ≤ tries)
    (settled : SettledAt s { p with idle := es }) :
    ∃ result cares left t,
      takeLive tries (s, { p with idle := es }) = (result, (t, { p with idle := left })) ∧
        Takes p.factory p.properties es s result cares left t ∧ s.Cares t cares := by
  have creates (s : Site σ κ) : ∃ result cares left t,
      createPooled (s, { p with idle := [] }) = (result, (t, { p with idle := left })) ∧
        Takes p.factory p.properties [] s result cares left t ∧ s.Cares t cares := by
    obtain ⟨result, cares, t, u, run, noted, created, makes, done⟩ :=
      createPooled_makes s { p with idle := [] }
    exact ⟨result, cares, [], u, run, .new noted created makes, done⟩
  induction tries generalizing s es with
  | zero =>
    cases List.eq_nil_of_length_eq_zero (Nat.le_zero.mp enough)
    exact creates s
  | succ tries ih =>
    rcases List.eq_nil_or_concat' es with rfl | ⟨front, e, rfl⟩
    · rw [takeLive, bind_of_ok (popIdle_of_settled settled)]
      exact creates s
    have pop : popIdle (s, { p with idle := front ++ [e] }) =
        (.ok (some e.member), (s, { p with idle := front })) := by
      simpa using popIdle_of_settled settled
    rw [takeLive, bind_of_ok pop]
    dsimp only
    cases probe : e.member.checkAlive s with
    | mk answer t =>
    have probed := Instance.checkAlive_cares probe
    obtain ⟨done, rfl, tried⟩ | ⟨failure, rfl, tried⟩ | ⟨why, abrupt, rfl, tried⟩ :=
      Action.attempt_cases (Action.onFirst_of_run (r := { p with idle := front }) probe)
    · rw [bind_of_ok tried]
      exact ⟨_, _, front, t, rfl, .alive probe, probed⟩
    · rw [bind_of_ok tried]
      dsimp only
      let noted : Site σ κ := { t with
        journal := t.journal ++ [.noted (.livenessFailed p.factory.key failure)] }
      have quiet : t.Noted noted := t.noted_write _
      obtain ⟨r, u, discarded, sheds⟩ := discard_sheds e.member noted { p with idle := front }
      have cares := (probed.append quiet.cares).append sheds.cares
      have note : (Pool.note fun key => .livenessFailed key failure) (t, { p with idle := front }) =
          (.ok (), (noted, { p with idle := front })) := rfl
      rw [bind_of_ok note]
      cases r with
      | ok gone =>
        rw [bind_of_ok discarded]
        have fewer : front.length ≤ tries := by
          rw [List.length_append, List.length_singleton] at enough
          omega
        -- No time has passed, so with one less there is still none to evict.
        have still : SettledAt u { p with idle := front } := by
          have clock : u.clock = s.clock := cares.clock
          rw [SettledAt, clock]
          exact Settled.of_append settled
        obtain ⟨result, more, left, v, run, takes, later⟩ := ih fewer still
        exact ⟨result, _, left, v, run, .dead probe quiet sheds takes, cares.append later⟩
      | error why =>
        rw [bind_of_error discarded]
        exact ⟨_, _, front, u, rfl, .cutAtDisposal probe quiet sheds, cares⟩
    · rw [bind_of_error tried]
      exact ⟨_, _, front, t, rfl, .cutAtProbe probe abrupt, probed⟩

end Pool

end ConnectorHub
