import ConnectorHub.Proofs.Filter.Coverage
import ConnectorHub.Proofs.Stream.Chain
import ConnectorHub.Proofs.Stream.Record

namespace ConnectorHub.ResultChain

variable {ρ : Type} {stages rest : List Stage} {r : ρ}

/-- Whether the deduplicating stages of a chain still want objects, one after the other. -/
def wants (stages : List Stage) : List Bool := stages.filterMap Stage.wanting?

theorem wants_cons (stage : Stage) (rest : List Stage) :
    wants (stage :: rest) = stage.wanting?.toList ++ wants rest := by
  cases stage <;> rfl

theorem mem_wants {b : Bool} :
    b ∈ wants stages ↔ ∃ seen, .distinct seen ∈ stages ∧ seen.wanting = b := by
  rw [wants, List.mem_filterMap]
  constructor
  · rintro ⟨stage, mem, wanting⟩
    cases stage with
    | distinct seen => exact ⟨seen, mem, Option.some.inj wanting⟩
    | _ => cases wanting
  · rintro ⟨seen, mem, rfl⟩
    exact ⟨.distinct seen, mem, rfl⟩

/-- How an object fares in a chain before a caller that keeps `r`. It is kept back with a yes, or
handed on in some form; then the caller's answer is the answer of all stages. -/
inductive Fares (h : Handler ρ ResourceObject) (r : ρ) (stages : List Stage) :
    Bool × (List Stage × ρ) → Prop where
  | keptBack {after : List Stage} : wants after = wants stages → Fares h r stages (true, after, r)
  | handedOn (p : ResourceObject) {after : List Stage} :
    wants after = (wants stages).map (fun _ => (h p r).1) →
      Fares h r stages ((h p r).1, after, (h p r).2)

variable {h : Handler ρ ResourceObject}

theorem Fares.behind {stage : Stage} (plain : stage.wanting? = none)
    {result : Bool × (List Stage × ρ)} (fares : Fares h r rest result) :
    Fares h r (stage :: rest) (result.1, stage :: result.2.1, result.2.2) := by
  have same (rest : List Stage) : wants (stage :: rest) = wants rest := by
    rw [wants_cons, plain]
    rfl
  cases fares with
  | keptBack kept => exact .keptBack (by rw [same, same, kept])
  | handedOn p told => exact .handedOn p (by rw [same, same, told])

theorem push_of_wanting (h : Handler ρ ResourceObject) (o : ResourceObject) (r : ρ)
    (wanting : ∀ b ∈ wants stages, b = true) : Fares h r stages (push h stages o r) := by
  induction stages generalizing o with
  | nil => exact .handedOn o rfl
  | cons stage rest ih =>
    cases stage with
    | normalize n => exact (ih (n.onObject o) wanting).behind rfl
    | project names => exact (ih (projectAll names o) wanting).behind rfl
    | filter f =>
      by_cases ha : accepted f o = true
      · simp only [push, if_pos ha]
        exact (ih o wanting).behind rfl
      · simp only [push, if_neg ha]
        exact .keptBack rfl
    | distinct seen =>
      obtain ⟨uids, still⟩ := seen
      obtain ⟨first, others⟩ := List.forall_mem_cons.mp wanting
      obtain rfl : still = true := first
      by_cases known : uids.contains o.uid.value = true
      · rw [push_distinct, if_pos known]
        exact .keptBack rfl
      · rw [push_distinct, if_neg known]
        have fares := ih o others
        generalize push h rest o r = result at fares
        cases fares with
        | keptBack kept => exact .keptBack (congrArg (List.cons true) kept)
        | handedOn p told => exact .handedOn p (congrArg (List.cons (h p r).1) told)

/-- A chain whose deduplicating stages want no more hands nothing on. -/
theorem push_of_stopped (h : Handler ρ ResourceObject) (o : ResourceObject) (r : ρ)
    (some : wants stages ≠ []) (stopped : ∀ b ∈ wants stages, b = false) :
    (push h stages o r).2 = (stages, r) := by
  induction stages generalizing o with
  | nil => exact absurd rfl some
  | cons stage rest ih =>
    cases stage with
    | normalize n => simp only [push, ih (n.onObject o) some stopped]
    | project names => simp only [push, ih (projectAll names o) some stopped]
    | filter f =>
      by_cases ha : accepted f o = true
      · simp only [push, if_pos ha, ih o some stopped]
      · simp only [push, if_neg ha]
    | distinct seen =>
      have first : seen.wanting = false := stopped _ List.mem_cons_self
      simp [push, first]

section

variable {before : List Stage × (ρ × List (ResourceObject × Bool))}

/-- The deduplicating stages of a chain that began as `stages` know whether the caller has wanted more
all along. -/
def Informed (stages : List Stage) (c : List Stage × (ρ × List (ResourceObject × Bool))) : Prop :=
  wants c.1 = (wants stages).map fun _ => c.2.2.all Prod.snd

theorem Informed.wanting {c : List Stage × (ρ × List (ResourceObject × Bool))}
    (informed : Informed stages c) {seen : Seen} (mem : .distinct seen ∈ c.1) :
    seen.wanting = c.2.2.all Prod.snd := by
  have known : seen.wanting ∈ wants c.1 := mem_wants.mpr ⟨seen, mem, rfl⟩
  rw [informed] at known
  obtain ⟨-, -, same⟩ := List.mem_map.mp known
  exact same.symm

/-- What one more object does to a chain and its caller. -/
structure Signals (stages : List Stage)
    (before after : List Stage × (ρ × List (ResourceObject × Bool))) (more : Bool) : Prop where
  /-- The caller is called once at most, and its no is an answer of no. -/
  called : ∃ made, after.2.2 = before.2.2 ++ made ∧ made.length ≤ 1 ∧
    ∀ c ∈ made, c.2 = false → more = false
  /-- An answer of no was the caller's, now or earlier. -/
  caused : more = false → ∃ c ∈ after.2.2, c.2 = false
  /-- Where there is a deduplicating stage, a caller that has answered with no is not called again. -/
  latched : (∃ seen, .distinct seen ∈ stages) → (∃ c ∈ before.2.2, c.2 = false) →
    after.2.2 = before.2.2
  /-- Every deduplicating stage tells whether the caller has wanted more all along. -/
  reported (seen : Seen) : .distinct seen ∈ after.1 → seen.wanting = after.2.2.all Prod.snd

theorem Informed.push (h : Handler ρ ResourceObject) (o : ResourceObject)
    (informed : Informed stages before) :
    Informed stages (handler (recorded h) o before).2 ∧
      Signals stages before (handler (recorded h) o before).2 (handler (recorded h) o before).1 := by
  obtain ⟨chain, r, calls⟩ := before
  have known : wants chain = (wants stages).map fun _ => calls.all Prod.snd := informed
  have uncalled {more : Bool} (calls : List (ResourceObject × Bool)) : ∃ made,
      calls = calls ++ made ∧ made.length ≤ 1 ∧ ∀ c ∈ made, c.2 = false → more = false :=
    ⟨[], (List.append_nil _).symm, Nat.zero_le 1, fun _ hc => absurd hc List.not_mem_nil⟩
  rw [handler]
  by_cases going : calls.all Prod.snd = true ∨ wants stages = []
  · have wanting : ∀ b ∈ wants chain, b = true := by
      intro b hb
      rw [known] at hb
      obtain ⟨c, hc, rfl⟩ := List.mem_map.mp hb
      exact going.resolve_right (List.ne_nil_of_mem hc)
    have fares := push_of_wanting (recorded h) o (r, calls) wanting
    generalize ResultChain.push (recorded h) chain o (r, calls) = result at fares
    cases fares with
    | @keptBack after kept =>
      have still : Informed stages (after, (r, calls)) := kept.trans known
      refine ⟨still, uncalled calls, fun no => ?_, fun _ _ => rfl, fun _ => still.wanting⟩
      exact absurd no.symm Bool.false_ne_true
    | @handedOn p after told =>
      have still : Informed stages (after, ((h p r).2, calls ++ [(p, (h p r).1)])) := by
        have told : wants after = (wants chain).map fun _ => (h p r).1 := told
        rw [Informed, told, known, List.map_map]
        refine List.map_congr_left fun b hb => ?_
        have yes := going.resolve_right (List.ne_nil_of_mem hb)
        simp [yes]
      refine ⟨still, ⟨[(p, (h p r).1)], rfl, Nat.le_refl 1, ?_⟩, ?_, ?_, fun _ => still.wanting⟩
      · intro c hc no
        rwa [List.mem_singleton.mp hc] at no
      · intro no
        exact ⟨(p, (h p r).1), List.mem_append_right _ List.mem_cons_self, no⟩
      · rintro ⟨seen, mem⟩ ⟨c, hc, no⟩
        have some : wants stages ≠ [] := List.ne_nil_of_mem (mem_wants.mpr ⟨seen, mem, rfl⟩)
        have yes := List.all_eq_true.mp (going.resolve_right some) c hc
        exact absurd (no.symm.trans yes) Bool.false_ne_true
  · obtain ⟨refused, some⟩ := not_or.mp going
    have no : calls.all Prod.snd = false := Bool.eq_false_iff.mpr refused
    have stopped : ∀ b ∈ wants chain, b = false := by
      intro b hb
      rw [known, no] at hb
      obtain ⟨-, -, same⟩ := List.mem_map.mp hb
      exact same.symm
    have kept := push_of_stopped (recorded h) o (r, calls) (known ▸ by simpa using some) stopped
    have still : Informed stages (chain, (r, calls)) := informed
    obtain ⟨c, hc, hno⟩ := List.all_eq_false.mp no
    have earlier : ∃ c ∈ calls, c.2 = false := ⟨c, hc, by simpa using hno⟩
    rw [kept]
    exact ⟨still, uncalled calls, fun _ => earlier, fun _ _ => rfl, fun _ => still.wanting⟩

theorem Informed.start (r : ρ) (fresh : ∀ seen, .distinct seen ∈ stages → seen.wanting = true) :
    Informed stages (stages, (r, [])) := by
  have yes : ∀ b ∈ wants stages, b = true := by
    intro b hb
    obtain ⟨seen, mem, rfl⟩ := mem_wants.mp hb
    exact fresh seen mem
  refine (List.map_id _).symm.trans (List.map_congr_left fun b hb => ?_)
  exact yes b hb

theorem Informed.taken (h : Handler ρ ResourceObject) (os : List ResourceObject)
    (informed : Informed stages before) : Informed stages (taken (handler (recorded h)) os before) := by
  induction os generalizing before with
  | nil => exact informed
  | cons o os ih => exact ih (informed.push h o).1

end

/-- Whatever stages stand before a caller, whatever it answers and however many objects were pushed:
the answer to the next is no only if the caller has said so, and a no of the caller goes through. -/
theorem stops_through (h : Handler ρ ResourceObject)
    (fresh : ∀ seen, .distinct seen ∈ stages → seen.wanting = true) (r : ρ)
    (os : List ResourceObject) (o : ResourceObject) :
    let before := taken (handler (recorded h)) os (stages, (r, []))
    Signals stages before (handler (recorded h) o before).2 (handler (recorded h) o before).1 :=
  (((Informed.start r fresh).taken h os).push h o).2

/-- A chain that deduplicates before it filters and again before the caller. -/
def cautiousChain : List Stage :=
  [.fresh, .filter (some (.present "mail")), .project (some ["MAIL"]), .fresh]

/-- The chain after two mailboxes, of which the caller has refused the second. -/
def cautiousStop : List Stage × ((List Bool × List ResourceObject) × List (ResourceObject × Bool)) :=
  taken (handler (recorded listed)) [mailbox "1" "ann@example.com", mailbox "2" "bob@example.org"]
    (cautiousChain, (([true, false], []), []))

theorem cautiousStop_signals :
    (∀ seen, .distinct seen ∈ cautiousChain → seen.wanting = true) ∧
      cautiousStop.2.2 = [(mailbox "1" "ann@example.com", true),
        (mailbox "2" "bob@example.org", false)] ∧
      Signals cautiousChain cautiousStop
        (handler (recorded listed) (mailbox "3" "cy@example.com") cautiousStop).2
        (handler (recorded listed) (mailbox "3" "cy@example.com") cautiousStop).1 := by
  have fresh : ∀ seen, .distinct seen ∈ cautiousChain → seen.wanting = true := by
    simp [cautiousChain, Stage.fresh]
  exact ⟨fresh, by decide +kernel, stops_through listed fresh _ _ _⟩

end ConnectorHub.ResultChain
