import ConnectorHub.Proofs.Search.Split

namespace ConnectorHub

variable {σ κ ρ α β γ : Type}

namespace Instance

variable {i : Instance σ κ} {oc : ObjectClass} {options : Options}

section

variable (n : Normalizer) (f : Option Filter) (names : Option (List String))

/-- The chain of a search of one query, whose caller has wanted more all along. -/
def Going (c : List Stage × (ρ × List (ResourceObject × Bool))) : Prop :=
  c.1 = searchStages n f names ∧ ∀ call ∈ c.2.2, call.2 = true

variable {n f names}

theorem Going.push {c : List Stage × (ρ × List (ResourceObject × Bool))}
    (going : Going n f names c) (h : Handler ρ ResourceObject) (o : ResourceObject) :
    ((ResultChain.handler (recorded h) o c).1 = true →
        Going n f names (ResultChain.handler (recorded h) o c).2) ∧
      Halting (ResultChain.handler (recorded h) o c).2.2.2 := by
  obtain ⟨stages, r, calls⟩ := c
  obtain ⟨rfl, answered⟩ := going
  rw [ResultChain.handler, ResultChain.push_searchStages]
  cases passed n f names o with
  | none => exact ⟨fun _ => ⟨rfl, answered⟩, halting_of_forall answered⟩
  | some p =>
    exact ⟨fun more => ⟨rfl, answered_concat answered more⟩, halting_concat answered⟩

end

theorem execute_halts (n : Normalizer) (f : Option Filter) (names : Option (List String))
    (h : Handler ρ ResourceObject) {q : Option κ} {s : Site σ κ} (r : ρ)
    (heeds : (i.connector.query i.id oc q options s.resource).Heeds) :
    Halting (i.execute oc (q.map .own) (ResultChain.handler (recorded h)) options
      (s, (searchStages n f names, (r, [])))).2.2.2.2 := by
  let asked : Site σ κ := { s with journal := s.journal ++ [.queried i.id oc q options] }
  have start : Going n f names (searchStages n f names, (r, [])) :=
    ⟨rfl, fun c hc => absurd hc List.not_mem_nil⟩
  -- The stages answer yes for what they drop, so the first no is the caller's own.
  have delivered := deliver_of_heeds (.handledObject i.id) (I := Going n f names)
    (E := fun c => Halting c.2.2) (h := ResultChain.handler (recorded h))
    (fun o c going more => (going.push h o).1 more) (fun o c going _ => (going.push h o).2) heeds
    asked start
  have halted := delivered.elim (fun going => halting_of_forall going.2) fun stopped => stopped
  cases q <;> exact halted

theorem runQueries_halts (f : Option Filter) (h : Handler ρ ResourceObject) {queries : List κ}
    (few : queries.length ≤ 1) {s : Site σ κ} (r : ρ)
    (heeds : (i.connector.query i.id oc queries.head? options s.resource).Heeds) :
    Halting (i.runQueries oc (recorded h) options
      (searchStages (i.normalizer oc) f options.attributesToGet) queries (s, (r, []))).2.2.2 := by
  match queries, few with
  | [], _ => exact execute_halts _ _ _ h (q := none) r heeds
  | [q], _ => exact execute_halts _ _ _ h (q := some q) r heeds

/-- In a search of one query or none a caller that has answered with no is not called again if the
connector heeds it; in any other search it is not, whatever the connector does. -/
theorem search_halts {f : Option Filter} (h : Handler ρ ResourceObject) (s : Site σ κ) (r : ρ)
    (heeds : ∀ queries t, i.ComesTo oc f options s queries t → queries.length ≤ 1 →
      (i.connector.query i.id oc queries.head? options t.resource).Heeds) :
    Halting (i.callsIn oc f h options s r) := by
  obtain ⟨why, t, refused⟩ | ⟨queries, t, comes⟩ := i.refused_or_comesTo oc f options s
  · rw [callsIn, search_of_refused f _ refused]
    exact List.Pairwise.nil
  by_cases few : queries.length ≤ 1
  · rw [callsIn, comes.search_eq]
    exact runQueries_halts _ h few r (heeds queries t comes few)
  · obtain ⟨_, _, _, -, sifted⟩ := comes.sifts (by omega) h r
    exact sifted.halting

end Instance

theorem Feed.Heeds.mapResult {f : β → γ} {feed : Feed α β} (heeds : feed.Heeds) :
    (feed.mapResult f).Heeds := by
  induction feed with
  | finish b => trivial
  | offer a next ih =>
    obtain ⟨⟨b, stopped⟩, later⟩ := heeds
    have mapped : (next false).mapResult f = .finish (f b) := by rw [stopped, Feed.mapResult]
    exact ⟨⟨f b, mapped⟩, ih true later⟩

theorem heeds_offerAll (last : β) (as : List α) : (Resource.offerAll false last as).Heeds := by
  induction as with
  | nil => trivial
  | cons a as ih => exact ⟨⟨last, rfl⟩, ih⟩

theorem heeds_query {s : ConnectorScript} (stops : s.ignoreStop = false) (place id : Nat)
    (oc : ObjectClass) (q : Option Filter) (options : Options) (rs : Resources) :
    ((s.fullConnector place).query id oc q options rs).Heeds := by
  rw [ConnectorScript.fullConnector]
  refine Feed.Heeds.mapResult ?_
  unfold Resource.query
  split
  · trivial
  · rw [stops]
    exact heeds_offerAll _ _

/-- A resource of mailboxes that may go on when it is told to stop. -/
def steadfastMail (ignoreStop : Bool) : ConnectorScript := { mailScript .full false with
  ignoreStop := ignoreStop }

/-- The calls of a caller that wants the first mailbox only. -/
def firstMailboxCalls (ignoreStop : Bool) : List (ResourceObject × Bool) :=
  (mailInstance (steadfastMail ignoreStop)).callsIn .account none ResultChain.listed {} mailSite
    ([false], [])

theorem firstMailbox_halts :
    (∀ queries t, (mailInstance (steadfastMail false)).ComesTo .account none {} mailSite queries t →
      queries.length ≤ 1 →
      ((mailInstance (steadfastMail false)).connector.query 0 .account queries.head? {}
        t.resource).Heeds) ∧
      firstMailboxCalls false = [(mailbox "1" "ann@example.com", false)] ∧
      Halting (firstMailboxCalls false) := by
  have heeds (q : Option Filter) (rs : Resources) :
      ((mailInstance (steadfastMail false)).connector.query 0 .account q {} rs).Heeds :=
    heeds_query rfl 0 0 .account q {} rs
  have halts : Halting (firstMailboxCalls false) :=
    Instance.search_halts ResultChain.listed mailSite _ fun queries t _ _ =>
      heeds queries.head? t.resource
  exact ⟨fun queries t _ _ => heeds queries.head? t.resource, by decide +kernel, halts⟩

/-- A connector that goes on is not held up where there is one query or none: the caller is handed
the next mailboxes after it wanted no more. -/
theorem firstMailbox_goes_on :
    ¬∀ (i : Instance Resources Filter) (oc : ObjectClass) (f : Option Filter) (options : Options)
      (s : Site Resources Filter) (c : List Bool × List ResourceObject),
      Halting (i.callsIn oc f ResultChain.listed options s c) := by
  intro halting
  have halts : (firstMailboxCalls true).Pairwise fun c _ => c.2 = true := halting _ _ _ _ _ _
  have goesOn : ¬(firstMailboxCalls true).Pairwise fun c _ => c.2 = true := by decide +kernel
  exact goesOn halts

end ConnectorHub
