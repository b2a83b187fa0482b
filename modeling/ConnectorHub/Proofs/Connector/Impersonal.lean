import ConnectorHub.Proofs.Action.Keeps
import ConnectorHub.Proofs.Likeness.Work

namespace ConnectorHub

open ConnectorHub.Action

variable {σ κ τ ρ α β γ : Type}

/-- Offers the same items, whatever the answers are, and comes to ends that `Q` relates. -/
inductive Feed.Same (Q : β → γ → Prop) : Feed α β → Feed α γ → Prop where
  | finish {b : β} {c : γ} (h : Q b c) : Same Q (.finish b) (.finish c)
  | offer (a : α) {next : Bool → Feed α β} {next' : Bool → Feed α γ}
    (h : ∀ more, Same Q (next more) (next' more)) : Same Q (.offer a next) (.offer a next')

theorem Feed.Same.imp {Q Q' : β → γ → Prop} {feed : Feed α β} {feed' : Feed α γ}
    (h : feed.Same Q feed') (onward : ∀ b c, Q b c → Q' b c) : feed.Same Q' feed' := by
  induction h with
  | finish hq => exact .finish (onward _ _ hq)
  | offer a _ ih => exact .offer a ih

/-- Comes to ends of which `P` holds, whatever the answers are. -/
inductive Feed.Ends (P : β → Prop) : Feed α β → Prop where
  | finish {b : β} (h : P b) : Ends P (.finish b)
  | offer (a : α) {next : Bool → Feed α β} (h : ∀ more, Ends P (next more)) :
    Ends P (.offer a next)

theorem Feed.Ends.of_forall {P : β → Prop} (h : ∀ b, P b) (feed : Feed α β) : feed.Ends P := by
  induction feed with
  | finish b => exact .finish (h b)
  | offer a next ih => exact .offer a ih

theorem Feed.Same.and_ends {Q : β → γ → Prop} {P : β → Prop} {feed : Feed α β} {feed' : Feed α γ}
    (h : feed.Same Q feed') (ends : feed.Ends P) : feed.Same (fun b c => Q b c ∧ P b) feed' := by
  induction h with
  | finish hq =>
    cases ends with
    | finish hp => exact .finish ⟨hq, hp⟩
  | offer a _ ih =>
    cases ends with
    | offer _ rest => exact .offer a fun more => ih more (rest more)

namespace Connector

/-- What instances are capable of. -/
def offers (c : Connector σ κ) (s : σ) : Nat → Capability → Bool := fun id x => (c.provides id x s).1

/-- Requests see the same of the resource at both ends of a stream. -/
def SharedEnd (shared : σ → τ) (e e' : Except Stop Unit × σ) : Prop :=
  e.1 = e'.1 ∧ shared e.2 = shared e'.2

/-- What an instance can do, how it normalizes and what it answers to a request depend on what
requests see of the resource, `shared`, and not on which instance it is. -/
structure Impersonal (c : Connector σ κ) (shared : σ → τ) : Prop where
  rule (id id' : Nat) {s t : σ} : shared s = shared t → c.rule id s = c.rule id' t
  provides (id id' : Nat) (x : Capability) {s t : σ} : shared s = shared t →
    (c.provides id x s).1 = (c.provides id' x t).1 ∧
      shared (c.provides id x s).2 = shared (c.provides id' x t).2
  perform (id id' : Nat) {x : Call} : x.isUpkeep = false →
    Agree (fun s t => shared s = shared t) (SameEnd Eq) (c.perform id x) (c.perform id' x)
  translate (id id' : Nat) (oc : ObjectClass) (options : Options) (f : Filter) {s t : σ} :
    shared s = shared t →
    (c.translate id oc options f s).1 = (c.translate id' oc options f t).1 ∧
      shared (c.translate id oc options f s).2 = shared (c.translate id' oc options f t).2
  query (id id' : Nat) (oc : ObjectClass) (q : Option κ) (options : Options) {s t : σ} :
    shared s = shared t →
    (c.query id oc q options s).Same (SharedEnd shared) (c.query id' oc q options t)
  sync (id id' : Nat) (oc : ObjectClass) (token : Option Json) (options : Options) {s t : σ} :
    shared s = shared t →
    (c.sync id oc token options s).Same (SharedEnd shared) (c.sync id' oc token options t)

/-- With the properties given every instance can be initialized. -/
def Starts (c : Connector σ κ) (given : Fields) : Prop :=
  ∀ id s, (c.perform id (.init given) s).1 = .ok ()

/-- To see to an instance changes nothing that requests see; it may prove dead or fail to be disposed
of, but neither is cut short. And since an instance keeps the capabilities that it had at first, no
request changes what instances are capable of. -/
structure Unobtrusive (c : Connector σ κ) (shared : σ → τ) : Prop where
  asked (id : Nat) (x : Capability) (s : σ) : shared (c.provides id x s).2 = shared s
  upkeep (id : Nat) {x : Call} (s : σ) : x.isUpkeep = true →
    Settled (c.perform id x s).1 ∧ shared (c.perform id x s).2 = shared s
  perform (id : Nat) {x : Call} (s : σ) : x.isUpkeep = false →
    c.offers (c.perform id x s).2 = c.offers s
  translate (id : Nat) (oc : ObjectClass) (options : Options) (f : Filter) (s : σ) :
    c.offers (c.translate id oc options f s).2 = c.offers s
  query (id : Nat) (oc : ObjectClass) (q : Option κ) (options : Options) (s : σ) :
    (c.query id oc q options s).Ends fun e => c.offers e.2 = c.offers s
  sync (id : Nat) (oc : ObjectClass) (token : Option Json) (options : Options) (s : σ) :
    (c.sync id oc token options s).Ends fun e => c.offers e.2 = c.offers s

/-- A pool of such instances goes unnoticed. -/
structure Poolable (c : Connector σ κ) (given : Fields) (shared : σ → τ) : Prop
    extends c.Impersonal shared where
  starts : c.Starts given
  unobtrusive : c.Unobtrusive shared

/-- Requests see the same of both resources, where instances have the capabilities `o`. -/
structure Seen (c : Connector σ κ) (shared : σ → τ) (o : Capability → Bool) (s t : σ) : Prop where
  shared : shared s = shared t
  offers (id : Nat) (x : Capability) : (c.provides id x s).1 = o x

/-- Requests that leave the capabilities as they are see the same again. -/
theorem Seen.next {c : Connector σ κ} {shared : σ → τ} {o : Capability → Bool} {s t s' t' : σ}
    (h : c.Seen shared o s t) (same : shared s' = shared t') (kept : c.offers s' = c.offers s) :
    c.Seen shared o s' t' :=
  ⟨same, fun id x => (congrFun (congrFun kept id) x).trans (h.offers id x)⟩

def SeenEnd (c : Connector σ κ) (shared : σ → τ) (o : Capability → Bool)
    (e e' : Except Stop Unit × σ) : Prop :=
  e.1 = e'.1 ∧ c.Seen shared o e.2 e'.2

end Connector

/-- What an entry tells of work for a caller, whichever instance did it. -/
def Entry.request? : Entry κ → Option (Entry κ)
  | called _ c => if c.isUpkeep then none else some (called 0 c)
  | translated _ oc f options => some (translated 0 oc f options)
  | queried _ oc query options => some (queried 0 oc query options)
  | synced _ oc token options => some (synced 0 oc token options)
  | handledObject _ o more => some (handledObject 0 o more)
  | handledDelta _ d more => some (handledDelta 0 d more)
  | checked properties => some (checked properties)
  | built .. | noted _ => none

theorem Entry.request?_of_upkeep {x : Call} (h : x.isUpkeep = true) (id : Nat) :
    (called id x : Entry κ).request? = none :=
  if_pos h

/-- All work for callers, in its order. -/
def Site.requests (s : Site σ κ) : List (Entry κ) := s.journal.filterMap Entry.request?

theorem Site.requests_write (s : Site σ κ) (e : Entry κ) :
    Site.requests { s with journal := s.journal ++ [e] } = s.requests ++ e.request?.toList := by
  rw [requests, List.filterMap_append, ← requests]
  cases h : e.request? <;> simp [h]

namespace Site

variable {c : Connector σ κ} {shared : σ → τ} {o : Capability → Bool} {x : τ} {l : List (Entry κ)}
  {s t : Site σ κ}

/-- What a caller could learn of the site. -/
structure Sees (c : Connector σ κ) (shared : σ → τ) (o : Capability → Bool) (x : τ)
    (l : List (Entry κ)) (s : Site σ κ) : Prop where
  shared : shared s.resource = x
  offers (id : Nat) (y : Capability) : (c.provides id y s.resource).1 = o y
  requests : s.requests = l

/-- A caller could learn the same of both sites. -/
structure Beside (c : Connector σ κ) (shared : σ → τ) (o : Capability → Bool) (s t : Site σ κ) :
    Prop where
  seen : c.Seen shared o s.resource t.resource
  requests : s.requests = t.requests

theorem Sees.write (h : s.Sees c shared o x l) {e : Entry κ} (he : e.request? = none) :
    Sees c shared o x l { s with journal := s.journal ++ [e] } where
  shared := h.shared
  offers := h.offers
  requests := by
    rw [requests_write, he, Option.toList_none, List.append_nil]
    exact h.requests

theorem Sees.beside (hs : s.Sees c shared o x l) (ht : t.Sees c shared o x l) :
    s.Beside c shared o t :=
  ⟨⟨hs.shared.trans ht.shared.symm, hs.offers⟩, hs.requests.trans ht.requests.symm⟩

theorem Beside.write (h : s.Beside c shared o t) {e e' : Entry κ}
    (same : e.request? = e'.request?) :
    Beside c shared o { s with journal := s.journal ++ [e] }
      { t with journal := t.journal ++ [e'] } :=
  ⟨h.seen, by rw [requests_write, requests_write, h.requests, same]⟩

theorem agree_write_beside {e e' : Entry κ} (same : e.request? = e'.request?) :
    Agree (Beside (σ := σ) c shared o) (SameEnd Eq) (write e) (write e') :=
  Agree.modify fun _ _ hst => hst.write same

theorem agree_onResource_beside {V : α → β → Prop} {y : Action σ α} {z : Action σ β}
    (h : Agree (c.Seen shared o) (SameEnd V) y z) :
    Agree (Beside c shared o) (SameEnd V) (onResource y) (onResource z) := by
  intro s t hst
  obtain ⟨ends, next⟩ := h s.resource t.resource hst.seen
  exact ⟨ends, next, hst.requests⟩

end Site

/-- The capabilities that are found among some, besides those already found. -/
def CapabilitySet.offered (o : Capability → Bool) (among : List Capability)
    (found : CapabilitySet) : CapabilitySet :=
  among.foldl (fun found y => if o y then found.insert y else found) found

/-- An instance of the connector with all the capabilities on offer. -/
structure Instance.Found (c : Connector σ κ) (o : Capability → Bool) (i : Instance σ κ) : Prop where
  connector : i.connector = c
  capabilities : i.capabilities = .offered o Capability.all .empty

namespace Connector.Poolable

variable {c : Connector σ κ} {given : Fields} {shared : σ → τ}
  (h : c.Poolable given shared) {o : Capability → Bool} {x : τ} {l : List (Entry κ)}
include h

theorem seen_offers {s t : σ} (hst : c.Seen shared o s t) (id : Nat) (y : Capability) :
    (c.provides id y t).1 = o y :=
  (h.provides id id y hst.shared.symm).1.trans (hst.offers id y)

theorem perform_seen (id id' : Nat) {y : Call} (served : y.isUpkeep = false) :
    Agree (c.Seen shared o) (SameEnd Eq) (c.perform id y) (c.perform id' y) := by
  intro s t hst
  obtain ⟨ends, same⟩ := h.perform id id' served s t hst.shared
  exact ⟨ends, hst.next same (h.unobtrusive.perform id s served)⟩

theorem translate_seen (id id' : Nat) (oc : ObjectClass) (options : Options) (f : Filter) {s t : σ}
    (hst : c.Seen shared o s t) :
    (c.translate id oc options f s).1 = (c.translate id' oc options f t).1 ∧
      c.Seen shared o (c.translate id oc options f s).2 (c.translate id' oc options f t).2 := by
  obtain ⟨answer, same⟩ := h.translate id id' oc options f hst.shared
  exact ⟨answer, hst.next same (h.unobtrusive.translate id oc options f s)⟩

omit h in
theorem seen_stream {s t : σ} (hst : c.Seen shared o s t)
    {feed feed' : Feed α (Except Stop Unit × σ)} (same : feed.Same (SharedEnd shared) feed')
    (kept : feed.Ends fun e => c.offers e.2 = c.offers s) : feed.Same (c.SeenEnd shared o) feed' :=
  (same.and_ends kept).imp fun _ _ both => ⟨both.1.1, hst.next both.1.2 both.2⟩

theorem beside_sees {s t : Site σ κ} (hst : s.Beside c shared o t) :
    s.Sees c shared o (shared s.resource) s.requests ∧
      t.Sees c shared o (shared s.resource) s.requests :=
  ⟨⟨rfl, hst.seen.offers, rfl⟩,
    ⟨hst.seen.shared.symm, h.seen_offers hst.seen, hst.requests.symm⟩⟩

theorem sees_resource {s : Site σ κ} (hs : s.Sees c shared o x l) {r : σ}
    (same : shared r = shared s.resource) :
    Site.Sees c shared o x l { s with resource := r } where
  shared := same.trans hs.shared
  offers id y := (h.provides id id y same).1.trans (hs.offers id y)
  requests := hs.requests

theorem call_sees (id : Nat) {y : Call} (hy : y.isUpkeep = true) :
    Triple (Site.Sees c shared o x l) (c.call id y) (fun _ => Site.Sees c shared o x l)
      fun why s => why.abrupt = false ∧ s.Sees c shared o x l := by
  refine Triple.bind (Q := fun _ => Site.Sees c shared o x l) ?_ fun _ s hs => ?_
  · exact Triple.modify fun _ hs => hs.write (Entry.request?_of_upkeep hy id)
  · obtain ⟨settled, same⟩ := h.unobtrusive.upkeep id s.resource hy
    unfold Site.onResource Action.zoom
    cases run : c.perform id y s.resource with
    | mk result r =>
      rw [run] at settled same
      have next := h.sees_resource hs same
      cases result with
      | ok a => exact next
      | error why => exact ⟨settled why rfl, next⟩

theorem init_sees (id : Nat) :
    Triple (Site.Sees c shared o x l) (c.call id (.init given))
      (fun _ => Site.Sees c shared o x l) fun _ _ => False := by
  intro s hs
  have seen := h.call_sees id (y := .init given) rfl s hs
  have inits : (c.call id (.init given) s).1 = .ok () :=
    h.starts id s.resource
  cases run : c.call id (.init given) s with
  | mk result t =>
    rw [run] at seen inits
    cases result with
    | ok done => exact seen
    | error why => cases inits

theorem asks_sees (id : Nat) (y : Capability) {E : Stop → Site σ κ → Prop} :
    Triple (Site.Sees c shared o x l) (c.asks id y)
      (fun has s => has = o y ∧ s.Sees c shared o x l) E :=
  fun s hs => ⟨hs.offers id y, h.sees_resource hs (h.unobtrusive.asked id y s.resource)⟩

theorem probe_sees (id : Nat) (capabilities : List Capability) (found : CapabilitySet)
    {E : Stop → Site σ κ → Prop} :
    Triple (Site.Sees c shared o x l) (c.probe id capabilities found)
      (fun set s => set = .offered o capabilities found ∧ s.Sees c shared o x l) E := by
  induction capabilities generalizing found with
  | nil => exact Triple.pure fun _ hs => ⟨rfl, hs⟩
  | cons y rest ih =>
    refine Triple.bind (h.asks_sees id y) fun has => Triple.of_and fun its => ?_
    rw [its]
    exact ih _

theorem create_sees {f : Factory σ κ} (its : f.connector = c) :
    Triple (Site.Sees c shared o x l) (Instance.create f given)
      (fun i s => i.Found c o ∧ s.Sees c shared o x l) fun _ _ => False := by
  obtain rfl := its
  have constructs : Triple (Site.Sees f.connector shared o x l) (Site.construct f.tag)
      (fun _ => Site.Sees f.connector shared o x l) fun _ _ => False :=
    fun s hs => (⟨hs.shared, hs.offers, hs.requests⟩ : Site.Sees f.connector shared o x l
      { s with built := s.built + 1 }).write rfl
  refine constructs.bind fun id => ?_
  apply Triple.bind (Q := fun result s => result = .ok () ∧ s.Sees f.connector shared o x l)
  · refine Triple.attempt ((h.init_sees id).post fun _ _ hs => ⟨rfl, hs⟩) ?_ ?_
    · exact fun _ _ never => never.elim
    · exact fun _ _ _ never => never
  · intro result
    apply Triple.of_and
    rintro rfl
    refine (h.probe_sees id Capability.all .empty).bind fun found => Triple.of_and fun all => ?_
    exact fun _ hs => ⟨⟨rfl, all⟩, hs⟩

theorem asks_agree (id id' : Nat) (y : Capability) :
    Agree (Site.Beside c shared o) (SameEnd Eq) (c.asks id y) (c.asks id' y) := by
  intro s t hst
  obtain ⟨hs, ht⟩ := h.beside_sees hst
  obtain ⟨its, hs⟩ := h.asks_sees id y (E := fun _ _ => False) s hs
  obtain ⟨its', ht⟩ := h.asks_sees id' y (E := fun _ _ => False) t ht
  exact ⟨.ok (its.trans its'.symm), hs.beside ht⟩

omit h

theorem deliver_beside {Q : β → γ → Prop} {entry entry' : α → Bool → Entry κ}
    (same : ∀ a more, (entry a more).request? = (entry' a more).request?) (hd : Handler ρ α)
    {feed : Feed α β} {feed' : Feed α γ} (hf : feed.Same Q feed') {s t : Site σ κ}
    (hst : s.Beside c shared o t) (r : ρ) :
    Q (Instance.deliver entry hd feed (s, r)).1 (Instance.deliver entry' hd feed' (t, r)).1 ∧
      Both (Site.Beside c shared o) Eq (Instance.deliver entry hd feed (s, r)).2
        (Instance.deliver entry' hd feed' (t, r)).2 := by
  induction hf generalizing s t r with
  | finish hq => exact ⟨hq, hst, rfl⟩
  | offer a hf ih => exact ih (hd a r).1 (hst.write (same a (hd a r).1)) (hd a r).2

theorem stream_beside {entry entry' : α → Bool → Entry κ}
    (same : ∀ a more, (entry a more).request? = (entry' a more).request?) (hd : Handler ρ α)
    {start start' : σ → Feed α (Except Stop Unit × σ)}
    (hf : ∀ s t, c.Seen shared o s t → (start s).Same (c.SeenEnd shared o) (start' t)) :
    Agree (Both (Site.Beside c shared o) Eq) (SameEnd Eq) (Instance.stream entry hd start)
      (Instance.stream entry' hd start') := by
  rintro ⟨s, r⟩ ⟨t, _⟩ ⟨hst, rfl⟩
  have delivered := deliver_beside same hd (hf s.resource t.resource hst.seen) hst r
  unfold Instance.stream
  dsimp only
  generalize Instance.deliver entry hd (start s.resource) (s, r) = y at delivered ⊢
  generalize Instance.deliver entry' hd (start' t.resource) (t, r) = z at delivered ⊢
  obtain ⟨⟨result, u⟩, s', q⟩ := y
  obtain ⟨⟨result', u'⟩, t', q'⟩ := z
  obtain ⟨⟨rfl, seen⟩, next, kept⟩ := delivered
  exact ⟨.refl (fun _ => rfl) _, ⟨seen, next.requests⟩, kept⟩

include h

/-- Whatever is asked of two instances, a caller could not tell them apart. -/
theorem parallel {i j : Instance σ κ} (hi : i.Found c o) (hj : j.Found c o)
    (rule : i.rule = j.rule) : i.Parallel (Site.Beside c shared o) j := by
  obtain ⟨id, d, found, _⟩ := i
  obtain ⟨id', d', found', _⟩ := j
  obtain rfl : d = c := hi.connector
  obtain rfl : d' = d := hj.connector
  exact {
    capabilities := hi.capabilities.trans hj.capabilities.symm
    rule := rule
    note := fun n => Site.agree_write_beside rfl
    asks := h.asks_agree id id'
    call := fun y served => by
      have same : (Entry.called id y : Entry κ).request? = (Entry.called id' y).request? := rfl
      refine Agree.bindEq (Site.agree_write_beside same) fun _ => ?_
      exact Site.agree_onResource_beside (h.perform_seen id id' served)
    translate := fun oc options f => by
      have same : (Entry.translated id oc f options : Entry κ).request? =
        (Entry.translated id' oc f options).request? := rfl
      refine Agree.bindEq (Site.agree_write_beside same) fun _ => ?_
      refine Site.agree_onResource_beside fun s t hst => ?_
      obtain ⟨answer, next⟩ := h.translate_seen id id' oc options f hst
      exact ⟨.ok answer, next⟩
    execute := fun {ρ} oc query hd options => by
      have run (q : Option κ) : Agree (Both (Site.Beside d' shared o) Eq) (SameEnd Eq)
          (do Action.onFirst (Site.write (.queried id oc q options))
              Instance.stream (.handledObject id) hd (d'.query id oc q options))
          (do Action.onFirst (Site.write (.queried id' oc q options))
              Instance.stream (.handledObject id') hd (d'.query id' oc q options)) := by
        refine Agree.bindEq (Site.agree_write_beside (by rfl)).onFirst fun _ => ?_
        exact stream_beside (fun _ _ => by rfl) hd fun s t hst =>
          seen_stream hst (h.query id id' oc q options hst.shared)
            (h.unobtrusive.query id oc q options s)
      cases query with
      | none => exact run none
      | some q =>
        cases q with
        | own q => exact run (some q)
        | foreign => exact Agree.fail _
    sync := fun {ρ} oc token hd options => by
      refine Agree.bindEq (Site.agree_write_beside (by rfl)).onFirst fun _ => ?_
      exact stream_beside (fun _ _ => by rfl) hd fun s t hst =>
        seen_stream hst (h.sync id id' oc token options hst.shared)
          (h.unobtrusive.sync id oc token options s) }

end Connector.Poolable

end ConnectorHub
