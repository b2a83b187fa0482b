import ConnectorHub.Proofs.Connector.Leaves
import ConnectorHub.Proofs.Update.Once

namespace ConnectorHub

open ConnectorHub.Action

variable {σ κ ρ τ α β : Type}

namespace Instance

/-- Whenever it is asked for a capability, the connector answers as it did when it was probed. -/
def AsProbed (i : Instance σ κ) : Prop :=
  ∀ c s, (i.connector.provides i.id c s).1 = i.capabilities.contains c

/-- The entry is of a method of the connector that ended with this error and left the resource so. -/
inductive Raises (i : Instance σ κ) (e : Error) (t : σ) : Entry κ → Prop where
  | called (c : Call) (s : σ) (answer : i.connector.perform i.id c s = (.error (.error e), t)) :
    Raises i e t (.called i.id c)
  | queried (oc : ObjectClass) (q : Option κ) (options : Options) (s : σ)
    (talk : List (ResourceObject × Bool))
    (talks : (i.connector.query i.id oc q options s).Talks talk (.error (.error e), t)) :
    Raises i e t (.queried i.id oc q options)
  | synced (oc : ObjectClass) (token : Option Json) (options : Options) (s : σ)
    (talk : List (SyncDelta × Bool))
    (talks : (i.connector.sync i.id oc token options s).Talks talk (.error (.error e), t)) :
    Raises i e t (.synced i.id oc token options)

/-- An operation is told to be unsupported only if a method of the connector was reached and has said
so, with which the run has ended. -/
def Sustained (i : Instance σ κ) (r : Except Stop α) (es : List (Entry κ)) (t : σ) : Prop :=
  ∀ o, r = .error (.error (.notSupported o)) → ∃ e ∈ es, i.Raises (.notSupported o) t e

/-- A method was reached besides. -/
def Reaching (i : Instance σ κ) (method : Entry κ → Prop) (r : Except Stop α) (es : List (Entry κ))
    (t : σ) : Prop :=
  (∃ e ∈ es, method e) ∧ i.Sustained r es t

variable {i : Instance σ κ} {site : τ → Site σ κ} {method : Entry κ → Prop} {x : Action τ α}
  {f : α → Action τ β}

theorem sustained_ok (a : α) (es : List (Entry κ)) (t : σ) : i.Sustained (.ok a) es t :=
  fun _ h => nomatch h

theorem Sustained.error {why : Stop} {es : List (Entry κ)} {t : σ}
    (h : i.Sustained (.error why : Except Stop α) es t) :
    i.Sustained (.error why : Except Stop β) es t :=
  fun o told => h o (congrArg _ (Except.error.inj told))

theorem Sustained.map {r : Except Stop α} {es : List (Entry κ)} {t : σ} (h : i.Sustained r es t)
    (g : α → β) : i.Sustained (r.map g) es t := by
  cases r with
  | ok a => exact sustained_ok (g a) es t
  | error why => exact h.error

theorem Sustained.prepend {r : Except Stop α} {es : List (Entry κ)} {t : σ}
    (h : i.Sustained r es t) (before : List (Entry κ)) : i.Sustained r (before ++ es) t := by
  intro o told
  obtain ⟨e, he, raises⟩ := h o told
  exact ⟨e, List.mem_append_right before he, raises⟩

theorem sustained_pure (a : α) : Leaves site i.Sustained (pure a) :=
  Leaves.pure fun t => sustained_ok a [] t

theorem reaching_first (hx : Leaves site (i.Reaching method) x)
    (hf : ∀ a, Leaves site i.Sustained (f a)) : Leaves site (i.Reaching method) (x >>= f) := by
  refine hx.bind hf (fun _ _ _ h => ⟨h.1, h.2.error⟩) ?_
  rintro - es - r es' t' ⟨⟨e, he, reached⟩, -⟩ held
  exact ⟨⟨e, List.mem_append_left es' he, reached⟩, held.prepend es⟩

/-- What cannot fail may come first. -/
theorem reaching_after (hx : Leaves site (fun r _ _ => ∃ a, r = .ok a) x)
    (hf : ∀ a, Leaves site (i.Reaching method) (f a)) :
    Leaves site (i.Reaching method) (x >>= f) := by
  refine hx.bind hf (fun _ _ _ h => nomatch h) ?_
  rintro - es - r es' t' - ⟨⟨e, he, reached⟩, held⟩
  exact ⟨⟨e, List.mem_append_right es he, reached⟩, held.prepend es⟩

theorem sustained_of_reaching (h : Leaves site (i.Reaching method) x) :
    Leaves site i.Sustained x :=
  h.mono fun _ _ _ => And.right

theorem call_reaching (c : Call) : Leaves Site.self (i.Reaching (· = .called i.id c)) (i.call c) := by
  refine (Leaves.call i c).mono ?_
  rintro r es t ⟨rfl, s, answer⟩
  refine ⟨⟨_, List.mem_singleton_self _, rfl⟩, ?_⟩
  rintro o rfl
  exact ⟨_, List.mem_singleton_self _, .called c s answer⟩

theorem uidOf_reaching (oc : ObjectClass) {x : Action (Site σ κ) Uid}
    (h : Leaves Site.self (i.Reaching method) x) :
    Leaves Site.self (i.Reaching method) (i.uidOf oc x) :=
  reaching_first h fun _ => sustained_pure _

/-- The entry of a stream is written first, and the feed's error is the stream's. -/
theorem stream_reaching {e : Entry κ} {entry : α → Bool → Entry κ} {h : Handler ρ α}
    {start : σ → Feed α (Except Stop Unit × σ)}
    (raises : ∀ o s t talk, (start s).Talks talk (.error (.error (.notSupported o)), t) →
      i.Raises (.notSupported o) t e) :
    Leaves Prod.fst (i.Reaching (· = e))
      (Action.onFirst (Site.write e) >>= fun _ => stream entry h start :
        Action (Site σ κ × ρ) Unit) := by
  refine (Leaves.write e).onFirst.bind (fun _ => Leaves.stream entry h start)
    (fun _ _ _ h => nomatch h.1) ?_
  rintro - es - r es' t' ⟨-, rfl⟩ ⟨s, talk, talks⟩
  refine ⟨⟨e, List.mem_cons_self, rfl⟩, ?_⟩
  rintro o rfl
  exact ⟨e, List.mem_cons_self, raises o s t' talk talks⟩

/-- Is of a query for the class. -/
def Queries (i : Instance σ κ) (oc : ObjectClass) (options : Options) (e : Entry κ) : Prop :=
  ∃ q, e = .queried i.id oc q options

theorem execute_reaching (oc : ObjectClass) (q : Option κ) (h : Handler ρ ResourceObject)
    (options : Options) :
    Leaves Prod.fst (i.Reaching (i.Queries oc options)) (i.execute oc (q.map .own) h options) := by
  have queried : Leaves Prod.fst (i.Reaching (· = .queried i.id oc q options))
      (i.execute oc (q.map .own) h options) := by
    cases q <;> exact stream_reaching fun _ s _ talk talks => .queried oc _ options s talk talks
  exact queried.mono fun _ _ _ ⟨⟨e, he, same⟩, held⟩ => ⟨⟨e, he, q, same⟩, held⟩

theorem sync_reaching (oc : ObjectClass) (token : Option Json) (h : Handler ρ SyncDelta)
    (options : Options) :
    Leaves Prod.fst (i.Reaching (· = .synced i.id oc token options))
      (i.sync oc token h options) :=
  stream_reaching fun _ s _ talk talks => .synced oc token options s talk talks

theorem note_passes (n : Note) :
    Leaves Site.self (fun r _ _ => ∃ a, r = .ok a) (Site.note n : Action (Site σ κ) Unit) :=
  (Leaves.write (.noted n)).mono fun _ _ _ h => ⟨(), h.1⟩

theorem executeAll_reaching {oc : ObjectClass} {h : Handler ρ ResourceObject} {options : Options}
    (q : κ) {rest : List κ} (later : Leaves Prod.fst i.Sustained (i.executeAll oc h options rest)) :
    Leaves Prod.fst (i.Reaching (i.Queries oc options)) (i.executeAll oc h options (q :: rest)) := by
  refine reaching_first (execute_reaching oc (some q) _ options) fun _ => Leaves.get_bind fun u => ?_
  dsimp only
  split
  · exact later
  · refine (note_passes _).onFirst.mono ?_
    rintro _ es t ⟨a, rfl⟩
    exact sustained_ok a es t

theorem executeAll_sustained (oc : ObjectClass) (h : Handler ρ ResourceObject) (options : Options)
    (queries : List κ) : Leaves Prod.fst i.Sustained (i.executeAll oc h options queries) := by
  induction queries with
  | nil => exact sustained_pure ()
  | cons q rest ih => exact sustained_of_reaching (executeAll_reaching q ih)

theorem leaves_withStages {Q : Except Stop α → List (Entry κ) → σ → Prop} {stages : List Stage}
    {x : Action (Site σ κ × (List Stage × ρ)) α} (h : Leaves Prod.fst Q x) :
    Leaves Prod.fst Q (withStages stages x) :=
  fun s => h (s.1, (stages, s.2))

theorem runQueries_reaching (oc : ObjectClass) (h : Handler ρ ResourceObject) (options : Options)
    (stages : List Stage) (queries : List κ) :
    Leaves Prod.fst (i.Reaching (i.Queries oc options))
      (i.runQueries oc h options stages queries) := by
  match queries with
  | [] => exact leaves_withStages (execute_reaching oc none _ options)
  | [q] => exact leaves_withStages (execute_reaching oc (some q) _ options)
  | q :: q' :: rest =>
    exact reaching_after (note_passes _).onFirst fun _ =>
      leaves_withStages (executeAll_reaching q (executeAll_sustained oc h options (q' :: rest)))

theorem nativeQueries_passes (oc : ObjectClass) (options : Options) (f : Option Filter) :
    Leaves Site.self (fun r _ _ => ∃ a, r = .ok a) (i.nativeQueries oc options f) := by
  cases f with
  | none => exact Leaves.pure fun _ => ⟨[], rfl⟩
  | some f => exact fun s => ⟨[.translated i.id oc f options], rfl, _, rfl⟩

namespace AsProbed

variable (h : i.AsProbed)
include h

theorem require_run {c : Capability} (able : i.capabilities.contains c = true) (s : Site σ κ) :
    ∃ t, i.require c s = (.ok (), t) ∧ t.journal = s.journal := by
  let t : Site σ κ := { s with resource := (i.connector.provides i.id c s.resource).2 }
  have asked : i.connector.asks i.id c s = (.ok true, t) := by
    simp [Connector.asks, Site.onResource, Action.zoom, h c s.resource, able, t]
  refine ⟨t, ?_, rfl⟩
  rw [require, if_pos able, bind_of_ok asked]
  rfl

theorem require_passes {c : Capability} (able : i.capabilities.contains c = true) :
    Leaves Site.self (fun r _ _ => ∃ a, r = .ok a) (i.require c) := by
  intro s
  obtain ⟨t, run, same⟩ := h.require_run able s
  rw [run]
  exact ⟨[], same.trans (List.append_nil _).symm, (), rfl⟩

theorem changesValues_run (s : Site σ κ) :
    ∃ t, i.changesValues s = (.ok (i.capabilities.contains .updateAttributeValues), t) ∧
      t.journal = s.journal := by
  rw [changesValues]
  split
  · next able =>
    refine ⟨{ s with resource := (i.connector.provides i.id .updateAttributeValues s.resource).2 },
      ?_, rfl⟩
    simp [Connector.asks, Site.onResource, Action.zoom, h .updateAttributeValues s.resource, able]
  · next unable => exact ⟨s, by simp [unable], rfl⟩

/-- A call behind the capability that it needs. -/
theorem required_reaching {c : Capability} (able : i.capabilities.contains c = true)
    {x : Action (Site σ κ) α} (hx : Leaves Site.self (i.Reaching method) x) :
    Leaves Site.self (i.Reaching method) (i.require c >>= fun _ => x) :=
  reaching_after (h.require_passes able) fun _ => hx

theorem search_reaching (able : i.capabilities.contains .search = true) (oc : ObjectClass)
    (f : Option Filter) (hd : Handler ρ ResourceObject) (options : Options) :
    Leaves Prod.fst (i.Reaching (i.Queries oc options)) (i.search oc f hd options) :=
  reaching_after (h.require_passes able).onFirst fun _ =>
    reaching_after (nativeQueries_passes oc options _).onFirst fun queries =>
      runQueries_reaching oc hd options _ queries

theorem getObject_reaching (able : i.capabilities.contains .search = true) (oc : ObjectClass)
    (uid : Uid) (options : Options) :
    Leaves Site.self (i.Reaching (i.Queries oc options)) (i.getObject oc uid options) := by
  intro s
  obtain ⟨es, grown, reached, held⟩ :=
    h.search_reaching able oc (some (.uidEquals uid)) keepOne options (s, none)
  rw [getObject_apply]
  exact ⟨es, grown, reached, held.map _⟩

theorem update_reaching (able : i.capabilities.contains .update = true) {reserved : ReservedNames}
    (oc : ObjectClass) (uid : Uid) {delta : AttributeSet} (options : Options)
    (valid : checkDelta .update delta reserved = .ok ()) :
    Leaves Site.self (i.Reaching (· = .called i.id (.update oc ((i.normalizer oc).onUid uid)
      ((i.normalizer oc).onAttributes delta) options))) (i.update reserved oc uid delta options) := by
  rw [update, valid]
  exact h.required_reaching able (uidOf_reaching oc (call_reaching _))

end AsProbed

section

variable (i : Instance σ κ) (reserved : ReservedNames) (change : ValueChange) (oc : ObjectClass)
  (uid : Uid) (delta : AttributeSet) (options : Options)

/-- Is of the replace of an emulated change. -/
def Replaces (e : Entry κ) : Prop :=
  ∃ attributes, e = .called i.id (.update oc ((i.normalizer oc).onUid uid) attributes options)

/-- How an emulated change fails before its replace: the search fails, it finds no object, or what is
to replace the values is refused. -/
inductive FailsEarly (s : Site σ κ) : Except Stop Uid → Prop where
  | failed (why : Stop) (t : Site σ κ) (found : Option ResourceObject)
    (sought : i.Seeks oc uid delta options s (.error why) t found) : FailsEarly s (.error why)
  | unknown (t : Site σ κ) (sought : i.Seeks oc uid delta options s (.ok ()) t none) :
    FailsEarly s (.error (.error (.unknownUid oc.name uid.value)))
  | refused (t : Site σ κ) (current : ResourceObject) (e : Error)
    (sought : i.Seeks oc uid delta options s (.ok ()) t (some current))
    (checked : checkDelta .update (change.merge current delta) reserved = .error e) :
    FailsEarly s (.error (.error e))

/-- Is of the native call where values can be changed natively, and of the replace elsewhere. -/
def Changes (e : Entry κ) : Prop :=
  if i.capabilities.contains .updateAttributeValues then
    e = .called i.id (change.native oc ((i.normalizer oc).onUid uid)
      ((i.normalizer oc).onAttributes delta) options)
  else i.Replaces oc ((i.normalizer oc).onUid uid) options e

/-- A change of values that is emulated fails before the replace. -/
def ChangeFailsEarly (s : Site σ κ) (result : Except Stop Uid) : Prop :=
  ∃ t, i.changesValues s = (.ok false, t) ∧
    i.FailsEarly reserved change oc ((i.normalizer oc).onUid uid)
      ((i.normalizer oc).onAttributes delta) options
      { t with journal := t.journal ++ [.noted (.emulatingUpdate oc ((i.normalizer oc).onUid uid)
        change.operation ((i.normalizer oc).onAttributes delta).size)] } result

end

theorem supported_emulates {change : ValueChange}
    (supported : i.capabilities.supports change.operation = true)
    (unable : i.capabilities.contains .updateAttributeValues = false) :
    i.capabilities.contains .search = true ∧ i.capabilities.contains .update = true := by
  cases change <;>
    simpa [ValueChange.operation, CapabilitySet.supports, unable, and_comm] using supported

theorem ne_notSupported_of_checkDelta {o : Operation} {delta : AttributeSet}
    {reserved : ReservedNames} {e : Error} (h : checkDelta o delta reserved = .error e)
    (o' : Operation) : e ≠ .notSupported o' := by
  unfold checkDelta at h
  split at h
  · cases h; simp
  split at h
  · split at h <;> cases h; simp
  · cases h

theorem AsProbed.emulate_reaching (h : i.AsProbed)
    (searches : i.capabilities.contains .search = true)
    (updates : i.capabilities.contains .update = true) {reserved : ReservedNames}
    {change : ValueChange} {oc : ObjectClass} {uid : Uid} {delta : AttributeSet}
    {options : Options} {s u : Site σ κ} {result : Except Stop Uid}
    (run : i.emulate reserved change oc uid delta options s = (result, u)) :
    ∃ es, u.journal = s.journal ++ es ∧ i.Sustained result es u.resource ∧
      ((∃ e ∈ es, i.Replaces oc uid options e) ∨
        i.FailsEarly reserved change oc uid delta options
          { s with journal :=
              s.journal ++ [.noted (.emulatingUpdate oc uid change.operation delta.size)] }
          result) := by
  let fetch : Options := { options with attributesToGet := some delta.names }
  let noted : Site σ κ := { s with journal :=
    s.journal ++ [.noted (.emulatingUpdate oc uid change.operation delta.size)] }
  rw [emulate, bind_of_ok (rfl : Site.note _ s = (.ok (), noted))] at run
  obtain ⟨es, grown, -, held⟩ := h.getObject_reaching searches oc uid fetch noted
  replace grown := grown.trans (List.append_assoc ..)
  cases sought : i.search oc (some (.uidEquals uid)) keepOne fetch (noted, none) with
  | mk ended v =>
    obtain ⟨t, found⟩ := v
    have got : i.getObject oc uid fetch noted = (ended.map fun _ => found, t) := by
      rw [getObject_apply, sought]
    rw [got] at grown held
    cases ended with
    | error why =>
      rw [bind_of_error got] at run
      cases run
      exact ⟨_, grown, held.error.prepend _, .inr (.failed why u found sought)⟩
    | ok done =>
      rw [bind_of_ok got] at run
      cases found with
      | none =>
        cases run
        refine ⟨_, grown, fun o told => ?_, .inr (.unknown u sought)⟩
        cases told
      | some current =>
        replace run : i.update reserved oc uid (change.merge current delta) options t =
          (result, u) := run
        cases checked : checkDelta .update (change.merge current delta) reserved with
        | error e =>
          rw [update, checked] at run
          cases run
          refine ⟨_, grown, fun o told => ?_, .inr (.refused u current e sought checked)⟩
          exact absurd (Stop.error.inj (Except.error.inj told))
            (ne_notSupported_of_checkDelta checked o)
        | ok done' =>
          obtain ⟨more, later, ⟨e, he, sent⟩, told⟩ :=
            h.update_reaching updates oc uid options checked t
          rw [run] at later told
          have whole := later.trans ((congrArg (· ++ more) grown).trans (List.append_assoc ..))
          refine ⟨_, whole, told.prepend _, .inl ?_⟩
          exact ⟨e, List.mem_append_right _ he, _, sent⟩

theorem changeNatively_reaching (i : Instance σ κ) (change : ValueChange) (oc : ObjectClass) (uid : Uid)
    (delta : AttributeSet) (options : Options) :
    Leaves Site.self (i.Reaching (· = .called i.id (change.native oc uid delta options)))
      (i.changeNatively change oc uid delta options) := by
  cases change <;> exact call_reaching _

/-- A supported change of values comes to the native call where there is one, and otherwise to the
replace, if nothing before that fails. -/
theorem AsProbed.changeValues_reaching (h : i.AsProbed) {change : ValueChange}
    (supported : i.capabilities.supports change.operation = true) {reserved : ReservedNames}
    {delta : AttributeSet} (valid : checkDelta change.operation delta reserved = .ok ())
    {oc : ObjectClass} {uid : Uid} {options : Options} {s u : Site σ κ} {result : Except Stop Uid}
    (run : i.changeValues reserved change oc uid delta options s = (result, u)) :
    ∃ es, u.journal = s.journal ++ es ∧ i.Sustained result es u.resource ∧
      ((∃ e ∈ es, i.Changes change oc uid delta options e) ∨
        i.ChangeFailsEarly reserved change oc uid delta options s result) := by
  obtain ⟨t, asked, same⟩ := h.changesValues_run s
  rw [changeValues, valid, bind_of_ok (rfl : Action.ofExcept (.ok ()) s = (.ok (), s)),
    bind_of_ok asked] at run
  cases native : i.capabilities.contains .updateAttributeValues with
  | true =>
    rw [native, if_pos rfl] at run
    have natively := uidOf_reaching oc (i.changeNatively_reaching change oc
      ((i.normalizer oc).onUid uid) ((i.normalizer oc).onAttributes delta) options)
    obtain ⟨es, grown, ⟨e, he, sent⟩, told⟩ := natively t
    rw [run] at grown told
    rw [same] at grown
    refine ⟨es, grown, told, .inl ⟨e, he, ?_⟩⟩
    rw [Changes, if_pos native]
    exact sent
  | false =>
    have able := supported_emulates supported native
    rw [native, if_neg Bool.false_ne_true, if_pos supported] at run
    rw [native] at asked
    obtain ⟨es, grown, told, ⟨e, he, sent⟩ | early⟩ := h.emulate_reaching able.1 able.2 run
    · rw [same] at grown
      refine ⟨es, grown, told, .inl ⟨e, he, ?_⟩⟩
      rw [Changes, if_neg (by simp [native])]
      exact sent
    · rw [same] at grown
      exact ⟨es, grown, told, .inr ⟨t, asked, early⟩⟩

end Instance

end ConnectorHub
