import ConnectorHub.Proofs.Attributes.Uids
import ConnectorHub.Proofs.Connector.Leaves
import ConnectorHub.Proofs.Hub.Work
import ConnectorHub.Proofs.Search.Pipeline

namespace ConnectorHub

open ConnectorHub.Action

variable {σ κ ρ π τ α β : Type}

/-- The uid that a call is answered with. -/
def Call.uid? : (c : Call) → c.Reply → Option Uid
  | .create .., u | .update .., u | .addValues .., u | .removeValues .., u => some u
  | .authenticate .., u | .resolveUsername .., u => some u
  | _, _ => none

/-- The uid that a request is answered with, and the class of its object. -/
def Request.uid? : (x : Request ρ) → x.Reply → Option (ObjectClass × Uid)
  | .create oc .., u | .update oc .., u | .changeValues _ oc .., u => some (oc, u)
  | .authenticate oc .., u | .resolveUsername oc .., u => some (oc, u)
  | _, _ => none

namespace Instance

/-- The entry is of a call that the connector answered with this uid, leaving the resource so. -/
inductive Returns (i : Instance σ κ) (raw : Uid) (t : σ) : Entry κ → Prop where
  | called (c : Call) (s : σ) (reply : c.Reply)
    (answer : i.connector.perform i.id c s = (.ok reply, t)) (told : c.uid? reply = some raw) :
    Returns i raw t (.called i.id c)

/-- A success with a uid is the answer of the connector's last call. -/
def Passes (i : Instance σ κ) (r : Except Stop Uid) (es : List (Entry κ)) (t : σ) : Prop :=
  ∀ raw, r = .ok raw → ∃ e ∈ es, i.Returns raw t e

/-- A success with a uid is the normal form of such an answer. -/
def Tells (i : Instance σ κ) (oc : ObjectClass) (r : Except Stop Uid) (es : List (Entry κ)) (t : σ) :
    Prop :=
  ∀ u, r = .ok u → ∃ raw, (∃ e ∈ es, i.Returns raw t e) ∧ u = (i.normalizer oc).onUid raw

variable {i : Instance σ κ} {oc : ObjectClass}

theorem call_answers (c : Call) :
    Leaves Site.self (fun r es t => ∀ reply, r = .ok reply → ∀ raw, c.uid? reply = some raw →
      ∃ e ∈ es, i.Returns raw t e) (i.call c) := by
  refine (Leaves.call i c).mono ?_
  rintro _ _ t ⟨rfl, s, answer⟩ reply rfl raw told
  exact ⟨_, List.mem_singleton_self _, .called c s reply answer told⟩

/-- The answer of a call that is answered with a uid. -/
theorem passes_of_answers {x : Action (Site σ κ) Uid} {uid? : Uid → Option Uid}
    (answered : ∀ u, uid? u = some u)
    (h : Leaves Site.self (fun r es t => ∀ u, r = .ok u → ∀ raw, uid? u = some raw →
      ∃ e ∈ es, i.Returns raw t e) x) : Leaves Site.self i.Passes x :=
  h.mono fun _ _ _ told u run => told u run u (answered u)

theorem changeNatively_passes (change : ValueChange) (uid : Uid) (delta : AttributeSet)
    (options : Options) :
    Leaves Site.self i.Passes (i.changeNatively change oc uid delta options) := by
  cases change with
  | add => exact passes_of_answers (fun _ => rfl) (call_answers (.addValues oc uid delta options))
  | remove =>
    exact passes_of_answers (fun _ => rfl) (call_answers (.removeValues oc uid delta options))

theorem uidOf_tells {x : Action (Site σ κ) Uid} (h : Leaves Site.self i.Passes x) :
    Leaves Site.self (i.Tells oc) (i.uidOf oc x) := by
  intro s
  obtain ⟨es, grown, passes⟩ := h s
  rw [uidOf_apply]
  refine ⟨es, grown, fun u told => ?_⟩
  cases run : (x s).1 with
  | error why => rw [run] at told; cases told
  | ok raw =>
    rw [run] at told
    exact ⟨raw, passes raw run, (Except.ok.inj told).symm⟩

section

variable {site : τ → Site σ κ} {f : α → Action τ Uid}

theorem tells_fail (e : Error) : Leaves site (i.Tells oc) (Action.fail e : Action τ Uid) :=
  Leaves.fail fun _ _ told => nomatch told

/-- Whatever is done before, the last step tells. -/
theorem tells_after {x : Action τ α} (hx : Leaves site (fun _ _ _ => True) x)
    (hf : ∀ a, Leaves site (i.Tells oc) (f a)) : Leaves site (i.Tells oc) (x >>= f) := by
  refine hx.bind hf (fun _ _ _ _ _ told => nomatch told) ?_
  intro _ es _ _ _ _ _ tells u told
  obtain ⟨raw, ⟨e, he, returns⟩, normal⟩ := tells u told
  exact ⟨raw, ⟨e, List.mem_append_right es he, returns⟩, normal⟩

theorem tells_checked {r : Except Error α} (hf : ∀ a, Leaves site (i.Tells oc) (f a)) :
    Leaves site (i.Tells oc) (Action.ofExcept r >>= f) := by
  cases r with
  | ok a => exact hf a
  | error e => exact tells_fail e

end

theorem leaves_of_writes {x : Action (Site σ κ) α} (h : Writes (fun _ => True) x) :
    Leaves Site.self (fun _ _ _ => True) x :=
  (Leaves.of_writes h).mono fun _ _ _ _ => trivial

theorem require_then_tells (c : Capability) {x : Action (Site σ κ) Uid}
    (h : Leaves Site.self i.Passes x) :
    Leaves Site.self (i.Tells oc) (i.require c >>= fun _ => i.uidOf oc x) :=
  tells_after (leaves_of_writes (require_writes c)) fun _ => uidOf_tells h

theorem update_tells (reserved : ReservedNames) (uid : Uid) (delta : AttributeSet)
    (options : Options) :
    Leaves Site.self (i.Tells oc) (i.update reserved oc uid delta options) :=
  tells_checked fun _ => require_then_tells .update <|
    passes_of_answers (fun _ => rfl) (call_answers (.update ..))

theorem changeValues_tells (reserved : ReservedNames) (change : ValueChange) (uid : Uid)
    (delta : AttributeSet) (options : Options) :
    Leaves Site.self (i.Tells oc) (i.changeValues reserved change oc uid delta options) := by
  refine tells_checked fun _ =>
    tells_after (leaves_of_writes changesValues_writes) fun native => ?_
  split
  · exact uidOf_tells (changeNatively_passes change _ _ options)
  split
  · refine tells_after (leaves_of_writes (Writes.write trivial)) fun _ => ?_
    have fetched (uid : Uid) (options : Options) : Writes (fun _ => True)
        (i.getObject oc uid options) := (getObject_writes uid).mono fun _ _ => trivial
    refine tells_after (leaves_of_writes (fetched _ _)) fun current => ?_
    cases current with
    | none => exact tells_fail _
    | some current => exact update_tells reserved _ _ options
  · exact tells_fail _

/-- Each call of the caller is with what has become of an object that was streamed since `before`. -/
def Descend (n : Normalizer) (names : Option (List String)) (before j : List (Entry κ))
    (calls : List (ResourceObject × Bool)) : Prop :=
  ∃ es, j = before ++ es ∧ ∀ call ∈ calls, ∃ o ∈ es.filterMap Entry.object?,
    call.1 = projectAll names (n.onObject o)

theorem Descend.write {n : Normalizer} {names : Option (List String)} {before j : List (Entry κ)}
    {calls calls' : List (ResourceObject × Bool)} (h : Descend n names before j calls) {e : Entry κ}
    (step : ∀ call ∈ calls', call ∈ calls ∨
      ∃ o, e.object? = some o ∧ call.1 = projectAll names (n.onObject o)) :
    Descend n names before (j ++ [e]) calls' := by
  obtain ⟨es, rfl, earlier⟩ := h
  refine ⟨es ++ [e], List.append_assoc .., fun call hc => ?_⟩
  rw [List.filterMap_append]
  obtain old | ⟨o, streamed, form⟩ := step call hc
  · obtain ⟨o, ho, form⟩ := earlier call old
    exact ⟨o, List.mem_append_left _ ho, form⟩
  · exact ⟨o, List.mem_append_right _ (List.mem_filterMap.mpr ⟨e, by simp, streamed⟩), form⟩

theorem eq_of_passed {n : Normalizer} {f : Option Filter} {names : Option (List String)}
    {o p : ResourceObject} (h : passed n f names o = some p) :
    p = projectAll names (n.onObject o) := by
  unfold passed at h
  split at h
  · exact (Option.some.inj h).symm
  · cases h

theorem descend_follows (i : Instance σ κ) (oc : ObjectClass) (f : Option Filter)
    (h : Handler ρ ResourceObject) (options : Options) (before : List (Entry κ)) :
    i.Follows oc options f (recorded h) fun j c =>
      Descend (i.normalizer oc) options.attributesToGet before j c.2 where
  wrote _ held := held.write fun _ hc => .inl hc
  handed {o p _ _} hp held := held.write fun call hc => by
    obtain old | new := List.mem_append.mp hc
    · exact .inl old
    · rw [List.mem_singleton.mp new]
      exact .inr ⟨o, rfl, eq_of_passed hp⟩

theorem callsIn_shown (i : Instance σ κ) (oc : ObjectClass) (f : Option Filter)
    (h : Handler ρ ResourceObject) (options : Options) (s : Site σ κ) (r : ρ) :
    ∃ os, (i.search oc f (recorded h) options (s, (r, []))).2.1.Shows Entry.object? s.journal os ∧
      ∀ call ∈ i.callsIn oc f h options s r, ∃ o ∈ os,
        call.1 = projectAll options.attributesToGet ((i.normalizer oc).onObject o) := by
  obtain ⟨es, grown, calls⟩ := search_keeps (i.descend_follows oc _ h options s.journal) (s, (r, []))
    ⟨[], (List.append_nil _).symm, fun _ h => absurd h List.not_mem_nil⟩
  exact ⟨_, ⟨es, grown, rfl⟩, calls⟩

/-- So does the object that a fetch finds. -/
theorem getObject_shown {i : Instance σ κ} {oc : ObjectClass} {options : Options} {uid : Uid}
    {s t : Site σ κ} {p : ResourceObject}
    (run : i.getObject oc uid options s = (.ok (some p), t)) :
    ∃ os, t.Shows Entry.object? s.journal os ∧
      ∃ o ∈ os, p = projectAll options.attributesToGet ((i.normalizer oc).onObject o) := by
  obtain ⟨es, grown, -, o, more, mem, hp⟩ := streamed_of_getObject run
  exact ⟨_, ⟨es, grown, rfl⟩, o, List.mem_filterMap.mpr ⟨_, mem, rfl⟩, eq_of_passed hp⟩

theorem told_of_tells {i : Instance σ κ} {oc : ObjectClass} {x : Action (Site σ κ) Uid}
    (tells : Leaves Site.self (i.Tells oc) x) {s t : Site σ κ × ρ} {u : Uid}
    (run : Action.onFirst x s = (.ok u, t)) :
    ∃ es raw, t.1.journal = s.1.journal ++ es ∧ (∃ e ∈ es, i.Returns raw t.1.resource e) ∧
      u = (i.normalizer oc).onUid raw := by
  obtain ⟨es, grown, told⟩ := tells.onFirst s
  rw [run] at grown told
  obtain ⟨raw, returns, normal⟩ := told u rfl
  exact ⟨es, raw, grown, returns, normal⟩

end Instance

/-- The uid of a reply is the normal form of one that the connector has answered with. -/
theorem Request.work_tells {i : Instance σ κ} {reserved : ReservedNames} {x : Request ρ}
    {s t : Site σ κ × ρ} {reply : x.Reply} {oc : ObjectClass} {u : Uid}
    (run : x.work reserved i s = (.ok reply, t)) (told : x.uid? reply = some (oc, u)) :
    ∃ es raw, t.1.journal = s.1.journal ++ es ∧ (∃ e ∈ es, i.Returns raw t.1.resource e) ∧
      u = (i.normalizer oc).onUid raw := by
  cases x with
  | create oc as options =>
    cases told
    exact Instance.told_of_tells (Instance.require_then_tells .create <|
      Instance.passes_of_answers (fun _ => rfl) (Instance.call_answers (.create ..))) run
  | update oc uid delta options =>
    cases told
    exact Instance.told_of_tells (Instance.update_tells reserved uid delta options) run
  | changeValues change oc uid delta options =>
    cases told
    exact Instance.told_of_tells
      (Instance.changeValues_tells reserved change uid delta options) run
  | authenticate oc username password options =>
    cases told
    exact Instance.told_of_tells (Instance.require_then_tells .authenticate <|
      Instance.passes_of_answers (fun _ => rfl) (Instance.call_answers (.authenticate ..))) run
  | resolveUsername oc username options =>
    cases told
    exact Instance.told_of_tells (Instance.require_then_tells .resolveUsername <|
      Instance.passes_of_answers (fun _ => rfl) (Instance.call_answers (.resolveUsername ..))) run
  | _ => cases told

theorem Entry.object?_of_upkeep {e : Entry κ} (he : e.Upkeep) : e.object? = none := by
  cases e with
  | handledObject => exact he.elim
  | _ => rfl

theorem Entry.object?_of_closing {id : Nat} {e : Entry κ} (he : e.ClosingOf id) :
    e.object? = none := by
  cases e with
  | handledObject => exact he.elim
  | _ => rfl

/-- The object is what becomes of one of those that were streamed, and where that one has the uid
`raw` and spares it, this has the uid `u`. -/
def Normalizer.Presents (n : Normalizer) (names : Option (List String)) (raw u : Uid)
    (streamed : List ResourceObject) (p : ResourceObject) : Prop :=
  ∃ o ∈ streamed, p = projectAll names (n.onObject o) ∧ (n.SparesUid o → o.uid = raw → p.uid = u)

theorem Normalizer.presents {n : Normalizer} {names : Option (List String)}
    {streamed : List ResourceObject} {p : ResourceObject}
    (comes : ∃ o ∈ streamed, p = projectAll names (n.onObject o)) (raw : Uid) :
    n.Presents names raw (n.onUid raw) streamed p := by
  obtain ⟨o, ho, form⟩ := comes
  refine ⟨o, ho, form, fun spares same => ?_⟩
  rw [form, ResourceObject.uid_projectAll, spares.uid_onObject, same]

namespace Facade

/-- The calls of the caller in a search, each with its answer. -/
def callsIn (f : Facade σ κ) (oc : ObjectClass) (filter : Option Filter)
    (h : Handler ρ ResourceObject) (options : Options) (w : World σ κ) (r : ρ) :
    List (ResourceObject × Bool) :=
  (f.search oc filter (recorded h) options (w, (r, []))).2.2.2

variable {f : Facade σ κ} {w w₁ : World σ κ} {l : Lease σ κ}
  (leased : Lease.acquire f.context w = (.ok l, w₁))
include leased

theorem callsIn_presents (raw : Uid) (oc : ObjectClass) (filter : Option Filter)
    (h : Handler ρ ResourceObject) (options : Options) (r : ρ) :
    ∃ os, (f.search oc filter (recorded h) options (w, (r, []))).2.1.site.Shows Entry.object?
        w.site.journal os ∧
      ∀ call ∈ f.callsIn oc filter h options w r, (l.member.normalizer oc).Presents
        options.attributesToGet raw ((l.member.normalizer oc).onUid raw) os call.1 := by
  let x : Request (ρ × List (ResourceObject × Bool)) := .search oc filter (recorded h) options
  obtain ⟨e, -, failed⟩ | ⟨met, -⟩ := f.performs x
  · have refused : f.search oc filter (recorded h) options (w, (r, [])) =
        (.error (.error e), (w, (r, []))) := congrFun failed _
    rw [callsIn, refused]
    exact ⟨[], w.site.shows_self, fun _ hc => absurd hc List.not_mem_nil⟩
  obtain ⟨os, shows, calls⟩ := l.member.callsIn_shown oc filter h options w₁.site r
  obtain ⟨shown, same⟩ := perform_shows (x := x) (fun _ => Entry.object?_of_upkeep)
    (fun _ _ => Entry.object?_of_closing) met leased rfl shows
  have kept : f.callsIn oc filter h options w r = l.member.callsIn oc filter h options w₁.site r :=
    congrArg Prod.snd same
  rw [kept]
  exact ⟨os, shown, fun call hc => Normalizer.presents (calls call hc) raw⟩

theorem getObject_presents (raw : Uid) {oc : ObjectClass} {uid : Uid} {options : Options}
    {w' : World σ κ} {p : ResourceObject}
    (run : f.getObject oc uid options w = (.ok (some p), w')) :
    ∃ os, w'.site.Shows Entry.object? w.site.journal os ∧ (l.member.normalizer oc).Presents
      options.attributesToGet raw ((l.member.normalizer oc).onUid raw) os p := by
  have performed : f.perform (.getObject oc uid options : Request Unit) (w, ()) =
      (.ok (some p), (w', ())) := onFirst_of_run run
  obtain ⟨l', w₁', site, met, leased', worked, -⟩ := leased_of_ok performed
  cases leased.symm.trans leased'
  have fetched : l.member.getObject oc uid options w₁.site = (.ok (some p), site) :=
    congrArg (fun ended => (ended.1, ended.2.1)) worked
  obtain ⟨os, shows, comes⟩ := Instance.getObject_shown fetched
  obtain ⟨shown, -⟩ := perform_shows (fun _ => Entry.object?_of_upkeep)
    (fun _ _ => Entry.object?_of_closing) met leased worked shows
  rw [performed] at shown
  exact ⟨os, shown, Normalizer.presents comes raw⟩

end Facade

/-- The uid of an object in its normal form is the normal form of the object's uid. Hence a caller
that was told a uid, in place of the one that the connector answered with, gets the object under the
uid it was told, by whatever search or fetch on an instance of the same normal form. -/
theorem Facade.uids_normalize_alike :
    (∀ (n : Normalizer) (o : ResourceObject), n.SparesUid o → (n.onObject o).uid = n.onUid o.uid) ∧
    ∀ (f : Facade σ κ) (x : Request ρ) {w w' : World σ κ} {r r' : ρ} {reply : x.Reply}
      {oc : ObjectClass} {u : Uid}, f.perform x (w, r) = (.ok reply, (w', r')) →
      x.uid? reply = some (oc, u) →
      ∃ l w₁ w₂ raw, Lease.acquire f.context w = (.ok l, w₁) ∧ (l.release w₂).2 = w' ∧
        (∃ es, w₂.site.journal = w₁.site.journal ++ es ∧
          ∃ e ∈ es, l.member.Returns raw w₂.site.resource e) ∧
        u = (l.member.normalizer oc).onUid raw ∧
        ∀ (g : Facade σ κ) {v v₁ : World σ κ} {m : Lease σ κ},
          Lease.acquire g.context v = (.ok m, v₁) →
          m.member.normalizer oc = l.member.normalizer oc →
          (∀ (filter : Option Filter) (h : Handler π ResourceObject) (options : Options) (q : π),
            ∃ os, (g.search oc filter (recorded h) options (v, (q, []))).2.1.site.Shows
                Entry.object? v.site.journal os ∧
              ∀ call ∈ g.callsIn oc filter h options v q, (m.member.normalizer oc).Presents
                options.attributesToGet raw u os call.1) ∧
          ∀ {uid : Uid} {options : Options} {v' : World σ κ} {p : ResourceObject},
            g.getObject oc uid options v = (.ok (some p), v') →
            ∃ os, v'.site.Shows Entry.object? v.site.journal os ∧
              (m.member.normalizer oc).Presents options.attributesToGet raw u os p := by
  refine ⟨fun n o spares => spares.uid_onObject, ?_⟩
  intro f x w w' r r' reply oc u run told
  obtain ⟨l, w₁, site, -, leased, worked, released⟩ := leased_of_ok run
  obtain ⟨es, raw, grown, returns, rfl⟩ := Request.work_tells worked told
  refine ⟨l, w₁, { w₁ with site := site }, raw, leased, released, ⟨es, grown, returns⟩, rfl, ?_⟩
  intro g v v₁ m leased' alike
  rw [← alike]
  exact ⟨fun filter h options q => callsIn_presents leased' raw oc filter h options q,
    fun run => getObject_presents leased' raw run⟩

def directoryEntry : ResourceObject where
  objectClass := .account
  uid := ⟨"ANN"⟩
  attributes := (AttributeSet.ofList [.single Attribute.nameName (.text "ann"),
    .single "mail" (.text "ann@example.com")]).insert (Uid.toAttribute ⟨"ANN"⟩)
  carries_uid := AttributeSet.uid?_insert_toAttribute _ _

/-- A resource whose uids have a normal form, in lower case, and whose mail addresses have a name of
their own there. -/
def directoryScript : ConnectorScript where
  key := ⟨"directory", "1", "Directory"⟩
  rules := some [⟨some Attribute.uidName, none, .lower⟩, ⟨some "mail", none, .rename "dn"⟩]
  objects := [directoryEntry]

def directoryFacade : Facade Resources Filter where
  id := ⟨0⟩
  context := ⟨directoryScript.factory 0, {}, none⟩
  reserved := .standard

def directoryWorld : World Resources Filter := { site := { resource := [.ofScript directoryScript] } }

def lookUpAnn : Request Unit := .resolveUsername .account "ann" {}

/-- The entry of uid ANN is looked up by its name, and found by a search, as ann. -/
theorem directoryEntry_uids_alike :
    ∃ l w₁ raw os, Lease.acquire directoryFacade.context directoryWorld = (.ok l, w₁) ∧
      ((directoryFacade.perform lookUpAnn (directoryWorld, ())).1 matches .ok ⟨"ann"⟩) ∧
      ⟨"ann"⟩ = (l.member.normalizer .account).onUid raw ∧
      os.map (·.uid) = [⟨"ANN"⟩] ∧
      (∀ call ∈ directoryFacade.callsIn .account none gather {} directoryWorld [],
        (l.member.normalizer .account).Presents none raw ⟨"ann"⟩ os call.1) ∧
      (directoryFacade.callsIn .account none gather {} directoryWorld []).map (·.1.uid) =
        [⟨"ann"⟩] := by
  obtain ⟨w', run⟩ : ∃ w', directoryFacade.perform lookUpAnn (directoryWorld, ()) =
      (.ok (⟨"ann"⟩ : Uid), (w', ())) := by
    have told : (directoryFacade.resolveUsername .account "ann" {} directoryWorld).1 =
        .ok ⟨"ann"⟩ := by decide +kernel
    cases resolved : directoryFacade.resolveUsername .account "ann" {} directoryWorld with
    | mk result w' =>
      obtain rfl : result = .ok ⟨"ann"⟩ := by rw [resolved] at told; exact told
      exact ⟨w', onFirst_of_run resolved⟩
  have answered : lookUpAnn.uid? (⟨"ann"⟩ : Uid) = some (.account, ⟨"ann"⟩) := rfl
  obtain ⟨l, w₁, w₂, raw, leased, -, -, normal, delivers⟩ :=
    (Facade.uids_normalize_alike (π := List ResourceObject)).2 directoryFacade lookUpAnn run answered
  obtain ⟨searched, -⟩ := delivers directoryFacade leased rfl
  obtain ⟨os, ⟨es, grown, rfl⟩, calls⟩ := searched none gather {} []
  have streamed : ((directoryFacade.search .account none (recorded gather) {}
      (directoryWorld, ([], []))).2.1.site.journal.filterMap Entry.object?).map (·.uid) =
      [⟨"ANN"⟩] := by decide +kernel
  rw [grown] at streamed
  exact ⟨l, w₁, raw, _, leased, by decide +kernel, normal, streamed, calls, by decide +kernel⟩

end ConnectorHub
