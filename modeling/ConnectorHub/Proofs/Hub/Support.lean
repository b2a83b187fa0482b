import ConnectorHub.Proofs.Hub.Transparent
import ConnectorHub.Proofs.Hub.Work
import ConnectorHub.Proofs.Update.Sustained

namespace ConnectorHub

open ConnectorHub.Action

variable {σ κ ρ α : Type}

/-- The operation that is told to be unsupported; fetches are searches, and tokens are of syncs. -/
def Operation.refusedAs : Operation → Operation
  | .get => .search
  | .getLatestSyncToken => .sync
  | o => o

namespace Request

/-- Asking for the capabilities is no operation itself. -/
def operation? : Request ρ → Option Operation
  | .create .. => some .create
  | .delete .. => some .delete
  | .update .. => some .update
  | .changeValues change .. => some change.operation
  | .search .. => some .search
  | .getObject .. => some .get
  | .sync .. => some .sync
  | .latestToken _ => some .getLatestSyncToken
  | .schema => some .schema
  | .test => some .test
  | .authenticate .. => some .authenticate
  | .resolveUsername .. => some .resolveUsername
  | .scriptOnConnector .. => some .scriptOnConnector
  | .scriptOnResource .. => some .scriptOnResource
  | .capabilities => none

/-- The entry is of the connector's method for the request, with what the request gives it. -/
def Reached (i : Instance σ κ) : Request ρ → Entry κ → Prop
  | .create oc as options, e =>
    e = .called i.id (.create oc ((i.normalizer oc).onAttributes (.ofList as)) options)
  | .delete oc uid options, e => e = .called i.id (.delete oc ((i.normalizer oc).onUid uid) options)
  | .update oc uid delta options, e =>
    e = .called i.id (.update oc ((i.normalizer oc).onUid uid) ((i.normalizer oc).onAttributes delta)
      options)
  | .changeValues change oc uid delta options, e => i.Changes change oc uid delta options e
  | .search oc _ _ options, e | .getObject oc _ options, e => i.Queries oc options e
  | .sync oc token _ options, e => e = .synced i.id oc token options
  | .latestToken oc, e => e = .called i.id (.latestToken oc)
  | .schema, e => e = .called i.id .schema
  | .test, e => e = .called i.id .test
  | .authenticate oc username password options, e =>
    e = .called i.id (.authenticate oc username password options)
  | .resolveUsername oc username options, e =>
    e = .called i.id (.resolveUsername oc username options)
  | .scriptOnConnector script options, e => e = .called i.id (.scriptOnConnector script options)
  | .scriptOnResource script options, e => e = .called i.id (.scriptOnResource script options)
  | .capabilities, _ => False

/-- A step before the connector's method fails; only an emulated change of values has such steps. -/
def FailsEarly (reserved : ReservedNames) (i : Instance σ κ) (s : Site σ κ) :
    (x : Request ρ) → Except Stop x.Reply → Prop
  | .changeValues change oc uid delta options, result =>
    i.ChangeFailsEarly reserved change oc uid delta options s result
  | _, _ => False

end Request

namespace Instance

variable {i : Instance σ κ} {reserved : ReservedNames} {x : Request ρ} {o : Operation}

theorem require_lacking {c : Capability} (lacking : i.capabilities.contains c = false)
    (s : Site σ κ) : i.require c s = (.error (.error (.notSupported c.operation)), s) := by
  rw [require, if_neg (by simp [lacking])]
  rfl

theorem first_lacking {c : Capability} (lacking : i.capabilities.contains c = false)
    (x : Action (Site σ κ) α) (s : Site σ κ × ρ) :
    Action.onFirst (i.require c >>= fun _ => x) s =
      (.error (.error (.notSupported c.operation)), s) :=
  onFirst_of_run (r := s.2) (bind_of_error (require_lacking lacking s.1))

theorem changesValues_lacking (lacking : i.capabilities.contains .updateAttributeValues = false)
    (s : Site σ κ) : i.changesValues s = (.ok false, s) := by
  rw [changesValues, if_neg (by simp [lacking])]
  rfl

theorem search_lacking (lacking : i.capabilities.contains .search = false) (oc : ObjectClass)
    (f : Option Filter) (h : Handler ρ ResourceObject) (options : Options) (s : Site σ κ × ρ) :
    i.search oc f h options s = (.error (.error (.notSupported .search)), s) :=
  bind_of_error (onFirst_of_run (r := s.2) (require_lacking lacking s.1))

end Instance

namespace Request

open Requirement

variable {i : Instance σ κ} {reserved : ReservedNames} {o : Operation}

theorem checkDelta_of_update {oc : ObjectClass} {uid : Uid} {delta : AttributeSet}
    {options : Options}
    (met : ∀ c ∈ (update oc uid delta options : Request ρ).requirements reserved, c.Met) :
    checkDelta .update delta reserved = .ok () := by
  obtain ⟨⟨⟩, checked⟩ := (replacement_decides (o := .update) delta reserved rfl).passes
    fun c hc => met c (List.mem_append_right _ (List.mem_cons_of_mem _ hc))
  exact checked

theorem checkDelta_of_changeValues {change : ValueChange} {oc : ObjectClass} {uid : Uid}
    {delta : AttributeSet} {options : Options}
    (met : ∀ c ∈ (changeValues change oc uid delta options : Request ρ).requirements reserved,
      c.Met) :
    checkDelta change.operation delta reserved = .ok () := by
  have values : change.operation.changesValues = true := by cases change <;> rfl
  obtain ⟨⟨⟩, checked⟩ := (valueChange_decides delta reserved values).passes
    fun c hc => met c (List.mem_append_right _ (List.mem_cons_of_mem _ hc))
  exact checked

/-- An unsupported operation is told so before anything is asked of the connector. -/
theorem work_of_unsupported {x : Request ρ} (asks : x.operation? = some o)
    (unsupported : i.capabilities.supports o = false)
    (met : ∀ c ∈ x.requirements reserved, c.Met) (s : Site σ κ × ρ) :
    x.work reserved i s = (.error (.error (.notSupported o.refusedAs)), s) := by
  cases x with
  | changeValues change oc uid delta options =>
    obtain ⟨t, r⟩ := s
    have checked := checkDelta_of_changeValues met
    have refused : o.refusedAs = change.operation := by cases asks; cases change <;> rfl
    obtain rfl := Option.some.inj asks
    have lacking : i.capabilities.contains .updateAttributeValues = false := by
      cases change <;> simp_all [ValueChange.operation, CapabilitySet.supports]
    refine onFirst_of_run ?_
    rw [refused, Instance.changeValues, checked,
      bind_of_ok (rfl : Action.ofExcept (.ok ()) t = (.ok (), t)),
      bind_of_ok (Instance.changesValues_lacking lacking t), if_neg Bool.false_ne_true,
      if_neg (by simp [unsupported])]
    rfl
  | update oc uid delta options =>
    cases asks
    obtain ⟨t, r⟩ := s
    refine onFirst_of_run ?_
    rw [Instance.update, checkDelta_of_update met,
      bind_of_ok (rfl : Action.ofExcept (.ok ()) t = (.ok (), t))]
    exact bind_of_error (Instance.require_lacking unsupported t)
  | getObject oc uid options =>
    cases asks
    obtain ⟨t, r⟩ := s
    refine onFirst_of_run ?_
    rw [Instance.getObject_apply, Instance.search_lacking unsupported]
    rfl
  | search oc filter h options =>
    cases asks
    exact Instance.search_lacking unsupported oc filter h options s
  | sync oc token h options =>
    cases asks
    exact bind_of_error (onFirst_of_run (r := s.2) (Instance.require_lacking unsupported s.1))
  | capabilities => cases asks
  | _ =>
    cases asks
    exact Instance.first_lacking unsupported _ s

section

variable {x : Request ρ} {s t : Site σ κ × ρ} {result : Except Stop x.Reply}
  (run : x.work reserved i s = (result, t))
include run

theorem reached_of_leaves
    (leads : Leaves Prod.fst (i.Reaching (x.Reached i)) (x.work reserved i)) :
    ∃ es, t.1.journal = s.1.journal ++ es ∧ i.Sustained result es t.1.resource ∧
      ((∃ e ∈ es, x.Reached i e) ∨ x.FailsEarly reserved i s.1 result) := by
  obtain ⟨es, grown, reached, told⟩ := leads s
  rw [run] at grown told
  exact ⟨es, grown, told, .inl reached⟩

/-- A supported operation comes to the connector's method, unless an earlier step fails. -/
theorem work_of_supported (h : i.AsProbed) (asks : x.operation? = some o)
    (supported : i.capabilities.supports o = true)
    (met : ∀ c ∈ x.requirements reserved, c.Met) :
    ∃ es, t.1.journal = s.1.journal ++ es ∧ i.Sustained result es t.1.resource ∧
      ((∃ e ∈ es, x.Reached i e) ∨ x.FailsEarly reserved i s.1 result) := by
  cases x with
  | create oc as options =>
    cases asks
    exact reached_of_leaves run
      (h.required_reaching supported (Instance.uidOf_reaching oc (Instance.call_reaching _))).onFirst
  | update oc uid delta options =>
    cases asks
    exact reached_of_leaves run
      (h.update_reaching supported oc uid options (checkDelta_of_update met)).onFirst
  | changeValues change oc uid delta options =>
    cases asks
    obtain ⟨u, v⟩ := t
    have inner : i.changeValues reserved change oc uid delta options s.1 = (result, u) :=
      congrArg (fun end' => (end'.1, end'.2.1)) run
    exact h.changeValues_reaching supported (checkDelta_of_changeValues met) inner
  | search oc filter hd options =>
    cases asks
    exact reached_of_leaves run (h.search_reaching supported oc filter hd options)
  | getObject oc uid options =>
    cases asks
    exact reached_of_leaves run (h.getObject_reaching supported oc uid options).onFirst
  | sync oc token hd options =>
    cases asks
    exact reached_of_leaves run (Instance.reaching_after (h.require_passes supported).onFirst
      fun _ => Instance.sync_reaching oc token _ options)
  | authenticate oc username password options =>
    cases asks
    exact reached_of_leaves run
      (h.required_reaching supported (Instance.uidOf_reaching oc (Instance.call_reaching _))).onFirst
  | resolveUsername oc username options =>
    cases asks
    exact reached_of_leaves run
      (h.required_reaching supported (Instance.uidOf_reaching oc (Instance.call_reaching _))).onFirst
  | capabilities => cases asks
  | _ =>
    cases asks
    exact reached_of_leaves run (h.required_reaching supported (Instance.call_reaching _)).onFirst

end

end Request

/-- What the work of a request on an instance comes to, from `s` to `t`, by what the instance is said
to support. -/
structure Request.AsAdvertised (x : Request ρ) (o : Operation) (reserved : ReservedNames)
    (i : Instance σ κ) (s t : Site σ κ × ρ) (result : Except Stop x.Reply) : Prop where
  unsupported : i.capabilities.supports o = false →
    result = .error (.error (.notSupported o.refusedAs)) ∧ t = s
  supported : i.AsProbed → i.capabilities.supports o = true →
    ∃ es, t.1.journal = s.1.journal ++ es ∧ i.Sustained result es t.1.resource ∧
      ((∃ e ∈ es, x.Reached i e) ∨ x.FailsEarly reserved i s.1 result)

namespace Facade

/-- Validation asks the factory, which has a check of its own or accepts everything. The settings of
the pool come first, if there is one. -/
inductive Validated (f : Facade σ κ) (w : World σ κ) : Except Stop Unit → World σ κ → Prop where
  | invalidPool (e : Error) (pooled : f.context.configuration.poolingEnabled = true)
    (invalid : f.context.configuration.pool.validate = .error e) (own : ∀ o, e ≠ .notSupported o) :
    Validated f w (.error (.error e)) w
  | unchecked (missing : f.context.factory.check = none) : Validated f w (.ok ()) w
  | checked (check : Fields → Except Error Unit) (had : f.context.factory.check = some check) :
    Validated f w ((check f.context.configuration.properties).mapError Stop.error)
      { w with site := { w.site with
        journal := w.site.journal ++ [.checked f.context.configuration.properties] } }

theorem ne_notSupported_of_pool {s : PoolSettings} {e : Error} (h : s.validate = .error e)
    (o : Operation) : e ≠ .notSupported o := by
  unfold PoolSettings.validate at h
  repeat' split at h
  all_goals cases h
  all_goals simp

theorem check_validated (f : Facade σ κ) (w : World σ κ) :
    f.Validated w (check f.context.factory f.context.configuration.properties w).1
      (check f.context.factory f.context.configuration.properties w).2 := by
  unfold check
  cases had : f.context.factory.check with
  | none => exact .unchecked had
  | some check =>
    have asked := Validated.checked (w := w) check had
    dsimp only [bind_apply, World.onSite, zoom, Site.write, modify_apply]
    cases answer : check f.context.configuration.properties with
    | ok done => rw [answer] at asked; exact asked
    | error e => rw [answer] at asked; exact asked

theorem validate_eq (f : Facade σ κ) :
    f.validate =
      Action.ofExcept (if f.context.configuration.poolingEnabled then
        f.context.configuration.pool.validate else .ok ()) >>= fun _ =>
      check f.context.factory f.context.configuration.properties := by
  unfold validate
  dsimp only
  split <;> rfl

theorem validate_validated (f : Facade σ κ) (w : World σ κ) :
    f.Validated w (f.validate w).1 (f.validate w).2 := by
  rw [validate_eq]
  split
  · next pooled =>
    cases valid : f.context.configuration.pool.validate with
    | error e => exact .invalidPool e pooled valid (ne_notSupported_of_pool valid)
    | ok done => exact f.check_validated w
  · exact f.check_validated w

/-- The instance's set of capabilities is what a caller that asks for it is told. Every operation but
validation is done on an instance: where the set does not support it, it is told to be unsupported,
the connector's methods are left alone and the instance is released; where it does, the connector's
method is reached unless an earlier step fails, and nobody but the connector tells that something is
unsupported. Validation is supported always. -/
theorem support_kept (f : Facade σ κ) :
    (∀ {w w₁ : World σ κ} {l : Lease σ κ} (r : ρ), Lease.acquire f.context w = (.ok l, w₁) →
      (∃ ended w', l.release w₁ = (ended, w') ∧
        f.perform (.capabilities : Request ρ) (w, r) =
          (overriding ended (.ok l.member.capabilities), (w', r))) ∧
      ∀ (x : Request ρ) {o : Operation}, x.operation? = some o →
        (∀ c ∈ x.requirements f.reserved, c.Met) →
        ∃ result site r₂ ended w',
          x.work f.reserved l.member (w₁.site, r) = (result, (site, r₂)) ∧
          x.AsAdvertised o f.reserved l.member (w₁.site, r) (site, r₂) result ∧
          l.release { w₁ with site := site } = (ended, w') ∧
          (∀ why, ended = .error why → why.abrupt = true) ∧
          f.perform x (w, r) = (overriding ended result, (w', r₂)) ∧
          (l.member.capabilities.supports o = false →
            w'.site.Grown (fun e => e.Upkeep ∨ e.ClosingOf l.member.id) w.site.journal)) ∧
    ∀ w : World σ κ, (∀ s : CapabilitySet, s.supports .validate = true) ∧
      f.Validated w (f.validate w).1 (f.validate w).2 := by
  refine ⟨fun {w w₁ l} r leased => ⟨?_, fun x o asks met => ?_⟩,
    fun w => ⟨fun _ => rfl, f.validate_validated w⟩⟩
  · have worked : (Request.capabilities : Request ρ).work f.reserved l.member (w₁.site, r) =
        (.ok l.member.capabilities, (w₁.site, r)) := rfl
    have met : ∀ c ∈ (Request.capabilities : Request ρ).requirements f.reserved, c.Met :=
      fun c hc => absurd hc List.not_mem_nil
    obtain ⟨ended, w', released, -, performed⟩ := perform_of_leased met leased worked
    exact ⟨ended, w', released, performed⟩
  cases worked : x.work f.reserved l.member (w₁.site, r) with
  | mk result t =>
    obtain ⟨site, r₂⟩ := t
    obtain ⟨ended, w', released, abrupt, performed⟩ := perform_of_leased met leased worked
    have advertised : x.AsAdvertised o f.reserved l.member (w₁.site, r) (site, r₂) result := {
      unsupported := fun lacking => by
        rw [Request.work_of_unsupported asks lacking met] at worked
        cases worked
        exact ⟨rfl, rfl⟩
      supported := fun steady supported =>
        Request.work_of_supported worked steady asks supported met }
    refine ⟨result, site, r₂, ended, w', rfl, advertised, released, abrupt, performed, ?_⟩
    intro lacking
    obtain ⟨-, same⟩ := advertised.unsupported lacking
    cases same
    have before := Lease.acquire_grown f.context w
    have after := l.release_grown w₁
    rw [leased] at before
    replace released : l.release w₁ = (ended, w') := released
    rw [released] at after
    exact (before.mono fun _ => .inl).append (after.mono fun _ => .inr)

end Facade

def staffFacade : Facade Resources Filter where
  id := ⟨0⟩
  context := ⟨(staffScript []).factory 0, {}, none⟩
  reserved := .standard

def staffWorld : World Resources Filter := { site := { resource := [.ofScript (staffScript [])] } }

/-- The account gets another group. -/
def joinGroup : Request Unit :=
  .changeValues .add .account ⟨"7"⟩ (.ofList [.single "group" (.text "admin")]) {}

theorem staffScript_gentle : (staffScript []).Gentle where
  flaky := rfl
  late := rfl
  init := rfl
  settled := by decide

/-- Accepted arguments are as required; here the call has done something. -/
theorem joinGroup_met : ∀ c ∈ joinGroup.requirements staffFacade.reserved, c.Met := by
  obtain ⟨e, -, failed⟩ | ⟨met, -⟩ := staffFacade.performs joinGroup
  · have served : (staffFacade.perform joinGroup (staffWorld, ())).2.1.site.journal.isEmpty =
        false := by decide +kernel
    rw [failed] at served
    cases served
  · exact met

theorem exists_staff_lease :
    ∃ l w₁, Lease.acquire staffFacade.context staffWorld = (.ok l, w₁) ∧
      l.member.connector = (staffScript []).fullConnector 0 ∧
      l.member.capabilities = .ofList [.search, .update] := by
  have found : ((Lease.acquire staffFacade.context staffWorld).1.toOption.map fun l =>
      l.member.capabilities) = some (.ofList [.search, .update]) := by decide +kernel
  cases leased : Lease.acquire staffFacade.context staffWorld with
  | mk acquired w₁ =>
    rw [leased] at found
    cases acquired with
    | error why => cases found
    | ok l =>
      exact ⟨l, w₁, rfl, ((Lease.acquire_made rfl).ok trivial leased).1, Option.some.inj found⟩

/-- The instance searches and replaces, so values are added for it; it has no schema. -/
theorem staffFacade_support :
    ∃ l w₁, Lease.acquire staffFacade.context staffWorld = (.ok l, w₁) ∧ l.member.AsProbed ∧
      (∀ c ∈ joinGroup.requirements staffFacade.reserved, c.Met) ∧
      l.member.capabilities.supports .addAttributeValues = true ∧
      l.member.capabilities.supports .schema = false ∧
      (∃ result site r₂, joinGroup.AsAdvertised .addAttributeValues .standard l.member
        (w₁.site, ()) (site, r₂) result) ∧
      (∃ result site r₂, (.schema : Request Unit).AsAdvertised .schema .standard l.member
        (w₁.site, ()) (site, r₂) result) ∧
      ((staffFacade.perform joinGroup (staffWorld, ())).1 matches .ok ⟨"7"⟩) ∧
      ((staffFacade.perform (.schema : Request Unit) (staffWorld, ())).1
        matches .error (.error (.notSupported .schema))) := by
  obtain ⟨l, w₁, leased, connector, capabilities⟩ := exists_staff_lease
  have steady : l.member.AsProbed := by
    intro c s
    rw [connector, ConnectorScript.provides_eq staffScript_gentle, capabilities]
    cases c <;> decide
  obtain ⟨-, kept⟩ := (staffFacade.support_kept (ρ := Unit)).1 () leased
  obtain ⟨result, site, r₂, -, -, -, joined, -⟩ := kept joinGroup rfl joinGroup_met
  obtain ⟨result', site', r₂', -, -, -, refused, -⟩ :=
    kept .schema rfl fun c hc => absurd hc List.not_mem_nil
  refine ⟨l, w₁, leased, steady, joinGroup_met, by rw [capabilities]; decide,
    by rw [capabilities]; decide, ⟨result, site, r₂, joined⟩, ⟨result', site', r₂', refused⟩,
    by decide +kernel, by decide +kernel⟩

end ConnectorHub
