import ConnectorHub.Hub.Facade
import ConnectorHub.Proofs.Likeness.World

namespace ConnectorHub

open ConnectorHub.Action

variable {σ κ ρ α β : Type}

/-- What a caller may ask for; `ρ` is what a caller of a stream keeps. -/
inductive Request (ρ : Type) where
  | create (oc : ObjectClass) (as : List Attribute) (options : Options)
  | delete (oc : ObjectClass) (uid : Uid) (options : Options)
  | update (oc : ObjectClass) (uid : Uid) (delta : AttributeSet) (options : Options)
  | changeValues (change : ValueChange) (oc : ObjectClass) (uid : Uid) (delta : AttributeSet)
    (options : Options)
  | search (oc : ObjectClass) (filter : Option Filter) (h : Handler ρ ResourceObject)
    (options : Options)
  | getObject (oc : ObjectClass) (uid : Uid) (options : Options)
  | sync (oc : ObjectClass) (token : Option Json) (h : Handler ρ SyncDelta) (options : Options)
  | latestToken (oc : ObjectClass)
  | schema
  | test
  | authenticate (oc : ObjectClass) (username : String) (password : Secret) (options : Options)
  | resolveUsername (oc : ObjectClass) (username : String) (options : Options)
  | scriptOnConnector (script : Script) (options : Options)
  | scriptOnResource (script : Script) (options : Options)
  | capabilities

def Request.Reply : Request ρ → Type
  | .create .. | .update .. | .changeValues .. => Uid
  | .authenticate .. | .resolveUsername .. => Uid
  | .delete .. | .search .. | .sync .. | .test => Unit
  | .getObject .. => Option ResourceObject
  | .latestToken _ => Option Json
  | .schema => Schema
  | .scriptOnConnector .. | .scriptOnResource .. => Json
  | .capabilities => CapabilitySet

def Facade.perform (f : Facade σ κ) : (x : Request ρ) → Action (World σ κ × ρ) x.Reply
  | .create oc as options => Action.onFirst (f.create oc as options)
  | .delete oc uid options => Action.onFirst (f.delete oc uid options)
  | .update oc uid delta options => Action.onFirst (f.update oc uid delta options)
  | .changeValues change oc uid delta options =>
    Action.onFirst (f.changeValues change oc uid delta options)
  | .search oc filter h options => f.search oc filter h options
  | .getObject oc uid options => Action.onFirst (f.getObject oc uid options)
  | .sync oc token h options => f.sync oc token h options
  | .latestToken oc => Action.onFirst (f.latestToken oc)
  | .schema => Action.onFirst f.schema
  | .test => Action.onFirst f.test
  | .authenticate oc username password options =>
    Action.onFirst (f.authenticate oc username password options)
  | .resolveUsername oc username options => Action.onFirst (f.resolveUsername oc username options)
  | .scriptOnConnector script options => Action.onFirst (f.scriptOnConnector script options)
  | .scriptOnResource script options => Action.onFirst (f.scriptOnResource script options)
  | .capabilities => Action.onFirst f.capabilities

/-- What a request whose arguments are as required does on the instance that it takes. -/
def Request.work (reserved : ReservedNames) (i : Instance σ κ) :
    (x : Request ρ) → Action (Site σ κ × ρ) x.Reply
  | .create oc as options => Action.onFirst do
    i.require .create
    i.uidOf oc (i.call (.create oc ((i.normalizer oc).onAttributes (.ofList as)) options))
  | .delete oc uid options => Action.onFirst do
    i.require .delete
    i.call (.delete oc ((i.normalizer oc).onUid uid) options)
  | .update oc uid delta options => Action.onFirst (i.update reserved oc uid delta options)
  | .changeValues change oc uid delta options =>
    Action.onFirst (i.changeValues reserved change oc uid delta options)
  | .search oc filter h options => i.search oc filter h options
  | .getObject oc uid options => Action.onFirst (i.getObject oc uid options)
  | .sync oc token h options => do
    Action.onFirst (i.require .sync)
    let stages := Facade.syncStages (i.normalizer oc) options.attributesToGet
    i.sync oc token (DeltaStage.handler stages h) options
  | .latestToken oc => Action.onFirst do
    i.require .sync
    i.call (.latestToken oc)
  | .schema => Action.onFirst do
    i.require .schema
    i.call .schema
  | .test => Action.onFirst do
    i.require .test
    i.call .test
  | .authenticate oc username password options => Action.onFirst do
    i.require .authenticate
    i.uidOf oc (i.call (.authenticate oc username password options))
  | .resolveUsername oc username options => Action.onFirst do
    i.require .resolveUsername
    i.uidOf oc (i.call (.resolveUsername oc username options))
  | .scriptOnConnector script options => Action.onFirst do
    i.require .scriptOnConnector
    i.call (.scriptOnConnector script options)
  | .scriptOnResource script options => Action.onFirst do
    i.require .scriptOnResource
    i.call (.scriptOnResource script options)
  | .capabilities => Action.onFirst (pure i.capabilities)

structure Facade.Alike (f g : Facade σ κ) : Prop where
  context : f.context.Alike g.context
  reserved : f.reserved = g.reserved

/-- Both refuse their arguments, or both do work on an instance that comes to the same on parallel
instances. -/
inductive Context.Together (c d : Context σ κ) (x y : Action (World σ κ × ρ) α) : Prop where
  | refused (e : Error) (hx : x = Action.fail e) (hy : y = Action.fail e)
  | served (b b' : Instance σ κ → Action (Site σ κ × ρ) α) (hx : x = c.feedingFrom b)
    (hy : y = d.feedingFrom b')
    (works : ∀ (R : Site σ κ → Site σ κ → Prop) (i j : Instance σ κ), i.Parallel R j →
      Agree (Both R Eq) (SameEnd Eq) (b i) (b' j))

namespace Context

variable {c d : Context σ κ}

theorem onFirst_withInstance (c : Context σ κ) (b : Instance σ κ → Action (Site σ κ) α) :
    (Action.onFirst (c.withInstance b) : Action (World σ κ × ρ) α) =
      c.feedingFrom fun i => Action.onFirst (b i) := by
  funext s
  obtain ⟨w, r⟩ := s
  cases run : Lease.acquire c w with
  | mk result w' =>
    have leased := Action.onFirst_of_run (r := r) run
    cases result with
    | error why =>
      exact (Action.onFirst_of_run (Action.bind_of_error run)).trans
        (Action.bind_of_error leased).symm
    | ok l =>
      refine Eq.trans ?_ (Action.bind_of_ok leased).symm
      cases worked : b l.member w'.site with
      | mk outcome site =>
        cases released : l.release { w' with site := site } with
        | mk ended w'' =>
          have whole : c.withInstance b w =
              Action.ensuring (World.onSite (b l.member)) l.release w' := Action.bind_of_ok run
          cases ended <;> simp [Action.onFirst, Action.zoom, whole, Action.ensuring, World.onSite,
            World.onSiteWith, worked, released]

theorem Together.check (r : Except Error β) {f g : β → Action (World σ κ × ρ) α}
    (h : ∀ a, c.Together d (f a) (g a)) :
    c.Together d (Action.ofExcept r >>= f) (Action.ofExcept r >>= g) := by
  cases r with
  | ok a => exact h a
  | error e => exact .refused e rfl rfl

theorem Together.checkFirst (r : Except Error β) {f g : β → Action (World σ κ) α}
    (h : ∀ a, c.Together (ρ := ρ) d (Action.onFirst (f a)) (Action.onFirst (g a))) :
    c.Together (ρ := ρ) d (Action.onFirst (Action.ofExcept r >>= f))
      (Action.onFirst (Action.ofExcept r >>= g)) := by
  cases r with
  | ok a => exact h a
  | error e => exact .refused e rfl rfl

theorem Together.withInstance {b b' : Instance σ κ → Action (Site σ κ) α}
    (works : ∀ (R : Site σ κ → Site σ κ → Prop) (i j : Instance σ κ), i.Parallel R j →
      Agree R (SameEnd Eq) (b i) (b' j)) :
    c.Together (ρ := ρ) d (Action.onFirst (c.withInstance b)) (Action.onFirst (d.withInstance b')) :=
  .served _ _ (c.onFirst_withInstance b) (d.onFirst_withInstance b') fun R i j hij =>
    (works R i j hij).onFirst

end Context

namespace Facade

open Context

variable {f g : Facade σ κ}

/-- Facades of one list of reserved names do the same work, whatever their contexts. -/
theorem together (reserved : f.reserved = g.reserved) (x : Request ρ) :
    f.context.Together g.context (f.perform x) (g.perform x) := by
  cases x with
  | create oc as options =>
    refine Together.checkFirst _ fun _ => Together.checkFirst _ fun s => ?_
    refine Together.withInstance fun R i j hij => Agree.bindEq (hij.require .create) fun _ => ?_
    rw [hij.normalizer oc]
    exact hij.uidOf oc (hij.call (.create oc _ options) rfl)
  | delete oc uid options =>
    refine Together.checkFirst _ fun _ => Together.checkFirst _ fun _ => ?_
    refine Together.withInstance fun R i j hij => Agree.bindEq (hij.require .delete) fun _ => ?_
    rw [hij.normalizer oc]
    exact hij.call (.delete oc _ options) rfl
  | update oc uid delta options =>
    unfold perform Facade.update
    rw [reserved]
    refine Together.checkFirst _ fun _ => Together.checkFirst _ fun _ =>
      Together.checkFirst _ fun _ => ?_
    exact Together.withInstance fun R i j hij => hij.update g.reserved oc uid delta options
  | changeValues change oc uid delta options =>
    unfold perform Facade.changeValues
    rw [reserved]
    refine Together.checkFirst _ fun _ => Together.checkFirst _ fun _ =>
      Together.checkFirst _ fun _ => ?_
    exact Together.withInstance fun R i j hij =>
      hij.changeValues g.reserved change oc uid delta options
  | search oc filter hd options =>
    refine Together.check _ fun _ => .served _ _ rfl rfl fun R i j hij => ?_
    exact hij.search oc filter hd options
  | getObject oc uid options =>
    refine Together.checkFirst _ fun _ => Together.checkFirst _ fun _ => ?_
    exact Together.withInstance fun R i j hij => hij.getObject oc uid options
  | sync oc token hd options =>
    refine Together.check _ fun _ => .served _ _ rfl rfl fun R i j hij => ?_
    refine Agree.bindEq (hij.require .sync).onFirst fun _ => ?_
    dsimp only
    rw [hij.normalizer oc]
    exact hij.sync oc token _ options
  | latestToken oc =>
    refine Together.checkFirst _ fun _ => ?_
    refine Together.withInstance fun R i j hij => Agree.bindEq (hij.require .sync) fun _ => ?_
    exact hij.call (.latestToken oc) rfl
  | schema =>
    refine Together.withInstance fun R i j hij => Agree.bindEq (hij.require .schema) fun _ => ?_
    exact hij.call (.schema) rfl
  | test =>
    refine Together.withInstance fun R i j hij => Agree.bindEq (hij.require .test) fun _ => ?_
    exact hij.call (.test) rfl
  | authenticate oc username password options =>
    refine Together.checkFirst _ fun _ => Together.checkFirst _ fun _ => ?_
    refine Together.withInstance fun R i j hij => Agree.bindEq (hij.require .authenticate) fun _ => ?_
    exact hij.uidOf oc (hij.call (.authenticate oc username password options) rfl)
  | resolveUsername oc username options =>
    refine Together.checkFirst _ fun _ => Together.checkFirst _ fun _ => ?_
    refine Together.withInstance fun R i j hij => Agree.bindEq (hij.require .resolveUsername) fun _ => ?_
    exact hij.uidOf oc (hij.call (.resolveUsername oc username options) rfl)
  | scriptOnConnector script options =>
    refine Together.checkFirst _ fun _ => ?_
    refine Together.withInstance fun R i j hij => Agree.bindEq (hij.require .scriptOnConnector) fun _ => ?_
    exact hij.call (.scriptOnConnector script options) rfl
  | scriptOnResource script options =>
    refine Together.checkFirst _ fun _ => ?_
    refine Together.withInstance fun R i j hij => Agree.bindEq (hij.require .scriptOnResource) fun _ => ?_
    exact hij.call (.scriptOnResource script options) rfl
  | capabilities =>
    exact Together.withInstance fun R i j hij => Agree.pure hij.capabilities

end Facade

end ConnectorHub
