import ConnectorHub.Proofs.Hub.Request
import ConnectorHub.Proofs.Hub.Transfer
import ConnectorHub.Proofs.Likeness.Scripted

namespace ConnectorHub

open ConnectorHub.Action

variable {σ κ ρ α : Type}

/-- How a call goes that leads from `w` to `w'`. -/
inductive Context.Course (c : Context σ κ) (w w' : World σ κ) (result : Except Stop α) : Prop where
  /-- The arguments were refused, and nothing was done. -/
  | refused (e : Error) (told : result = .error (.error e)) (same : w' = w)
  /-- No instance was leased. Unless the call was cut short, all that were constructed have been
  disposed of, each of them once. -/
  | unacquired (why : Stop) (acquired : List (Entry κ))
    (failed : Lease.acquire c w = (.error why, w')) (told : result = .error why)
    (written : w'.site.journal = w.site.journal ++ acquired)
    (upkeep : ∀ e ∈ acquired, e.Upkeep) (permits : c.Permits w w' [] [])
    (undone : why.abrupt = false → c.Transfer w w' [] [] acquired ∧
      ∀ id, id ∉ c.idleIds w → Entry.disposals id acquired = Entry.constructions id acquired)
  /-- One instance was leased and did all the work, and then it was released. -/
  | served (l : Lease σ κ) (w₁ w₂ : World σ κ) (acquired work closing : List (Entry κ))
    (leased : Lease.acquire c w = (.ok l, w₁)) (taken : c.Transfer w w₁ [] [l.member.id] acquired)
    (upkeep : ∀ e ∈ acquired, e.Upkeep)
    (worked : w₂.site.journal = w₁.site.journal ++ work) (still : w₂.pools = w₁.pools)
    (ofMember : ∀ e ∈ work, e.WorkOf l.member.id)
    (released : (l.release w₂).2 = w') (returned : c.Transfer w₂ w' [l.member.id] [] closing)
    (closes : ∀ e ∈ closing, e.ClosingOf l.member.id)

namespace Action

/-- The end of a computation whose last step ended as `ended`. -/
def overriding (ended : Except Stop Unit) (result : Except Stop α) : Except Stop α :=
  match ended with
  | .ok () => result
  | .error why => .error why

theorem ensuring_of_run {x : Action σ α} {after : Action σ Unit} {s t u : σ} {r : Except Stop α}
    {ended : Except Stop Unit} (run : x s = (r, t)) (done : after t = (ended, u)) :
    Action.ensuring x after s = (overriding ended r, u) := by
  unfold Action.ensuring
  rw [run]
  dsimp only
  rw [done]
  cases ended <;> rfl

end Action

theorem World.pools_of_onSiteWith {x : Action (Site σ κ × ρ) α} {s t : World σ κ × ρ}
    {result : Except Stop α} (run : World.onSiteWith x s = (result, t)) : t.1.pools = s.1.pools := by
  have last : (World.onSiteWith x s).2 = t := congrArg Prod.snd run
  rw [← last]
  rfl

namespace Context

variable {c d : Context σ κ} {w w' v : World σ κ}

/-- An instance made in vain is not idle, so it has been disposed of. -/
theorem Transfer.disposals_eq {es : List (Entry κ)} (h : c.Transfer w w' [] [] es)
    (fewer : ∀ id ∈ c.idleIds w', id ∈ c.idleIds w) (id : Nat) (hid : id ∉ c.idleIds w) :
    Entry.disposals id es = Entry.constructions id es := by
  have balance := h.balance id
  rw [List.count_eq_zero_of_not_mem hid,
    List.count_eq_zero_of_not_mem fun h => hid (fewer id h)] at balance
  simp only [List.count_nil] at balance
  omega

theorem unacquired_course {why : Stop} (run : Lease.acquire c w = (.error why, w'))
    (like : w'.Like Entry.Upkeep w.site.journal v) :
    c.Course w w' (.error why : Except Stop α) := by
  obtain ⟨acquired, written, upkeep⟩ := like.site.written
  obtain ⟨permits, undone⟩ := acquire_vain run written
  refine .unacquired why acquired run rfl written upkeep permits fun settled => ?_
  obtain ⟨transfer, fewer⟩ := undone settled
  exact ⟨transfer, transfer.disposals_eq fewer⟩

theorem served_course {l : Lease σ κ} {w₁ w₂ v₁ v₂ : World σ κ} {ended : Except Stop Unit}
    {result : Except Stop α} (run : Lease.acquire c w = (.ok l, w₁))
    (release : l.release w₂ = (ended, w')) (acquired : w₁.Like Entry.Upkeep w.site.journal v₁)
    (still : w₂.pools = w₁.pools)
    (worked : w₂.Like (Entry.WorkOf l.member.id) w₁.site.journal v₂)
    (closed : w'.Like (Entry.ClosingOf l.member.id) w₂.site.journal v) : c.Course w w' result := by
  obtain ⟨es, acquired, upkeep⟩ := acquired.site.written
  obtain ⟨work, worked, ofMember⟩ := worked.site.written
  obtain ⟨closing, closed, closes⟩ := closed.site.written
  have leased : l.pool = c.pool := (Lease.acquire_pool c).ok trivial run
  have there : c.pool.isSome = true → (c.pool? w₂).isSome = true := by
    intro hc
    rw [pool?, still]
    exact acquire_there run hc
  have taken : c.Transfer w w₁ [] [l.member.id] es := acquire_transfer run acquired
  have returned : c.Transfer w₂ w' [l.member.id] [] closing :=
    release_transfer leased there release closed
  have released : (l.release w₂).2 = w' := congrArg Prod.snd release
  exact .served l w₁ w₂ es work closing run taken upkeep worked still ofMember released returned
    closes

theorem feedingFrom_of_run {b : Instance σ κ → Action (Site σ κ × ρ) α} {l : Lease σ κ}
    {w₁ w₂ : World σ κ} {r r₂ : ρ} {outcome : Except Stop α} {ended : Except Stop Unit}
    (run : Lease.acquire c w = (.ok l, w₁))
    (body : World.onSiteWith (b l.member) (w₁, r) = (outcome, (w₂, r₂)))
    (release : l.release w₂ = (ended, w')) :
    c.feedingFrom b (w, r) = (Action.overriding ended outcome, (w', r₂)) := by
  have leased := Action.onFirst_of_run (r := r) run
  have released := Action.onFirst_of_run (r := r₂) release
  exact (Action.bind_of_ok leased).trans (Action.ensuring_of_run body released)

/-- A call on each of two contexts that are alike. -/
theorem Alike.feedingFrom (h : c.Alike d) {b b' : Instance σ κ → Action (Site σ κ × ρ) α}
    (works : ∀ i j : Instance σ κ, i.Alike j → i.WorksFor ρ (b i) (b' j)) (hwv : w.Alike v) (r : ρ) :
    c.Course w (c.feedingFrom b (w, r)).2.1 (c.feedingFrom b (w, r)).1 ∧
      (c.feedingFrom b (w, r)).1 = (d.feedingFrom b' (v, r)).1 ∧
      (c.feedingFrom b (w, r)).2.2 = (d.feedingFrom b' (v, r)).2.2 ∧
      (c.feedingFrom b (w, r)).2.1.Alike (d.feedingFrom b' (v, r)).2.1 := by
  obtain ⟨ends, next⟩ := h.acquire w v (hwv.like Entry.Upkeep)
  cases run : Lease.acquire c w with
  | mk result w₁ =>
  cases run' : Lease.acquire d v with
  | mk result' v₁ =>
  rw [run, run'] at ends next
  cases ends with
  | error why =>
    have first : c.feedingFrom b (w, r) = (.error why, (w₁, r)) :=
      Action.bind_of_error (Action.onFirst_of_run run)
    have second : d.feedingFrom b' (v, r) = (.error why, (v₁, r)) :=
      Action.bind_of_error (Action.onFirst_of_run run')
    rw [first, second]
    exact ⟨unacquired_course run next, rfl, rfl, next.alike⟩
  | @ok l m hlm =>
    have agree := works l.member m.member hlm.member w₁.site.journal
    obtain ⟨done, onward, kept⟩ :=
      World.agree_onSiteWith agree (w₁, r) (v₁, r) ⟨next.alike.like _, rfl⟩
    cases body : World.onSiteWith (b l.member) (w₁, r) with
    | mk outcome s =>
    cases body' : World.onSiteWith (b' m.member) (v₁, r) with
    | mk outcome' s' =>
    rw [body, body'] at done onward kept
    obtain ⟨w₂, r₂⟩ := s
    obtain ⟨v₂, r₂'⟩ := s'
    obtain rfl : outcome = outcome' := done.eq
    obtain rfl : r₂ = r₂' := kept
    obtain ⟨told, last⟩ := hlm.release w₂ v₂ (onward.alike.like _)
    cases release : l.release w₂ with
    | mk ended w₃ =>
    cases release' : m.release v₂ with
    | mk ended' v₃ =>
    rw [release, release'] at told last
    obtain rfl : ended = ended' := told.eq
    have still : w₂.pools = w₁.pools := World.pools_of_onSiteWith body
    rw [feedingFrom_of_run run body release, feedingFrom_of_run run' body' release']
    exact ⟨served_course run release next still onward last, rfl, rfl, last.alike⟩

theorem Together.course (h : c.Alike d) {x y : Action (World σ κ × ρ) α} (both : c.Together d x y)
    (hwv : w.Alike v) (r : ρ) :
    c.Course w (x (w, r)).2.1 (x (w, r)).1 ∧ (x (w, r)).1 = (y (v, r)).1 ∧
      (x (w, r)).2.2 = (y (v, r)).2.2 ∧ (x (w, r)).2.1.Alike (y (v, r)).2.1 := by
  cases both with
  | refused e hx hy =>
    rw [hx, hy]
    exact ⟨.refused e rfl rfl, rfl, rfl, hwv⟩
  | served b b' hx hy works =>
    rw [hx, hy]
    exact h.feedingFrom (fun i j hij before => works _ i j (hij.parallel before)) hwv r

end Context

theorem Facade.Alike.together {f g : Facade σ κ} (h : f.Alike g) (x : Request ρ) :
    f.context.Together g.context (f.perform x) (g.perform x) :=
  Facade.together h.reserved x

theorem Facade.Alike.refl (f : Facade σ κ) : f.Alike f := ⟨.refl f.context, rfl⟩

/-- A caller's one instance is released once and after its work. Whether instances can be disposed of
makes no difference to the caller, nor to later calls. -/
theorem Facade.releases_once (f : Facade σ κ) (x : Request ρ) (w : World σ κ) (r : ρ) :
    f.context.Course w (f.perform x (w, r)).2.1 (f.perform x (w, r)).1 ∧
      ∀ (g : Facade σ κ) (v : World σ κ), f.Alike g → w.Alike v →
        (f.perform x (w, r)).1 = (g.perform x (v, r)).1 ∧
        (f.perform x (w, r)).2.2 = (g.perform x (v, r)).2.2 ∧
        (f.perform x (w, r)).2.1.Alike (g.perform x (v, r)).2.1 := by
  constructor
  · have alone := (Alike.refl f).together x
    exact (alone.course (.refl f.context) (.refl w) r).1
  · intro g v hfg hwv
    exact ((hfg.together x).course hfg.context hwv r).2

/-- A connector without native changes of values. -/
def plainScript : ConnectorScript where
  key := ⟨"plain", "1", "Plain"⟩
  capabilities := [.search, .update]

def plainFactory (outcomes : List (Option Error)) : Factory Resources Filter :=
  (plainScript.disposing outcomes).factory 0

def plainFacade (outcomes : List (Option Error)) : Facade Resources Filter where
  id := ⟨0⟩
  context := ⟨plainFactory outcomes, {}, none⟩
  reserved := .standard

def plainWorld : World Resources Filter := { site := { resource := [Resource.ofScript plainScript] } }

def addedPhone : AttributeSet := .ofList [⟨"phone", [.text "555"]⟩]

/-- An update that is emulated and meets no object. -/
def addPhone : Request Unit := .changeValues .add .account ⟨"7"⟩ addedPhone {}

theorem plainFacade_alike (outcomes outcomes' : List (Option Error)) :
    (plainFacade outcomes).Alike (plainFacade outcomes') where
  context := ⟨plainScript.disposing_alike outcomes outcomes' 0, rfl, rfl⟩
  reserved := rfl

/-- The object is not found, whether the instance can be disposed of or not. -/
theorem addPhone_releases_once :
    (plainFacade []).Alike (plainFacade [some .authenticationFailed]) ∧
      plainWorld.Alike plainWorld ∧
      (plainFacade []).context.Course plainWorld
        ((plainFacade []).perform addPhone (plainWorld, ())).2.1
        ((plainFacade []).perform addPhone (plainWorld, ())).1 ∧
      ((plainFacade []).perform addPhone (plainWorld, ())).1 =
        ((plainFacade [some .authenticationFailed]).perform addPhone (plainWorld, ())).1 ∧
      (((plainFacade []).perform addPhone (plainWorld, ())).1
        matches .error (.error (.unknownUid "__ACCOUNT__" "7"))) ∧
      Entry.disposals 0 ((plainFacade [some .authenticationFailed]).perform addPhone
        (plainWorld, ())).2.1.site.journal = 1 := by
  have alike := plainFacade_alike [] [some .authenticationFailed]
  obtain ⟨course, same⟩ := (plainFacade []).releases_once addPhone plainWorld ()
  obtain ⟨told, -, -⟩ := same (plainFacade [some .authenticationFailed]) plainWorld alike (.refl _)
  exact ⟨alike, .refl _, course, told, by decide +kernel, by decide +kernel⟩

end ConnectorHub
