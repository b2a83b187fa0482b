import ConnectorHub.Proofs.Attributes.Respelling
import ConnectorHub.Proofs.Filter.PushNot

namespace ConnectorHub

/-- The same tree of the same tests, up to the case of the names in them. -/
inductive Filter.Respelled : Filter → Filter → Prop where
  | compare (c : Comparison) {a b : Attribute} (same : a.Respelled b) :
      Respelled (.test (.compare c a)) (.test (.compare c b))
  | present {name other : String} (same : Text.fold name = Text.fold other) :
      Respelled (.test (.present name)) (.test (.present other))
  | and {fs gs : List Filter} (parts : List.Forall₂ Respelled fs gs) : Respelled (.and fs) (.and gs)
  | or {fs gs : List Filter} (parts : List.Forall₂ Respelled fs gs) : Respelled (.or fs) (.or gs)
  | not {f g : Filter} (part : Respelled f g) : Respelled (.not f) (.not g)

/-- A comparison reads the values of its attribute, and not the name. -/
theorem Comparison.holds_congr (c : Comparison) {a b : Attribute} (h : a.values = b.values) :
    c.holds a = c.holds b := by
  funext vs
  cases c <;> simp only [holds, anyOrdered, anyText, Attribute.single?, h]

namespace AttributeTest

variable {o p : ResourceObject} (h : o.attributes.Respelled p.attributes)
include h

theorem accepts_compare_respelled (c : Comparison) {a b : Attribute} (same : a.Respelled b) :
    (compare c a).accepts o = (compare c b).accepts p := by
  obtain ⟨here, there⟩ | ⟨x, y, here, there, alike⟩ := ResourceObject.find_respelled h same.key
  · rw [accepts, accepts, here, there]
    rfl
  · rw [accepts, accepts, here, there, Option.any_some, Option.any_some, c.holds_congr same.values,
      alike.values]

theorem accepts_present_respelled {name other : String} (same : Text.fold name = Text.fold other) :
    (present name).accepts o = (present other).accepts p := by
  obtain ⟨here, there⟩ | ⟨x, y, here, there, alike⟩ := ResourceObject.find_respelled h same
  · rw [accepts, accepts, here, there]
  · rw [accepts, accepts, here, there, Option.any_some, Option.any_some, alike.values]

end AttributeTest

namespace Filter

variable {o p : ResourceObject}

mutual

theorem accepts_respelled (h : o.attributes.Respelled p.attributes) :
    ∀ {f g : Filter}, f.Respelled g → f.accepts o = g.accepts p
  | .test _, _, .compare c same => AttributeTest.accepts_compare_respelled h c same
  | .test _, _, .present same => AttributeTest.accepts_present_respelled h same
  | .and fs, .and gs, .and parts => by
    rw [accepts, accepts, acceptsAll_respelled h parts]
  | .or fs, .or gs, .or parts => by
    rw [accepts, accepts, acceptsAny_respelled h parts]
  | .not f, .not g, .not part => by
    rw [accepts, accepts, accepts_respelled h part]

theorem acceptsAll_respelled (h : o.attributes.Respelled p.attributes) :
    ∀ {fs gs : List Filter}, List.Forall₂ Respelled fs gs → acceptsAll fs o = acceptsAll gs p
  | [], [], .nil => rfl
  | f :: fs, g :: gs, .cons first rest => by
    rw [acceptsAll, acceptsAll, accepts_respelled h first, acceptsAll_respelled h rest]

theorem acceptsAny_respelled (h : o.attributes.Respelled p.attributes) :
    ∀ {fs gs : List Filter}, List.Forall₂ Respelled fs gs → acceptsAny fs o = acceptsAny gs p
  | [], [], .nil => rfl
  | f :: fs, g :: gs, .cons first rest => by
    rw [acceptsAny, acceptsAny, accepts_respelled h first, acceptsAny_respelled h rest]

end

end Filter

end ConnectorHub
