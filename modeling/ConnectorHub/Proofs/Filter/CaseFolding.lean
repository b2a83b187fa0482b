import ConnectorHub.Filter.Accept
import ConnectorHub.Proofs.Attributes.Equality
import ConnectorHub.Proofs.Attributes.Lowercase

namespace ConnectorHub

namespace Text

theorem occursIn_map (f : Char → Char) {pattern text : List Char}
    (h : occursIn pattern text = true) : occursIn (pattern.map f) (text.map f) = true := by
  induction text with
  | nil => simpa [occursIn] using h
  | cons c rest ih =>
    simp only [occursIn, Bool.or_eq_true, List.isPrefixOf_iff_prefix] at h
    simp only [List.map_cons, occursIn, Bool.or_eq_true, List.isPrefixOf_iff_prefix]
    exact h.imp (fun starts => starts.map f) ih

variable {s pattern : String}

theorem hasPart_fold (h : hasPart s pattern = true) : hasPart (fold s) (fold pattern) = true := by
  rw [hasPart, toList_fold, toList_fold]
  exact occursIn_map _ h

theorem hasStart_fold (h : hasStart s pattern = true) :
    hasStart (fold s) (fold pattern) = true := by
  rw [hasStart, List.isPrefixOf_iff_prefix] at h ⊢
  rw [toList_fold, toList_fold]
  exact h.map _

theorem hasEnd_fold (h : hasEnd s pattern = true) : hasEnd (fold s) (fold pattern) = true := by
  rw [hasEnd, List.isSuffixOf_iff_suffix] at h ⊢
  rw [toList_fold, toList_fold]
  exact h.map _

theorem sameName_fold {a b : String} (h : sameName a b = true) :
    sameName (fold a) (fold b) = true := by
  rw [sameName_iff] at h ⊢
  rw [h]

end Text

namespace Value

variable {u v : Value} {us vs : List Value}

/-- The value with its text in lower case, if it is one. -/
abbrev lower : Value → Value := Edit.onText Text.fold

theorem equals_lower (h : u.equals v = true) : u.lower.equals v.lower = true := by
  cases u <;> cases v <;> simp_all [lower, Edit.onText, equals]

theorem equalsIgnoreCase_lower (h : u.equalsIgnoreCase v = true) :
    u.lower.equalsIgnoreCase v.lower = true := by
  cases u with
  | text s =>
    cases v with
    | text t => exact Text.sameName_fold h
    | _ => cases h
  | _ => exact equals_lower h

theorem listEquals_lower (h : listEquals us vs = true) :
    listEquals (us.map lower) (vs.map lower) = true := by
  rw [listEquals_iff] at h ⊢
  rw [List.forall₂_map_left_iff, List.forall₂_map_right_iff]
  exact h.imp fun _ _ => equals_lower

theorem listEqualsIgnoreCase_iff : listEqualsIgnoreCase us vs = true ↔
    List.Forall₂ (fun u v => u.equalsIgnoreCase v = true) us vs := by
  induction us generalizing vs with
  | nil => cases vs <;> simp [listEqualsIgnoreCase]
  | cons u us ih => cases vs <;> simp [listEqualsIgnoreCase, ih]

theorem listEqualsIgnoreCase_lower (h : listEqualsIgnoreCase us vs = true) :
    listEqualsIgnoreCase (us.map lower) (vs.map lower) = true := by
  rw [listEqualsIgnoreCase_iff] at h ⊢
  rw [List.forall₂_map_left_iff, List.forall₂_map_right_iff]
  exact h.imp fun _ _ => equalsIgnoreCase_lower

theorem isIn_lower (h : v.isIn us = true) : v.lower.isIn (us.map lower) = true := by
  obtain ⟨u, mem, same⟩ := List.any_eq_true.mp h
  exact List.any_eq_true.mpr ⟨u.lower, List.mem_map_of_mem mem, equals_lower same⟩

end Value

namespace Comparison

/-- Whether values are compared by their order. -/
def isOrdering : Comparison → Bool
  | greaterThan | greaterThanOrEqual | lessThan | lessThanOrEqual => true
  | _ => false

variable {expected : Attribute} {values : List Value}

/-- The text that stands alone as the attribute's value. -/
theorem values_eq_of_single {e : String} (h : expected.single?.bind Value.text? = some e) :
    expected.values = [.text e] := by
  obtain ⟨v, single, text⟩ := Option.bind_eq_some_iff.mp h
  unfold Attribute.single? at single
  split at single
  · next u held =>
    cases single
    cases v with
    | text s => rw [held, Option.some.inj text]
    | _ => cases text
  · cases single

theorem anyText_lower {ok : String → String → Bool}
    (folds : ∀ {s e}, ok s e = true → ok (Text.fold s) (Text.fold e) = true)
    (h : anyText ok expected values = true) :
    anyText ok (Edit.lower.apply expected) (values.map Value.lower) = true := by
  unfold anyText at h
  split at h
  · next e alone =>
    have values := values_eq_of_single alone
    have lowered : (Edit.lower.apply expected).single?.bind Value.text? = some (Text.fold e) := by
      rw [Edit.apply, Attribute.single?, values]
      rfl
    obtain ⟨v, mem, matched⟩ := List.any_eq_true.mp h
    rw [anyText, lowered]
    cases v with
    | text s => exact List.any_eq_true.mpr ⟨_, List.mem_map_of_mem mem, folds matched⟩
    | _ => cases matched
  · cases h

theorem holds_lower {c : Comparison} (unordered : c.isOrdering = false)
    (h : c.holds expected values = true) :
    c.holds (Edit.lower.apply expected) (values.map Value.lower) = true := by
  cases c with
  | equals => exact Value.listEquals_lower h
  | equalsIgnoreCase => exact Value.listEqualsIgnoreCase_lower h
  | contains => exact anyText_lower Text.hasPart_fold h
  | startsWith => exact anyText_lower Text.hasStart_fold h
  | endsWith => exact anyText_lower Text.hasEnd_fold h
  | containsAllValues =>
    refine List.all_eq_true.mpr fun e mem => ?_
    obtain ⟨v, hv, rfl⟩ := List.mem_map.mp mem
    exact Value.isIn_lower (List.all_eq_true.mp h v hv)
  | greaterThan | greaterThanOrEqual | lessThan | lessThanOrEqual => cases unordered

end Comparison

/-- Made of tests that do not order, by conjunctions and disjunctions. -/
inductive Filter.Positive : Filter → Prop where
  | compare (c : Comparison) (a : Attribute) (unordered : c.isOrdering = false) :
    Positive (.test (.compare c a))
  | present (name : String) : Positive (.test (.present name))
  | and (fs : List Filter) (parts : ∀ f ∈ fs, Positive f) : Positive (.and fs)
  | or (fs : List Filter) (parts : ∀ f ∈ fs, Positive f) : Positive (.or fs)

section

variable {oc : ObjectClass} {chosen : String → Bool} {o : ResourceObject}

/-- The attribute and the one that is tested against it are in lower case both, or neither. -/
theorem AttributeTest.accepts_lowered {c : Comparison} (unordered : c.isOrdering = false)
    {expected : Attribute} (h : (compare c expected).accepts o = true) :
    (compare c (NormalRule.lowering chosen oc expected)).accepts
      ((⟨oc, some (NormalRule.lowering chosen)⟩ : Normalizer).onObject o) = true := by
  have valuewise := NormalRule.lowering_valuewise oc chosen
  rw [accepts, Option.any_eq_true] at h
  obtain ⟨a, found, held⟩ := h
  have key : a.key = expected.key := AttributeSet.key_of_get? found
  have name : (NormalRule.lowering chosen oc expected).name = expected.name :=
    valuewise.acts.name_onAttribute expected
  rw [accepts, name, valuewise.get?_onObject, found, Option.map_some, Option.any_some]
  change c.holds (NormalRule.lowering chosen oc expected) (NormalRule.lowering chosen oc a).values =
    true
  unfold NormalRule.lowering
  rw [key]
  split
  · exact Comparison.holds_lower unordered held
  · exact held

/-- A match is never lost by bringing texts into lower case, of the object and of the filter alike. -/
theorem Filter.Positive.accepts_lowering {f : Filter} (positive : f.Positive) (h : f.accepts o = true) :
    ((⟨oc, some (NormalRule.lowering chosen)⟩ : Normalizer).onFilter f).accepts
      ((⟨oc, some (NormalRule.lowering chosen)⟩ : Normalizer).onObject o) = true := by
  change (f.mapAttributes (NormalRule.lowering chosen oc)).accepts _ = true
  induction positive with
  | compare c a unordered => exact AttributeTest.accepts_lowered unordered h
  | present name =>
    rw [accepts, AttributeTest.accepts, Option.any_eq_true] at h
    obtain ⟨a, found, filled⟩ := h
    have valuewise := NormalRule.lowering_valuewise oc chosen
    rw [mapAttributes, accepts, AttributeTest.accepts, valuewise.get?_onObject, found,
      Option.map_some, Option.any_some, valuewise.values_onAttribute, List.isEmpty_map]
    exact filled
  | and fs parts ih =>
    rw [accepts, acceptsAll_eq_all, List.all_eq_true] at h
    rw [mapAttributes, mapAttributesAll_eq_map, accepts, acceptsAll_eq_all, List.all_map,
      List.all_eq_true]
    exact fun f hf => ih f hf (h f hf)
  | or fs parts ih =>
    rw [accepts, acceptsAny_eq_any, List.any_eq_true] at h
    rw [mapAttributes, mapAttributesAll_eq_map, accepts, acceptsAny_eq_any, List.any_map,
      List.any_eq_true]
    obtain ⟨f, hf, accepted⟩ := h
    exact ⟨f, hf, ih f hf accepted⟩

end

/-- A guest with a number among the addresses. -/
def guest : ResourceObject where
  objectClass := .account
  uid := ⟨"G-7"⟩
  attributes := (AttributeSet.ofList [⟨"Mail", [.text "Ann@Example.COM", .integer 7,
    .text "ann@Example.org"]⟩, ⟨"Dept", [.text "Law"]⟩]).insert (Uid.toAttribute ⟨"G-7"⟩)
  carries_uid := AttributeSet.uid?_insert_toAttribute _ _

/-- The addresses and the uid; the department stays as it is. -/
def mailAndUid (key : String) : Bool := key == "mail" || key == "__uid__"

def guestFilter : Filter :=
  .and [.uidEquals ⟨"G-7"⟩,
    .or [.value .endsWith "mail" (.text "@Example.net"), .value .contains "MAIL" (.text "n@E")],
    .compare .containsAllValues ⟨"mail", [.integer 7, .text "Ann@Example.COM"]⟩,
    .compare .equalsIgnoreCase ⟨"mail",
      [.text "ANN@example.com", .integer 7, .text "ANN@example.org"]⟩,
    .value .equals "dept" (.text "Law"), .present "Mail"]

theorem guestFilter_positive : guestFilter.Positive := by
  refine .and _ fun f hf => ?_
  fin_cases hf
  all_goals
    first
    | exact .present _
    | exact .compare _ _ rfl
    | refine .or _ fun g hg => ?_
      fin_cases hg <;> exact .compare _ _ rfl

theorem guestFilter_accepts_lowering :
    guestFilter.Positive ∧ guestFilter.accepts guest = true ∧
      ((⟨.account, some (NormalRule.lowering mailAndUid)⟩ : Normalizer).onFilter guestFilter).accepts
        ((⟨.account, some (NormalRule.lowering mailAndUid)⟩ : Normalizer).onObject guest) = true ∧
      ((⟨.account, some (NormalRule.lowering mailAndUid)⟩ : Normalizer).onObject guest).uid =
        ⟨"g-7"⟩ := by
  have accepted : guestFilter.accepts guest = true := by decide +kernel
  exact ⟨guestFilter_positive, accepted, guestFilter_positive.accepts_lowering accepted,
    by decide +kernel⟩

end ConnectorHub
