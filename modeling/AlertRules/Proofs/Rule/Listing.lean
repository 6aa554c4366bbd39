/-
AlertRules/Proofs/Rule/Listing.lean

What a comparison of two groups lists.  A group has a text at each of its places
(`RuleGroup.text?`), and none under a key that a map does not have.  Two groups share the
places in the rules that both of them have, besides the name and the interval.

An entry belongs to one place, or to the number of rules, which has no place
(`Difference.place`).  The comparison lists one entry for each shared place at which the texts
differ, one if the numbers of rules differ, and nothing else (`differences_exact`):

* `mem_differences_iff`: the entries are those that say what is different;
* `placesApart_differences`: no two of them are of the same place.

Both are shown for each part of the comparison and then put together.  Since what is different
does not depend on the side from which one looks, comparing the other way round gives the same
entries with their sides exchanged.
-/
import Mathlib.Data.List.Nodup
import AlertRules.Proofs.Rule.Difference

namespace AlertRules

/-! ### Places -/

/-- The rule that a place is in; a name and an interval are in none. -/
def Field.rule? : Field → Option Nat
  | name => none
  | interval => none
  | alert rule => some rule
  | expr rule => some rule
  | pending rule => some rule
  | labelAt rule _ => some rule
  | annotationAt rule _ => some rule

/-- The text of a rule at a place, whichever rule the place is in. -/
def Rule.text? (r : Rule) : Field → Option String
  | .name => none
  | .interval => none
  | .alert _ => some r.alert
  | .expr _ => some r.expr
  | .pending _ => some r.pending
  | .labelAt _ key => r.labels.get? key
  | .annotationAt _ key => r.annotations.get? key

/-- The text of a group at a place; in a rule that the group does not have there is none. -/
def RuleGroup.text? (g : RuleGroup) : Field → Option String
  | .name => some g.name
  | .interval => some g.interval
  | field => field.rule?.bind fun rule => g.rules[rule]?.bind fun r => r.text? field

/-- The rule that the place is in, if it is in one, is there in both groups. -/
def Field.IsShared (field : Field) (e a : RuleGroup) : Prop :=
  ∀ rule ∈ field.rule?, rule < e.rules.length ∧ rule < a.rules.length

/-- The groups differ at a place that they share, or, where none is given, in how many rules
they have. -/
def RuleGroup.DiffersAt (e a : RuleGroup) : Option Field → Prop
  | none => e.rules.length ≠ a.rules.length
  | some field => field.IsShared e a ∧ e.text? field ≠ a.text? field

theorem Field.isShared_of_none {field : Field} (h : field.rule? = none) (e a : RuleGroup) :
    field.IsShared e a := by
  intro rule hrule
  rw [h] at hrule
  cases hrule

theorem RuleGroup.text?_of_rule {field : Field} {rule : Nat} (h : field.rule? = some rule)
    (g : RuleGroup) : g.text? field = g.rules[rule]?.bind fun r => r.text? field := by
  cases field <;> cases h <;> rfl

/-! ### Entries -/

namespace Difference

/-- The place of an entry; the number of rules has none. -/
def place : Difference → Option Field
  | changed field _ _ => some field
  | missing field _ => some field
  | unexpected field _ => some field
  | ruleCount _ _ => none

/-- The entry of the same place for a comparison the other way round. -/
def swap : Difference → Difference
  | changed field expected actual => changed field actual expected
  | missing field expected => unexpected field expected
  | unexpected field actual => missing field actual
  | ruleCount expected actual => ruleCount actual expected

/-- The entry says how the texts of two groups at a place differ. -/
inductive Between (field : Field) : Option String → Option String → Difference → Prop
  | changed {expected actual : String} : expected ≠ actual →
      Between field (some expected) (some actual) (.changed field expected actual)
  | missing (expected : String) : Between field (some expected) none (.missing field expected)
  | unexpected (actual : String) : Between field none (some actual) (.unexpected field actual)

variable {field : Field} {x y : Option String} {d d' : Difference}

theorem Between.place (h : Between field x y d) : d.place = some field := by
  cases h <;> rfl

theorem Between.unique (h : Between field x y d) (h' : Between field x y d') : d = d' := by
  cases h <;> cases h' <;> rfl

theorem exists_between_iff : (∃ d, Between field x y d) ↔ x ≠ y := by
  constructor
  · rintro ⟨d, h⟩ heq
    cases h with
    | changed hne => exact hne (Option.some.inj heq)
    | missing => cases heq
    | unexpected => cases heq
  · intro hne
    rcases x with _ | x <;> rcases y with _ | y
    · exact absurd rfl hne
    · exact ⟨_, .unexpected y⟩
    · exact ⟨_, .missing x⟩
    · exact ⟨_, .changed fun heq => hne (congrArg some heq)⟩

@[simp] theorem swap_swap (d : Difference) : d.swap.swap = d := by
  cases d <;> rfl

theorem Between.swap (h : Between field x y d) : Between field y x d.swap := by
  cases h with
  | changed hne => exact .changed hne.symm
  | missing => exact .unexpected _
  | unexpected => exact .missing _

end Difference

/-- The entry says how the groups differ: in the number of rules, or at a place that they
share. -/
inductive RuleGroup.Differs (e a : RuleGroup) : Difference → Prop
  | ruleCount : e.rules.length ≠ a.rules.length →
      Differs e a (.ruleCount e.rules.length a.rules.length)
  | text {field : Field} {d : Difference} : field.IsShared e a →
      Difference.Between field (e.text? field) (a.text? field) d → Differs e a d

namespace Difference

/-! ### What is listed -/

variable {field : Field} {d : Difference}

theorem mem_ofTexts_iff {expected actual : String} :
    d ∈ ofTexts field expected actual ↔ Between field (some expected) (some actual) d := by
  unfold ofTexts
  split
  · next heq =>
    subst heq
    refine ⟨nofun, fun h => ?_⟩
    exact absurd rfl (exists_between_iff.1 ⟨d, h⟩)
  · next hne =>
    rw [List.mem_singleton]
    constructor
    · rintro rfl
      exact .changed hne
    · exact fun h => h.unique (.changed hne)

theorem mem_ofCounts_iff {expected actual : Nat} :
    d ∈ ofCounts expected actual ↔ expected ≠ actual ∧ d = .ruleCount expected actual := by
  unfold ofCounts
  split <;> simp [*]

theorem mem_ofExpected_iff {expected : String} {actual : Option String} :
    d ∈ ofExpected field expected actual ↔ Between field (some expected) actual d := by
  cases actual with
  | some actual => exact mem_ofTexts_iff
  | none =>
    rw [ofExpected, List.mem_singleton]
    constructor
    · rintro rfl
      exact .missing expected
    · exact fun h => h.unique (.missing expected)

/-- Of two maps the keys of either are compared. -/
theorem mem_ofLabels_iff {field : String → Field} {expected actual : Labels} :
    d ∈ ofLabels field expected actual ↔
      ∃ key, Between (field key) (expected.get? key) (actual.get? key) d := by
  unfold ofLabels
  rw [List.mem_append, List.mem_flatMap, List.mem_map]
  constructor
  · rintro (⟨⟨key, want⟩, he, hd⟩ | ⟨⟨key, got⟩, ha, rfl⟩)
    · refine ⟨key, ?_⟩
      rw [Labels.get?_eq_some_iff.2 he]
      exact mem_ofExpected_iff.1 hd
    · obtain ⟨ha, hnone⟩ := List.mem_filter.1 ha
      refine ⟨key, ?_⟩
      rw [Option.isNone_iff_eq_none.1 hnone, Labels.get?_eq_some_iff.2 ha]
      exact .unexpected got
  · rintro ⟨key, h⟩
    cases hwant : expected.get? key with
    | some want =>
      rw [hwant] at h
      exact .inl ⟨(key, want), Labels.get?_eq_some_iff.1 hwant, mem_ofExpected_iff.2 h⟩
    | none =>
      cases hgot : actual.get? key with
      | none =>
        rw [hwant, hgot] at h
        cases h
      | some got =>
        rw [hwant, hgot] at h
        cases h
        refine .inr ⟨(key, got), List.mem_filter.2 ⟨Labels.get?_eq_some_iff.1 hgot, ?_⟩, rfl⟩
        exact Option.isNone_iff_eq_none.2 hwant

theorem mem_ofRules_iff {rule : Nat} {expected actual : Rule} :
    d ∈ ofRules rule expected actual ↔ ∃ field : Field, field.rule? = some rule ∧
      Between field (expected.text? field) (actual.text? field) d := by
  unfold ofRules
  simp only [List.mem_append, mem_ofTexts_iff, mem_ofLabels_iff]
  constructor
  · rintro ((((h | h) | h) | ⟨key, h⟩) | ⟨key, h⟩)
    · exact ⟨.alert rule, rfl, h⟩
    · exact ⟨.expr rule, rfl, h⟩
    · exact ⟨.pending rule, rfl, h⟩
    · exact ⟨.labelAt rule key, rfl, h⟩
    · exact ⟨.annotationAt rule key, rfl, h⟩
  · rintro ⟨field, hrule, h⟩
    cases field with
    | name => cases hrule
    | interval => cases hrule
    | alert => cases hrule; exact .inl (.inl (.inl (.inl h)))
    | expr => cases hrule; exact .inl (.inl (.inl (.inr h)))
    | pending => cases hrule; exact .inl (.inl (.inr h))
    | labelAt _ key => cases hrule; exact .inl (.inr ⟨key, h⟩)
    | annotationAt _ key => cases hrule; exact .inr ⟨key, h⟩

/-- Rules are compared in pairs, as far as there are two. -/
theorem mem_ofPairs_iff {start : Nat} {es as : List Rule} :
    d ∈ ofPairs start es as ↔
      ∃ i e a, es[i]? = some e ∧ as[i]? = some a ∧ d ∈ ofRules (start + i) e a := by
  induction es generalizing start as with
  | nil => simp [ofPairs]
  | cons e es ih =>
    cases as with
    | nil => simp [ofPairs]
    | cons a as =>
      rw [ofPairs, List.mem_append, ih]
      constructor
      · rintro (h | ⟨i, e', a', he, ha, h⟩)
        · exact ⟨0, e, a, rfl, rfl, h⟩
        · refine ⟨i + 1, e', a', he, ha, ?_⟩
          rwa [Nat.add_right_comm] at h
      · rintro ⟨i, e', a', he, ha, h⟩
        cases i with
        | zero =>
          cases he
          cases ha
          exact .inl h
        | succ i =>
          refine .inr ⟨i, e', a', he, ha, ?_⟩
          rwa [Nat.add_right_comm]

end Difference

/-- The entries of a comparison are those that say how the groups differ. -/
theorem RuleGroup.mem_differences_iff {e a : RuleGroup} {d : Difference} :
    d ∈ e.differences a ↔ e.Differs a d := by
  unfold RuleGroup.differences
  simp only [List.mem_append, Difference.mem_ofTexts_iff, Difference.mem_ofCounts_iff,
    Difference.mem_ofPairs_iff, Difference.mem_ofRules_iff, Nat.zero_add]
  constructor
  · rintro (((h | h) | ⟨hne, rfl⟩) | ⟨i, r, s, hr, hs, field, hrule, h⟩)
    · exact .text (Field.isShared_of_none rfl e a) h
    · exact .text (Field.isShared_of_none rfl e a) h
    · exact .ruleCount hne
    · have hshared : field.IsShared e a := by
        intro rule hmem
        obtain rfl : i = rule := Option.some.inj (hrule.symm.trans hmem)
        exact ⟨(List.getElem?_eq_some_iff.1 hr).1, (List.getElem?_eq_some_iff.1 hs).1⟩
      refine .text hshared ?_
      rwa [text?_of_rule hrule, text?_of_rule hrule, hr, hs]
  · rintro (hne | @⟨field, _, hshared, h⟩)
    · exact .inl (.inr ⟨hne, rfl⟩)
    · cases hrule : field.rule? with
      | some rule =>
        obtain ⟨he, ha⟩ := hshared rule hrule
        rw [text?_of_rule hrule, text?_of_rule hrule, List.getElem?_eq_getElem he,
          List.getElem?_eq_getElem ha] at h
        exact .inr ⟨rule, _, _, List.getElem?_eq_getElem he, List.getElem?_eq_getElem ha, field,
          hrule, h⟩
      | none =>
        cases field with
        | name => exact .inl (.inl (.inl h))
        | interval => exact .inl (.inl (.inr h))
        | _ => cases hrule

/-! ### Listed once -/

namespace Difference

/-- No two entries of the list are of the same place. -/
def PlacesApart (ds : List Difference) : Prop := ds.Pairwise fun d d' => d.place ≠ d'.place

variable {ds ds' : List Difference}

/-- Lists of entries of different places can be put one behind the other. -/
theorem PlacesApart.append (h : PlacesApart ds) (h' : PlacesApart ds')
    (hne : ∀ d ∈ ds, ∀ d' ∈ ds', d.place ≠ d'.place) : PlacesApart (ds ++ ds') :=
  List.pairwise_append.2 ⟨h, h', hne⟩

theorem placesApart_ofTexts (field : Field) (expected actual : String) :
    PlacesApart (ofTexts field expected actual) := by
  unfold ofTexts
  split
  · exact .nil
  · exact List.pairwise_singleton _ _

theorem placesApart_ofCounts (expected actual : Nat) :
    PlacesApart (ofCounts expected actual) := by
  unfold ofCounts
  split
  · exact .nil
  · exact List.pairwise_singleton _ _

theorem placesApart_ofExpected (field : Field) (expected : String) (actual : Option String) :
    PlacesApart (ofExpected field expected actual) := by
  cases actual with
  | none => exact List.pairwise_singleton _ _
  | some actual => exact placesApart_ofTexts field expected actual

/-- The expected keys are compared first, each once; then the other keys, each once. -/
theorem placesApart_ofLabels {field : String → Field} (hfield : Function.Injective field)
    (expected actual : Labels) : PlacesApart (ofLabels field expected actual) := by
  have hkeys : ∀ m : Labels, m.entries.Pairwise fun x y => some (field x.1) ≠ some (field y.1) := by
    intro m
    refine m.sorted.imp ?_
    intro x y hxy heq
    rw [hfield (Option.some.inj heq), Text.precedes_irrefl] at hxy
    cases hxy
  refine PlacesApart.append ?_ ?_ ?_
  · refine List.pairwise_flatMap.2 ⟨fun x _ => placesApart_ofExpected _ _ _, ?_⟩
    refine (hkeys expected).imp ?_
    intro x y hxy d hd d' hd'
    rw [(mem_ofExpected_iff.1 hd).place, (mem_ofExpected_iff.1 hd').place]
    exact hxy
  · exact List.pairwise_map.2 ((hkeys actual).filter _)
  · intro d hd d' hd'
    obtain ⟨x, hx, hd⟩ := List.mem_flatMap.1 hd
    obtain ⟨y, hy, rfl⟩ := List.mem_map.1 hd'
    -- a key that is not expected is none of the expected keys
    have hnone := Option.isNone_iff_eq_none.1 (List.mem_filter.1 hy).2
    rw [(mem_ofExpected_iff.1 hd).place]
    intro heq
    rw [← hfield (Option.some.inj heq), Labels.get?_eq_some_iff.2 hx] at hnone
    cases hnone

/-- A rule has five parts, and each part has places of its own. -/
theorem placesApart_ofRules (rule : Nat) (expected actual : Rule) :
    PlacesApart (ofRules rule expected actual) := by
  have htext : ∀ field x y, ∀ d ∈ ofTexts field x y, d.place = some field :=
    fun field x y d hd => (mem_ofTexts_iff.1 hd).place
  have hlabels : ∀ (field : String → Field) m n, ∀ d ∈ ofLabels field m n,
      ∃ key, d.place = some (field key) := by
    intro field m n d hd
    obtain ⟨key, h⟩ := mem_ofLabels_iff.1 hd
    exact ⟨key, h.place⟩
  have hlabelAt : Function.Injective (Field.labelAt rule) := fun _ _ h => (Field.labelAt.inj h).2
  have hannotationAt : Function.Injective (Field.annotationAt rule) :=
    fun _ _ h => (Field.annotationAt.inj h).2
  unfold ofRules
  refine PlacesApart.append (PlacesApart.append (PlacesApart.append (PlacesApart.append
    (placesApart_ofTexts _ _ _) (placesApart_ofTexts _ _ _) ?_) (placesApart_ofTexts _ _ _) ?_)
    (placesApart_ofLabels hlabelAt _ _) ?_) (placesApart_ofLabels hannotationAt _ _) ?_
  all_goals intro d hd d' hd'
  · rw [htext _ _ _ d hd, htext _ _ _ d' hd']
    simp
  · rw [htext _ _ _ d' hd']
    rcases List.mem_append.1 hd with hd | hd <;> rw [htext _ _ _ d hd] <;> simp
  · obtain ⟨key, hkey⟩ := hlabels _ _ _ d' hd'
    simp only [List.mem_append] at hd
    rw [hkey]
    rcases hd with (hd | hd) | hd <;> rw [htext _ _ _ d hd] <;> simp
  · obtain ⟨key, hkey⟩ := hlabels _ _ _ d' hd'
    simp only [List.mem_append] at hd
    rw [hkey]
    rcases hd with hd | hd
    · rcases hd with (hd | hd) | hd <;> rw [htext _ _ _ d hd] <;> simp
    · obtain ⟨other, hother⟩ := hlabels _ _ _ d hd
      rw [hother]
      simp

theorem exists_place_ofPairs {start : Nat} {es as : List Rule} {d : Difference}
    (h : d ∈ ofPairs start es as) :
    ∃ (field : Field) (i : Nat), d.place = some field ∧ field.rule? = some (start + i) := by
  obtain ⟨i, e, a, -, -, hd⟩ := mem_ofPairs_iff.1 h
  obtain ⟨field, hrule, hbetween⟩ := mem_ofRules_iff.1 hd
  exact ⟨field, i, hbetween.place, hrule⟩

/-- The pairs of rules from a place on have entries for the rules from that place on. -/
theorem placesApart_ofPairs (start : Nat) (es as : List Rule) :
    PlacesApart (ofPairs start es as) := by
  induction es generalizing start as with
  | nil => exact .nil
  | cons e es ih =>
    cases as with
    | nil => exact .nil
    | cons a as =>
      refine (placesApart_ofRules start e a).append (ih (start + 1) as) ?_
      intro d hd d' hd' heq
      obtain ⟨field, hrule, hbetween⟩ := mem_ofRules_iff.1 hd
      obtain ⟨field', i, hplace, hrule'⟩ := exists_place_ofPairs hd'
      rw [hbetween.place, hplace, Option.some.injEq] at heq
      rw [heq, hrule', Option.some.injEq] at hrule
      omega

end Difference

/-- No two entries of a comparison are of the same place. -/
theorem RuleGroup.placesApart_differences (e a : RuleGroup) :
    Difference.PlacesApart (e.differences a) := by
  have hrules : ∀ d ∈ Difference.ofPairs 0 e.rules a.rules, ∀ place : Option Field,
      place.bind Field.rule? = none → place ≠ d.place := by
    intro d hd place hnone heq
    obtain ⟨field, i, hplace, hrule⟩ := Difference.exists_place_ofPairs hd
    rw [heq, hplace, Option.bind_some, hrule] at hnone
    cases hnone
  unfold RuleGroup.differences
  refine ((Difference.PlacesApart.append (Difference.placesApart_ofTexts _ _ _)
    (Difference.placesApart_ofTexts _ _ _) ?_).append (Difference.placesApart_ofCounts _ _)
    ?_).append (Difference.placesApart_ofPairs _ _ _) ?_
  all_goals
    intro d hd d' hd'
    simp only [List.mem_append, Difference.mem_ofTexts_iff, Difference.mem_ofCounts_iff] at hd hd'
  · rw [hd.place, hd'.place]
    simp
  · rw [hd'.2]
    rcases hd with hd | hd <;> rw [hd.place] <;> exact nofun
  · refine hrules d' hd' _ ?_
    rcases hd with (hd | hd) | ⟨-, rfl⟩
    · rw [hd.place]
      rfl
    · rw [hd.place]
      rfl
    · rfl

/-! ### Both ways round -/

theorem Field.IsShared.symm {field : Field} {e a : RuleGroup} (h : field.IsShared e a) :
    field.IsShared a e :=
  fun rule hrule => (h rule hrule).symm

theorem RuleGroup.Differs.swap {e a : RuleGroup} {d : Difference} (h : e.Differs a d) :
    a.Differs e d.swap := by
  cases h with
  | ruleCount hne => exact .ruleCount hne.symm
  | text hshared hbetween => exact .text hshared.symm hbetween.swap

/-- The other way round a comparison has the same entries with their sides exchanged. -/
theorem RuleGroup.differences_swap (e a : RuleGroup) :
    (a.differences e).Perm ((e.differences a).map Difference.swap) := by
  have hnodup : ∀ e a : RuleGroup, (e.differences a).Nodup := fun e a =>
    (e.placesApart_differences a).imp fun hne heq => hne (congrArg Difference.place heq)
  have hinjective : Function.Injective Difference.swap :=
    Function.LeftInverse.injective Difference.swap_swap
  refine (List.perm_ext_iff_of_nodup (hnodup a e) ((hnodup e a).map hinjective)).2 fun d => ?_
  rw [mem_differences_iff, List.mem_map]
  constructor
  · exact fun h => ⟨d.swap, mem_differences_iff.2 h.swap, d.swap_swap⟩
  · rintro ⟨d, hd, rfl⟩
    exact (mem_differences_iff.1 hd).swap

/-! ### The comparison -/

/-- A place at which groups differ has an entry that says how, and no other place has one. -/
theorem RuleGroup.differsAt_iff {e a : RuleGroup} {place : Option Field} :
    e.DiffersAt a place ↔ ∃ d, e.Differs a d ∧ d.place = place := by
  cases place with
  | none =>
    constructor
    · exact fun hne => ⟨_, .ruleCount hne, rfl⟩
    · rintro ⟨d, h, hplace⟩
      cases h with
      | ruleCount hne => exact hne
      | text hshared hbetween =>
        rw [hbetween.place] at hplace
        cases hplace
  | some field =>
    constructor
    · rintro ⟨hshared, hne⟩
      obtain ⟨d, hbetween⟩ := Difference.exists_between_iff.2 hne
      exact ⟨d, .text hshared hbetween, hbetween.place⟩
    · rintro ⟨d, h, hplace⟩
      cases h with
      | ruleCount hne => cases hplace
      | text hshared hbetween =>
        rw [hbetween.place, Option.some.injEq] at hplace
        subst hplace
        exact ⟨hshared, Difference.exists_between_iff.1 ⟨d, hbetween⟩⟩

/-- A comparison of groups is exact.  The places of its entries are, each once, the places that
the groups share and at which they differ, and the number of rules if they differ in that; each
entry says what the two groups have there.  So there is none just in case the groups are the
same, and the comparison the other way round has as many. -/
theorem RuleGroup.differences_exact (e a : RuleGroup) :
    ((e.differences a).map Difference.place).Nodup ∧
    (∀ place, place ∈ (e.differences a).map Difference.place ↔ e.DiffersAt a place) ∧
    (∀ d, d ∈ e.differences a ↔ e.Differs a d) ∧
    (e.differences a = [] ↔ e = a) ∧
    (a.differences e).Perm ((e.differences a).map Difference.swap) ∧
    (a.differences e).length = (e.differences a).length := by
  have hswap := e.differences_swap a
  refine ⟨List.pairwise_map.2 (e.placesApart_differences a), fun place => ?_,
    fun d => mem_differences_iff, differences_eq_nil_iff, hswap, ?_⟩
  · rw [List.mem_map, differsAt_iff]
    simp only [mem_differences_iff]
  · rw [hswap.length_eq, List.length_map]

end AlertRules
