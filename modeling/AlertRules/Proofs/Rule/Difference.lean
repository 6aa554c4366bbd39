/-
AlertRules/Proofs/Rule/Difference.lean

The comparison of groups is exact: it lists no difference between two groups just in
case they are the same (`differences_eq_nil_iff`).  Each part of the comparison has a
lemma of its own that says when it lists nothing.
-/
import AlertRules.Proofs.Labels
import AlertRules.Rule.Difference

namespace AlertRules

namespace Difference

theorem ofTexts_eq_nil_iff {field : Field} {expected actual : String} :
    ofTexts field expected actual = [] ↔ expected = actual := by
  unfold ofTexts
  split <;> simp [*]

theorem ofCounts_eq_nil_iff {expected actual : Nat} :
    ofCounts expected actual = [] ↔ expected = actual := by
  unfold ofCounts
  split <;> simp [*]

theorem ofExpected_eq_nil_iff {field : Field} {expected : String} {actual : Option String} :
    ofExpected field expected actual = [] ↔ actual = some expected := by
  cases actual with
  | none => simp [ofExpected]
  | some actual =>
    rw [ofExpected, ofTexts_eq_nil_iff, Option.some.injEq]
    exact eq_comm

/-- Two maps of labels show no difference only if they are the same: every expected
entry is there, and no other key. -/
theorem ofLabels_eq_nil_iff {field : String → Field} {expected actual : Labels} :
    ofLabels field expected actual = [] ↔ expected = actual := by
  unfold ofLabels
  rw [List.append_eq_nil_iff, List.flatMap_eq_nil_iff, List.map_eq_nil_iff,
    List.filter_eq_nil_iff]
  constructor
  · rintro ⟨hexpected, hactual⟩
    refine Labels.ext_get? fun key => ?_
    cases he : expected.get? key with
    | some value =>
      have := hexpected _ (Labels.get?_eq_some_iff.1 he)
      exact (ofExpected_eq_nil_iff.1 this).symm
    | none =>
      cases ha : actual.get? key with
      | none => rfl
      | some value =>
        have := hactual _ (Labels.get?_eq_some_iff.1 ha)
        simp [he] at this
  · rintro rfl
    constructor
    · intro e he
      exact ofExpected_eq_nil_iff.2 (Labels.get?_eq_some_iff.2 he)
    · intro e he
      simp [Labels.get?_eq_some_iff.2 he]

theorem ofRules_eq_nil_iff {rule : Nat} {expected actual : Rule} :
    ofRules rule expected actual = [] ↔ expected = actual := by
  unfold ofRules
  simp only [List.append_eq_nil_iff, ofTexts_eq_nil_iff, ofLabels_eq_nil_iff]
  constructor
  · rintro ⟨⟨⟨⟨halert, hexpr⟩, hpending⟩, hlabels⟩, hannotations⟩
    exact Rule.ext halert hexpr hpending hlabels hannotations
  · rintro rfl
    exact ⟨⟨⟨⟨rfl, rfl⟩, rfl⟩, rfl⟩, rfl⟩

/-- Lists of rules of one length show no difference only if they are the same. -/
theorem ofPairs_eq_nil_iff {rule : Nat} {expected actual : List Rule}
    (hlength : expected.length = actual.length) :
    ofPairs rule expected actual = [] ↔ expected = actual := by
  induction expected generalizing rule actual with
  | nil =>
    cases actual with
    | nil => simp [ofPairs]
    | cons => cases hlength
  | cons e es ih =>
    cases actual with
    | nil => cases hlength
    | cons a as =>
      rw [ofPairs, List.append_eq_nil_iff, ofRules_eq_nil_iff, ih (Nat.succ.inj hlength)]
      simp

end Difference

theorem RuleGroup.differences_eq_nil_iff {expected actual : RuleGroup} :
    expected.differences actual = [] ↔ expected = actual := by
  unfold RuleGroup.differences
  simp only [List.append_eq_nil_iff, Difference.ofTexts_eq_nil_iff,
    Difference.ofCounts_eq_nil_iff]
  constructor
  · rintro ⟨⟨⟨hname, hinterval⟩, hlength⟩, hrules⟩
    exact RuleGroup.ext hname hinterval ((Difference.ofPairs_eq_nil_iff hlength).1 hrules)
  · rintro rfl
    exact ⟨⟨⟨rfl, rfl⟩, rfl⟩, (Difference.ofPairs_eq_nil_iff rfl).2 rfl⟩

end AlertRules
