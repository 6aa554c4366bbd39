/-
AlertRules/Proofs/Rule/Normal.lean

The normal form of a group.  A group all of whose durations denote lengths has one
(`normalize_of_isTimed`), and two such groups have the same one exactly where they
agree: in every text, but for the spelling of their durations
(`normalForm_eq_iff_agrees`).  Every other group is refused for the first duration that
denotes no length (`normalize_eq_error_iff`).
-/
import Mathlib.Data.List.Forall2
import AlertRules.Proofs.Duration.Length
import AlertRules.Rule.Normal

namespace AlertRules

/-! ### The durations of a group -/

/-- The texts of a group that stand for durations, in the order in which they are read. -/
def RuleGroup.durations (g : RuleGroup) : List String := g.interval :: g.rules.map Rule.pending

/-- Every duration of the group is blank or can be read. -/
def RuleGroup.IsTimed (g : RuleGroup) : Prop :=
  ∀ value ∈ g.durations, ∃ d, Duration.length? value = some d

/-- The first text of a list that denotes no length, with what is wrong with it. -/
inductive FirstFault : List String → BadDuration → Prop
  | here {value : String} {cause : Duration.Error} {rest : List String} :
      Duration.length? value = none →
      Duration.parse (String.ofList (Text.trim value.toList)) = .error cause →
      FirstFault (value :: rest) ⟨value, cause⟩
  | later {value : String} {d : Duration} {rest : List String} {bad : BadDuration} :
      Duration.length? value = some d → FirstFault rest bad → FirstFault (value :: rest) bad

/-- Either all texts of a list denote lengths or there is a first that does not. -/
theorem firstFault_or_forall (values : List String) :
    (∃ bad, FirstFault values bad) ∨ ∀ value ∈ values, ∃ d, Duration.length? value = some d := by
  induction values with
  | nil => exact .inr (by simp)
  | cons value rest ih =>
    cases hl : Duration.length? value with
    | none =>
      obtain ⟨e, he, -⟩ := Duration.normalize_of_none hl
      exact .inl ⟨⟨value, e⟩, .here hl he⟩
    | some d =>
      rcases ih with ⟨bad, hbad⟩ | hall
      · exact .inl ⟨bad, .later hl hbad⟩
      · exact .inr (List.forall_mem_cons.2 ⟨⟨d, hl⟩, hall⟩)

/-! ### Agreement -/

/-- The rules differ at most in how the time for which they are pending is spelled. -/
structure Rule.Agrees (r s : Rule) : Prop where
  alert : r.alert = s.alert
  expr : r.expr = s.expr
  pending : Duration.length? r.pending = Duration.length? s.pending
  labels : r.labels = s.labels
  annotations : r.annotations = s.annotations

/-- The groups differ at most in how their durations are spelled. -/
structure RuleGroup.Agrees (g h : RuleGroup) : Prop where
  name : g.name = h.name
  interval : Duration.length? g.interval = Duration.length? h.interval
  rules : List.Forall₂ Rule.Agrees g.rules h.rules

/-- Groups that agree have equally many rules, so if one has a sole rule the other has. -/
theorem RuleGroup.agrees_and_sole_iff {g h : RuleGroup} :
    g.Agrees h ∧ h.rules.length = 1 ↔ ∃ rule other, g.rules = [rule] ∧ h.rules = [other] ∧
      g.name = h.name ∧ Duration.length? g.interval = Duration.length? h.interval ∧
      rule.Agrees other := by
  constructor
  · rintro ⟨⟨hname, hinterval, hrules⟩, hcount⟩
    obtain ⟨other, hother⟩ := List.length_eq_one_iff.1 hcount
    rw [hother] at hrules
    obtain ⟨rule, rest, hrule, hnil, hg⟩ := List.forall₂_cons_right_iff.1 hrules
    rw [List.forall₂_nil_right_iff.1 hnil] at hg
    exact ⟨rule, other, hg, hother, hname, hinterval, hrule⟩
  · rintro ⟨rule, other, hg, hh, hname, hinterval, hrule⟩
    refine ⟨⟨hname, hinterval, ?_⟩, ?_⟩
    · rw [hg, hh]
      exact .cons hrule .nil
    · rw [hh]
      rfl

/-! ### Normal forms -/

/-- The normal text of what a text denotes. -/
def normalText (value : String) : String :=
  ((Duration.length? value).map Duration.normalText).getD ""

def Rule.normalForm (r : Rule) : Rule := { r with pending := normalText r.pending }

def RuleGroup.normalForm (g : RuleGroup) : RuleGroup :=
  { g with interval := normalText g.interval, rules := g.rules.map Rule.normalForm }

theorem normalizeDuration_of_length? {value : String} {d : Duration}
    (h : Duration.length? value = some d) : normalizeDuration value = .ok (normalText value) := by
  rw [normalizeDuration, Duration.normalize_of_length? h, normalText, h]
  rfl

theorem normalText_eq_iff {value other : String} {d e : Duration}
    (hd : Duration.length? value = some d) (he : Duration.length? other = some e) :
    normalText value = normalText other ↔ Duration.length? value = Duration.length? other := by
  constructor
  · intro h
    simp only [normalText, hd, he, Option.map_some, Option.getD_some] at h
    rw [hd, he, Duration.normalText_injective h]
  · intro h
    rw [normalText, normalText, h]

theorem length?_normalText {value : String} {d : Duration} (h : Duration.length? value = some d) :
    Duration.length? (normalText value) = Duration.length? value := by
  rw [normalText, h]
  exact Duration.length?_normalText d

theorem Rule.normalize_of_length? {r : Rule} {d : Duration}
    (h : Duration.length? r.pending = some d) : r.normalize = .ok r.normalForm := by
  rw [Rule.normalize, normalizeDuration_of_length? h]
  rfl

theorem mapM_normalize_of_timed {rules : List Rule}
    (h : ∀ r ∈ rules, ∃ d, Duration.length? r.pending = some d) :
    rules.mapM Rule.normalize = .ok (rules.map Rule.normalForm) := by
  induction rules with
  | nil => rfl
  | cons r rs ih =>
    rw [List.forall_mem_cons] at h
    obtain ⟨⟨d, hd⟩, hrs⟩ := h
    rw [List.mapM_cons, Rule.normalize_of_length? hd, ih hrs]
    rfl

theorem RuleGroup.normalize_of_isTimed {g : RuleGroup} (h : g.IsTimed) :
    g.normalize = .ok g.normalForm := by
  have hall := List.forall_mem_cons.1 h
  obtain ⟨⟨d, hd⟩, hrules⟩ := hall
  have hmap : g.rules.mapM Rule.normalize = .ok (g.rules.map Rule.normalForm) :=
    mapM_normalize_of_timed fun r hr => hrules _ (List.mem_map_of_mem hr)
  rw [RuleGroup.normalize, normalizeDuration_of_length? hd, hmap]
  rfl

theorem Rule.normalForm_agrees {r : Rule} {d : Duration}
    (h : Duration.length? r.pending = some d) : r.normalForm.Agrees r :=
  ⟨rfl, rfl, length?_normalText h, rfl, rfl⟩

/-- Normalising changes nothing but the spelling of durations. -/
theorem RuleGroup.normalForm_agrees {g : RuleGroup} (h : g.IsTimed) : g.normalForm.Agrees g := by
  obtain ⟨⟨d, hd⟩, hrules⟩ := List.forall_mem_cons.1 h
  refine ⟨rfl, length?_normalText hd, ?_⟩
  apply List.forall₂_map_left_iff.2
  apply List.forall₂_same.2
  intro r hr
  obtain ⟨e, he⟩ := hrules _ (List.mem_map_of_mem hr)
  exact r.normalForm_agrees he

/-! ### Groups without a normal form -/

theorem normalizeDuration_of_fault {value : String} {cause : Duration.Error}
    (hl : Duration.length? value = none)
    (hp : Duration.parse (String.ofList (Text.trim value.toList)) = .error cause) :
    normalizeDuration value = .error ⟨value, cause⟩ := by
  rw [normalizeDuration, Duration.normalize_eq_error_iff.2 ⟨hl, hp⟩]
  rfl

theorem mapM_normalize_of_firstFault {rules : List Rule} {bad : BadDuration}
    (h : FirstFault (rules.map Rule.pending) bad) : rules.mapM Rule.normalize = .error bad := by
  induction rules with
  | nil => cases h
  | cons r rs ih =>
    rw [List.map_cons] at h
    rw [List.mapM_cons]
    cases h with
    | here hl hp =>
      rw [Rule.normalize, normalizeDuration_of_fault hl hp]
      rfl
    | later hd hrest =>
      rw [Rule.normalize_of_length? hd, ih hrest]
      rfl

theorem RuleGroup.normalize_of_firstFault {g : RuleGroup} {bad : BadDuration}
    (h : FirstFault g.durations bad) : g.normalize = .error bad := by
  rw [durations] at h
  rw [RuleGroup.normalize]
  cases h with
  | here hl hp =>
    rw [normalizeDuration_of_fault hl hp]
    rfl
  | later hd hrest =>
    rw [normalizeDuration_of_length? hd, mapM_normalize_of_firstFault hrest]
    rfl

/-- A group is refused for the first of its durations that denotes no length. -/
theorem RuleGroup.normalize_eq_error_iff {g : RuleGroup} {bad : BadDuration} :
    g.normalize = .error bad ↔ FirstFault g.durations bad := by
  constructor
  · intro h
    rcases firstFault_or_forall g.durations with ⟨bad', hbad⟩ | hall
    · -- there is one first fault, and it is the one that is reported
      rw [normalize_of_firstFault hbad] at h
      cases h
      exact hbad
    · rw [normalize_of_isTimed hall] at h
      cases h
  · exact normalize_of_firstFault

/-! ### Equality of normal forms -/

theorem Rule.normalForm_eq_iff_agrees {r s : Rule} {d e : Duration}
    (hr : Duration.length? r.pending = some d) (hs : Duration.length? s.pending = some e) :
    r.normalForm = s.normalForm ↔ r.Agrees s := by
  rw [Rule.ext_iff]
  simp only [Rule.normalForm, normalText_eq_iff hr hs]
  constructor
  · rintro ⟨halert, hexpr, hpending, hlabels, hannotations⟩
    exact ⟨halert, hexpr, hpending, hlabels, hannotations⟩
  · rintro ⟨halert, hexpr, hpending, hlabels, hannotations⟩
    exact ⟨halert, hexpr, hpending, hlabels, hannotations⟩

theorem map_normalForm_eq_iff {rules others : List Rule}
    (hr : ∀ r ∈ rules, ∃ d, Duration.length? r.pending = some d)
    (hs : ∀ s ∈ others, ∃ d, Duration.length? s.pending = some d) :
    rules.map Rule.normalForm = others.map Rule.normalForm ↔
      List.Forall₂ Rule.Agrees rules others := by
  induction rules generalizing others with
  | nil => cases others <;> simp
  | cons r rs ih =>
    cases others with
    | nil => simp
    | cons s ss =>
      rw [List.forall_mem_cons] at hr hs
      obtain ⟨d, hd⟩ := hr.1
      obtain ⟨e, he⟩ := hs.1
      rw [List.map_cons, List.map_cons, List.cons.injEq, List.forall₂_cons,
        Rule.normalForm_eq_iff_agrees hd he, ih hr.2 hs.2]

/-- Two groups have one normal form if they agree in all but spelling. -/
theorem RuleGroup.normalForm_eq_iff_agrees {g h : RuleGroup} (hg : g.IsTimed)
    (hh : h.IsTimed) : g.normalForm = h.normalForm ↔ g.Agrees h := by
  obtain ⟨⟨d, hd⟩, hgrules⟩ := List.forall_mem_cons.1 hg
  obtain ⟨⟨e, he⟩, hhrules⟩ := List.forall_mem_cons.1 hh
  have hrules : g.rules.map Rule.normalForm = h.rules.map Rule.normalForm ↔
      List.Forall₂ Rule.Agrees g.rules h.rules :=
    map_normalForm_eq_iff (fun r hr => hgrules _ (List.mem_map_of_mem hr))
      (fun s hs => hhrules _ (List.mem_map_of_mem hs))
  rw [RuleGroup.ext_iff]
  simp only [RuleGroup.normalForm, normalText_eq_iff hd he, hrules]
  constructor
  · rintro ⟨hname, hinterval, hall⟩
    exact ⟨hname, hinterval, hall⟩
  · rintro ⟨hname, hinterval, hall⟩
    exact ⟨hname, hinterval, hall⟩

end AlertRules
