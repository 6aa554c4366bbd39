/-
AlertRules/Proofs/Rule/Canonical.lean

The normal form of a group is canonical.  A group has one if all of its durations are blank or
can be read (`Duration.IsReadable`); then nothing changes but the texts of the durations, each of
which gives way to nothing where it stands for no time, and otherwise to the one canonical
spelling of the same length (`RuleGroup.NormalOf`).  Normal forms are their own normal forms, and
two groups have the same one if they agree in all but the spelling of durations.

Of a group that has none the first duration that is not readable is reported, as it is written
in the group.

What a group's normal form is, and when two are the same, is known from the lengths that the
texts denote; here it is said in terms of reading and writing durations
(`normalize_canonical`).
-/
import AlertRules.Proofs.Rule.Normal

namespace AlertRules

open Text

/-! ### Durations -/

namespace Duration

/-- The text is blank or a duration. -/
def IsReadable (value : String) : Prop :=
  isBlankText value = true ∨ ∃ d, parse value = .ok d

/-- The second text is the normal one for what the first stands for: nothing for a blank or a
zero, and otherwise a canonical spelling of the same length. -/
inductive NormalOf (value : String) : String → Prop
  | absent : isBlankText value = true ∨ parse value = .ok zero → NormalOf value ""
  | present {text : String} {d : Duration} : parse value = .ok d → d ≠ zero →
      parse text = .ok d → canonicalize text = .ok text → NormalOf value text

variable {value : String} {d : Duration}

theorem isReadable_iff : IsReadable value ↔ ∃ d, length? value = some d := by
  simp only [IsReadable, length?_eq_some_iff]
  constructor
  · rintro (hblank | ⟨d, hd⟩)
    · exact ⟨zero, .inl ⟨hblank, rfl⟩⟩
    · exact ⟨d, .inr hd⟩
  · rintro ⟨d, ⟨hblank, -⟩ | hd⟩
    · exact .inl hblank
    · exact .inr ⟨d, hd⟩

theorem normalOf_normalText (h : length? value = some d) : NormalOf value d.normalText := by
  rw [length?_eq_some_iff] at h
  unfold normalText
  by_cases hzero : d.nanos = 0
  · obtain rfl : d = zero := Duration.ext hzero
    rw [if_pos hzero]
    exact .absent (h.imp And.left id)
  · rw [if_neg hzero]
    have hne : d ≠ zero := fun heq => hzero (congrArg nanos heq)
    rcases h with ⟨-, heq⟩ | hparse
    · exact absurd heq hne
    · exact .present hparse hne (parse_render d) (canonicalize_render d)

end Duration

/-! ### Groups with a normal form -/

/-- The second rule is the first with the normal text for the time for which it is pending. -/
structure Rule.NormalOf (r n : Rule) : Prop where
  alert : n.alert = r.alert
  expr : n.expr = r.expr
  pending : Duration.NormalOf r.pending n.pending
  labels : n.labels = r.labels
  annotations : n.annotations = r.annotations

/-- The second group is the first with the normal texts for its durations; it has as many rules,
in the same order. -/
structure RuleGroup.NormalOf (g n : RuleGroup) : Prop where
  name : n.name = g.name
  interval : Duration.NormalOf g.interval n.interval
  rules : List.Forall₂ Rule.NormalOf g.rules n.rules

variable {g n : RuleGroup}

theorem normalOf_normalText {value : String} (hvalue : ∃ d, Duration.length? value = some d) :
    Duration.NormalOf value (normalText value) := by
  obtain ⟨d, hd⟩ := hvalue
  rw [normalText, hd]
  exact Duration.normalOf_normalText hd

namespace RuleGroup

theorem isTimed_iff : g.IsTimed ↔ ∀ value ∈ g.durations, Duration.IsReadable value := by
  simp only [IsTimed, Duration.isReadable_iff]

theorem normalize_eq_ok_iff : g.normalize = .ok n ↔ g.IsTimed ∧ n = g.normalForm := by
  constructor
  · intro hok
    rcases firstFault_or_forall g.durations with ⟨bad, hbad⟩ | htimed
    · rw [normalize_of_firstFault hbad] at hok
      cases hok
    · rw [normalize_of_isTimed htimed] at hok
      exact ⟨htimed, (Except.ok.inj hok).symm⟩
  · rintro ⟨htimed, rfl⟩
    exact normalize_of_isTimed htimed

theorem normalForm_normalOf (hg : g.IsTimed) : g.NormalOf g.normalForm := by
  obtain ⟨hinterval, hrules⟩ := List.forall_mem_cons.1 hg
  refine ⟨rfl, normalOf_normalText hinterval, ?_⟩
  apply List.forall₂_map_right_iff.2
  apply List.forall₂_same.2
  intro r hr
  exact ⟨rfl, rfl, normalOf_normalText (hrules _ (List.mem_map_of_mem hr)), rfl, rfl⟩

/-- The durations of a normal form are the normal texts of those of the group. -/
theorem durations_normalForm (g : RuleGroup) :
    g.normalForm.durations = g.durations.map normalText := by
  simp [durations, normalForm, Rule.normalForm]

theorem isTimed_normalForm (hg : g.IsTimed) : g.normalForm.IsTimed := by
  intro text htext
  rw [durations_normalForm] at htext
  obtain ⟨value, hvalue, rfl⟩ := List.mem_map.1 htext
  obtain ⟨d, hd⟩ := hg value hvalue
  exact ⟨d, (length?_normalText hd).trans hd⟩

/-- A normal form is in normal form. -/
theorem normalize_normalForm (hg : g.IsTimed) : g.normalForm.normalize = .ok g.normalForm := by
  have hn := isTimed_normalForm hg
  rw [normalize_of_isTimed hn]
  exact congrArg Except.ok ((normalForm_eq_iff_agrees hn hg).2 (normalForm_agrees hg))

end RuleGroup

/-! ### Groups without one -/

/-- The first of the texts that is no duration, with the texts before it. -/
theorem firstFault_iff {values : List String} {bad : BadDuration} :
    FirstFault values bad ↔ ∃ before rest, values = before ++ bad.value :: rest ∧
      (∀ value ∈ before, Duration.IsReadable value) ∧ ¬ Duration.IsReadable bad.value ∧
      Duration.parse (String.ofList (trim bad.value.toList)) = .error bad.cause := by
  simp only [Duration.isReadable_iff]
  constructor
  · intro hfirst
    induction hfirst with
    | @here value cause rest hnone hparse =>
      refine ⟨[], rest, rfl, nofun, ?_, hparse⟩
      rintro ⟨d, hd⟩
      rw [hnone] at hd
      cases hd
    | @later value d rest bad hd _ ih =>
      obtain ⟨before, rest', rfl, hbefore, hbad⟩ := ih
      exact ⟨value :: before, rest', rfl, List.forall_mem_cons.2 ⟨⟨d, hd⟩, hbefore⟩, hbad⟩
  · rintro ⟨before, rest, rfl, hbefore, hbad, hparse⟩
    induction before with
    | nil => exact .here (Option.eq_none_iff_forall_ne_some.2 fun d hd => hbad ⟨d, hd⟩) hparse
    | cons value before ih =>
      obtain ⟨⟨d, hd⟩, hmore⟩ := List.forall_mem_cons.1 hbefore
      exact .later hd (ih hmore)

/-! ### The normal form -/

namespace RuleGroup

/-- Normalising gives a canonical form.  It succeeds for the groups all of whose durations are
blank or can be read.  The result has the normal texts of the durations and is otherwise the same
group, and normalising does not change it again.  Two results are the same if the groups agree in
all else and their durations stand for the same lengths.  Otherwise the first duration that
cannot be read is reported, as it is written. -/
theorem normalize_canonical :
    (∀ g : RuleGroup, (∃ n, g.normalize = .ok n) ↔
      ∀ value ∈ g.durations, Duration.IsReadable value) ∧
    (∀ g n : RuleGroup, g.normalize = .ok n → g.NormalOf n ∧ n.normalize = .ok n) ∧
    (∀ g h n m : RuleGroup, g.normalize = .ok n → h.normalize = .ok m →
      (n = m ↔ g.Agrees h)) ∧
    ∀ (g : RuleGroup) (bad : BadDuration), g.normalize = .error bad ↔
      ∃ before rest, g.durations = before ++ bad.value :: rest ∧
        (∀ value ∈ before, Duration.IsReadable value) ∧ ¬ Duration.IsReadable bad.value ∧
        Duration.parse (String.ofList (trim bad.value.toList)) = .error bad.cause := by
  refine ⟨fun g => ?_, fun g n hn => ?_, fun g h n m hn hm => ?_, fun g bad => ?_⟩
  · simp only [normalize_eq_ok_iff, ← isTimed_iff]
    exact ⟨fun ⟨_, htimed, _⟩ => htimed, fun htimed => ⟨_, htimed, rfl⟩⟩
  · obtain ⟨htimed, rfl⟩ := normalize_eq_ok_iff.1 hn
    exact ⟨normalForm_normalOf htimed, normalize_normalForm htimed⟩
  · obtain ⟨hg, rfl⟩ := normalize_eq_ok_iff.1 hn
    obtain ⟨hh, rfl⟩ := normalize_eq_ok_iff.1 hm
    exact normalForm_eq_iff_agrees hg hh
  · rw [normalize_eq_error_iff, firstFault_iff]

/-- A minute and no time, each spelled in two ways. -/
theorem normalize_canonical_minute :
    let g : RuleGroup := ⟨"g", " 60s ", [{ alert := "A", expr := "up", pending := "0h" }]⟩
    let h : RuleGroup := ⟨"g", "1m", [{ alert := "A", expr := "up" }]⟩
    let n : RuleGroup := ⟨"g", "1m0s", [{ alert := "A", expr := "up" }]⟩
    g.normalize = .ok n ∧ h.normalize = .ok n ∧ g.NormalOf n ∧ n.normalize = .ok n ∧
      g.Agrees h := by
  intro g h n
  have hg : g.normalize = .ok n := by decide +kernel
  have hh : h.normalize = .ok n := by decide +kernel
  obtain ⟨-, hok, hsame, -⟩ := normalize_canonical
  exact ⟨hg, hh, (hok g n hg).1, (hok g n hg).2, (hsame g h n n hg hh).1 rfl⟩

end RuleGroup

end AlertRules
