/-
AlertRules/Proofs/CommandLine/Options.lean

Command lines for options.  `arguments` writes options as arguments, each value behind an equals
sign, and what is written is read back (`parse_arguments`): each argument sets its own option in
the draft and leaves the others alone.  So every identifier, every number of 64 bits and every
text can be given.  Only a dry run and a removal cannot be asked for together
(`not_both_of_parse`).
-/
import AlertRules.CommandLine.Options
import AlertRules.Proofs.Definition.Id
import AlertRules.Proofs.Outcome
import AlertRules.Proofs.Text.Decimal

namespace AlertRules.Options

open Text.Decimal

/-! ### Options with values -/

/-- The option with its value as one argument. -/
def valued (name value : String) : String := "--" ++ name ++ "=" ++ value

theorem ofString_valued {name : String} (hname : name.toList.all (· ≠ '=') = true)
    (value : String) :
    Argument.ofString (valued name value) = .long name (some value) := by
  have hlist : (valued name value).toList = '-' :: '-' :: (name.toList ++ '=' :: value.toList) := by
    simp [valued]
  have htake : (name.toList ++ '=' :: value.toList).takeWhile (· ≠ '=') = name.toList := by
    rw [List.takeWhile_append_of_pos (List.all_eq_true.1 hname)]
    simp
  have hdrop : (name.toList ++ '=' :: value.toList).dropWhile (· ≠ '=') = '=' :: value.toList := by
    rw [List.dropWhile_append_of_pos (List.all_eq_true.1 hname)]
    simp
  unfold Argument.ofString
  rw [hlist]
  split
  · next heq => simp at heq
  · next r _ heq =>
    cases heq
    simp only [htake, hdrop, String.ofList_toList]
  · next heq => simp at heq
  · next hshort _ heq =>
    cases heq
    exact (hshort _ rfl).elim
  · next hshort => exact (hshort _ rfl).elim

/-- Reading the arguments takes a draft to another, whatever arguments follow. -/
def Sets (d : Draft) (args : List String) (d' : Draft) : Prop :=
  ∀ rest, scan d (args ++ rest) = scan d' rest

variable {d d' d'' : Draft}

theorem Sets.nil : Sets d [] d := fun _ => rfl

theorem Sets.append {as bs : List String} (h : Sets d as d') (h' : Sets d' bs d'') :
    Sets d (as ++ bs) d'' := fun rest => by
  rw [List.append_assoc, h, h']

theorem sets_valued {name value : String} (hname : name.toList.all (· ≠ '=') = true)
    (h : d.setValue name value = some d') : Sets d [valued name value] d' := by
  intro rest
  rw [List.singleton_append, scan]
  simp only [ofString_valued hname, h]

theorem Sets.optional {α : Type} {v : Option α} {f : α → List String}
    (hsome : ∀ a, v = some a → Sets d (f a) d') (hnone : v = none → d' = d) :
    Sets d (v.elim [] f) d' := by
  cases v with
  | none =>
    rw [hnone rfl]
    exact .nil
  | some a => exact hsome a rfl

theorem Sets.when {b : Bool} {args : List String} (htrue : b = true → Sets d args d')
    (hfalse : b = false → d' = d) : Sets d (if b then args else []) d' := by
  cases b with
  | false =>
    rw [hfalse rfl]
    exact .nil
  | true => exact htrue rfl

theorem takeLong_flag {name : String} (hname : name ∉ "help" :: "version" :: valueNames)
    (h : d.setFlag name = some d') (rest : List String) :
    d.takeLong name rest = .ok (d', rest) := by
  simp only [List.mem_cons, not_or] at hname
  obtain ⟨hhelp, hversion, hvalue⟩ := hname
  unfold Draft.takeLong
  rw [if_neg hhelp, if_neg hversion, if_neg (by rwa [List.contains_iff_mem]), h]
  rfl

theorem sets_flag {name : String} (harg : Argument.ofString ("--" ++ name) = .long name none)
    (hname : name ∉ "help" :: "version" :: valueNames) (h : d.setFlag name = some d') :
    Sets d ["--" ++ name] d' := by
  intro rest
  have hset := takeLong_flag hname h rest
  rw [List.singleton_append, scan]
  simp only [harg]
  -- the scan keeps the equation of what is taken, which does not let it be rewritten
  split
  · next htake =>
    cases hset.symm.trans htake
    rfl
  · next htake => cases hset.symm.trans htake

/-! ### Command lines -/

/-- The command line that asks for the options. -/
def arguments (o : Options) : List String :=
  o.template.elim [] (fun path => [valued "template" path]) ++ [valued "id" o.id.render] ++
  [valued "tenant" o.tenant] ++ [valued "interval" (text o.interval.toNat)] ++
  o.threshold.elim [] (fun n => [valued "threshold" (intText n.toInt)]) ++
  o.duration.elim [] (fun n => [valued "duration" (text n.toNat)]) ++
  [valued "deadline-secs" (text o.deadline.toNat)] ++
  (if o.disabled then ["--" ++ "disabled"] else []) ++
  (if o.dryRun then ["--" ++ "dry-run"] else []) ++ (if o.delete then ["--" ++ "delete"] else [])

/-- The draft in which everything is set as in the options. -/
def draft (o : Options) : Draft :=
  ⟨o.template, o.id, o.tenant, o.interval, o.threshold, o.duration, o.deadline, o.disabled,
    o.dryRun, o.delete⟩

section Setters

/-- An option that has no value yet takes what it can read. -/
theorem map_fresh {α β : Type} {old new : Option α} {a : α} (hold : old = none)
    (hnew : new = some a) (f : Option α → β) : (fresh old new).map f = some (f (some a)) := by
  rw [hold, hnew]
  rfl

theorem sets_template (h : d.template = none) (v : Option String) :
    Sets d (v.elim [] fun path => [valued "template" path]) { d with template := v } := by
  refine .optional (fun path hv => sets_valued rfl ?_) (fun hv => by rw [hv, ← h])
  rw [hv]
  exact map_fresh h rfl _

theorem sets_id (h : d.id = none) (id : DefinitionId) :
    Sets d [valued "id" id.render] { d with id := some id } :=
  sets_valued rfl (map_fresh h (DefinitionId.parse?_render id) _)

theorem sets_tenant (h : d.tenant = none) (tenant : String) :
    Sets d [valued "tenant" tenant] { d with tenant := some tenant } :=
  sets_valued rfl (map_fresh h rfl _)

theorem sets_interval (h : d.interval = none) (n : UInt64) :
    Sets d [valued "interval" (text n.toNat)] { d with interval := some n } :=
  sets_valued rfl (map_fresh h (readUInt64?_text n) _)

theorem sets_threshold (h : d.threshold = none) (v : Option Int64) :
    Sets d (v.elim [] fun n => [valued "threshold" (intText n.toInt)])
      { d with threshold := v } := by
  refine .optional (fun n hv => sets_valued rfl ?_) (fun hv => by rw [hv, ← h])
  rw [hv]
  exact map_fresh h (readInt64?_intText n) _

theorem sets_duration (h : d.duration = none) (v : Option UInt64) :
    Sets d (v.elim [] fun n => [valued "duration" (text n.toNat)]) { d with duration := v } := by
  refine .optional (fun n hv => sets_valued rfl ?_) (fun hv => by rw [hv, ← h])
  rw [hv]
  exact map_fresh h (readUInt64?_text n) _

theorem sets_deadline (h : d.deadline = none) (n : UInt64) :
    Sets d [valued "deadline-secs" (text n.toNat)] { d with deadline := some n } :=
  sets_valued rfl (map_fresh h (readUInt64?_text n) _)

theorem sets_disabled (h : d.disabled = false) (b : Bool) :
    Sets d (if b then ["--" ++ "disabled"] else []) { d with disabled := b } := by
  refine .when (fun hb => sets_flag rfl (by decide) ?_) (fun hb => by rw [hb, ← h])
  rw [hb]
  exact if_neg (Bool.eq_false_iff.1 h)

theorem sets_dryRun (h : d.dryRun = false) (b : Bool) :
    Sets d (if b then ["--" ++ "dry-run"] else []) { d with dryRun := b } := by
  refine .when (fun hb => sets_flag rfl (by decide) ?_) (fun hb => by rw [hb, ← h])
  rw [hb]
  exact if_neg (Bool.eq_false_iff.1 h)

theorem sets_delete (h : d.delete = false) (b : Bool) :
    Sets d (if b then ["--" ++ "delete"] else []) { d with delete := b } := by
  refine .when (fun hb => sets_flag rfl (by decide) ?_) (fun hb => by rw [hb, ← h])
  rw [hb]
  exact if_neg (Bool.eq_false_iff.1 h)

end Setters

theorem sets_arguments (o : Options) : Sets .empty o.arguments o.draft :=
  (sets_template rfl o.template).append (sets_id rfl o.id) |>.append (sets_tenant rfl o.tenant)
    |>.append (sets_interval rfl o.interval) |>.append (sets_threshold rfl o.threshold)
    |>.append (sets_duration rfl o.duration) |>.append (sets_deadline rfl o.deadline)
    |>.append (sets_disabled rfl o.disabled) |>.append (sets_dryRun rfl o.dryRun)
    |>.append (sets_delete rfl o.delete)

/-- What is asked for by the command line of options are these options. -/
theorem parse_arguments (env : Environment) {o : Options} (h : (o.dryRun && o.delete) = false) :
    parse env o.arguments = .ok o := by
  have hscan : scan .empty o.arguments = .ok o.draft := by
    have hsets := o.sets_arguments []
    rwa [List.append_nil, scan] at hsets
  rw [parse, hscan]
  show orUsage (ofDraft? env o.draft) = .ok o
  simp [ofDraft?, draft, h, orUsage]

theorem not_both_of_ofDraft? {env : Environment} {d : Draft} {o : Options}
    (h : ofDraft? env d = some o) : (o.dryRun && o.delete) = false := by
  simp only [ofDraft?, Option.bind_eq_bind, Option.bind_eq_some_iff] at h
  obtain ⟨id, -, tenant, -, h⟩ := h
  -- wherever the deadline comes from, the two flags are looked at last
  split at h
  all_goals
    simp only [Option.bind_eq_some_iff] at h
    obtain ⟨deadline, -, h⟩ := h
    split at h
    · cases h
    · next hboth =>
      cases h
      exact Bool.eq_false_iff.2 hboth

/-- No command line asks for both a dry run and a removal. -/
theorem not_both_of_parse {env : Environment} {args : List String} {o : Options}
    (h : parse env args = .ok o) : (o.dryRun && o.delete) = false := by
  obtain ⟨d, -, hdraft⟩ : ∃ d, scan .empty args = .ok d ∧ orUsage (ofDraft? env d) = .ok o :=
    Outcome.bind_eq_ok_iff.1 h
  cases hoptions : ofDraft? env d with
  | none =>
    rw [hoptions] at hdraft
    cases hdraft
  | some o' =>
    rw [hoptions] at hdraft
    cases hdraft
    exact not_both_of_ofDraft? hoptions

end AlertRules.Options
