/-
AlertRules/Proofs/CommandLine/DryRun.lean

A dry run is decided by the definition alone, but for the deadline.  A dry run sends no request: it
prints the group of its definition, or fails as building the group fails (`shown`).  Nothing else
about the command line or the surroundings makes a difference, with one exception: the time of the
deadline is worked out before anything is known about the kind of the run, so a deadline that the
clock cannot show stops a dry run as it stops any other (`plan_dryRun`).
-/
import AlertRules.CommandLine
import AlertRules.Proofs.CommandLine.Options

namespace AlertRules.CommandLine

/-- What a dry run of a definition comes to: its group is printed, or the error reported that
building it ends with. -/
def shown (d : Definition) : Outcome :=
  match d.group with
  | .ok g => ⟨0, g.write, ""⟩
  | .error e => ⟨1, "", (failed e).stderr⟩

theorem ofResult_group (d : Definition) : ofResult RuleGroup.write d.group = shown d := by
  unfold shown
  cases d.group <;> rfl

/-- A dry run does not end as one that is stopped by the clock. -/
theorem shown_ne_clockOverflow (d : Definition) : shown d ≠ clockOverflow := by
  intro h
  have hcode := congrArg Outcome.code h
  unfold shown at hcode
  cases hgroup : d.group with
  | ok g =>
    rw [hgroup] at hcode
    cases hcode
  | error e =>
    rw [hgroup] at hcode
    cases hcode

section DryRun

variable {w : Surroundings} {args : List String} {o : Options} {c : Client} {path template : String}

theorem baseUrl_of_client {s : Settings} (h : s.client = .ok c) :
    ∃ baseUrl, s.baseUrl = .ok baseUrl := by
  unfold Settings.client at h
  unfold Settings.baseUrl
  split at h
  · cases h
  · next hurl => exact ⟨_, if_neg hurl⟩

/-- A dry run for which everything is there sends no request. -/
theorem plan_of_dryRun (hparse : Options.parse w.fullEnvironment args = .ok o)
    (hdry : o.dryRun = true) (hclient : (Settings.ofEnvironment w.fullEnvironment).client = .ok c)
    (hpath : o.template = some path) (hread : w.fileText path = .ok template) :
    plan w args = .finished (if clockBound ≤ w.clock + o.deadline.toNat then clockOverflow
      else shown (o.definition template)) := by
  obtain ⟨baseUrl, hbaseUrl⟩ := baseUrl_of_client hclient
  have hdelete : o.delete = false := by
    have hboth := Options.not_both_of_parse hparse
    rwa [hdry, Bool.true_and] at hboth
  have hdefinition : definition w o = .ok (o.definition template) := by
    simp only [definition, hpath, hread]
  unfold plan
  simp only [hparse, hclient, hbaseUrl, planFor, hdelete, hdefinition, hdry, ofResult_group]
  split
  · rfl
  · rfl

/-- A dry run for which everything is there finishes without a request.  With every deadline that
the clock can show it comes to what the definition comes to, and with every other one it is
stopped by the clock. -/
theorem plan_dryRun (hparse : Options.parse w.fullEnvironment args = .ok o)
    (hdry : o.dryRun = true) (hclient : (Settings.ofEnvironment w.fullEnvironment).client = .ok c)
    (hpath : o.template = some path) (hread : w.fileText path = .ok template) :
    plan w args = .finished (if clockBound ≤ w.clock + o.deadline.toNat then clockOverflow
      else shown (o.definition template)) ∧
    (∀ deadline : UInt64, w.clock + deadline.toNat < clockBound →
      plan w { o with deadline }.arguments = .finished (shown (o.definition template))) ∧
    ∀ deadline : UInt64, clockBound ≤ w.clock + deadline.toNat →
      plan w { o with deadline }.arguments = .finished clockOverflow := by
  -- another deadline is still a command line that can be given
  have hevery (deadline : UInt64) : plan w { o with deadline }.arguments =
      .finished (if clockBound ≤ w.clock + deadline.toNat then clockOverflow
        else shown (o.definition template)) := by
    have hboth : (o.dryRun && o.delete) = false := Options.not_both_of_parse hparse
    exact plan_of_dryRun (o := { o with deadline }) (Options.parse_arguments _ hboth) hdry hclient
      hpath hread
  refine ⟨plan_of_dryRun hparse hdry hclient hpath hread, fun deadline h => ?_,
    fun deadline h => ?_⟩
  · rw [hevery, if_neg (Nat.not_le.2 h)]
  · rw [hevery, if_pos h]

end DryRun

/-- A program with one file, which holds a small template; the clock shows 100000 s. -/
def smallSurroundings : Surroundings :=
  ⟨fun _ => none, none, fun _ => .ok "alert: A\nexpr: up\n", 100000⟩

/-- A dry run of the small template with a deadline. -/
def smallDryRun (deadline : UInt64) : Options :=
  ⟨some "t.yml", default, "tenant-a", 60, none, none, false, true, false, deadline⟩

theorem client_small : (Settings.ofEnvironment smallSurroundings.fullEnvironment).client =
    .ok ⟨"alertsync", .standard⟩ := by cbv

/-- The small template is shown with a deadline of half a minute or of a century, but with the
longest that can be given there is only the report of the clock. -/
theorem plan_dryRun_small :
    plan smallSurroundings (smallDryRun 30).arguments = .finished ⟨0,
      "name: 00000000-0000-0000-0000-000000000000\ninterval: 1m0s\nrules:\n- alert: A\n  expr: up\n",
      ""⟩ ∧
    plan smallSurroundings (smallDryRun 3155760000).arguments =
      plan smallSurroundings (smallDryRun 30).arguments ∧
    plan smallSurroundings (smallDryRun 18446744073709551615).arguments = .finished ⟨101, "",
      "\nthread 'main' (3) panicked at " ++ additionPlace ++
        ":\noverflow when adding duration to instant\n" ++
        "note: run with `RUST_BACKTRACE=1` environment variable to display a backtrace\n"⟩ := by
  have hshown : shown ((smallDryRun 30).definition "alert: A\nexpr: up\n") = ⟨0,
      "name: 00000000-0000-0000-0000-000000000000\ninterval: 1m0s\nrules:\n- alert: A\n  expr: up\n",
      ""⟩ := by decide +kernel
  obtain ⟨hfirst, hshort, hlong⟩ := plan_dryRun (o := smallDryRun 30)
    (Options.parse_arguments smallSurroundings.fullEnvironment rfl) rfl client_small rfl rfl
  rw [if_neg (by decide)] at hfirst
  refine ⟨hfirst.trans (congrArg _ hshown), ?_, ?_⟩
  · exact (hshort 3155760000 (by decide)).trans hfirst.symm
  · refine (hlong 18446744073709551615 (by decide)).trans (congrArg Plan.finished ?_)
    decide +kernel

/-- Not every dry run shows its definition. -/
theorem not_always_shown : ¬ ∀ (w : Surroundings) (args : List String) (o : Options) (c : Client)
    (path template : String), Options.parse w.fullEnvironment args = .ok o → o.dryRun = true →
    (Settings.ofEnvironment w.fullEnvironment).client = .ok c → o.template = some path →
    w.fileText path = .ok template →
    plan w args = .finished (shown (o.definition template)) := by
  intro hall
  let o := smallDryRun 18446744073709551615
  have hparse : Options.parse smallSurroundings.fullEnvironment o.arguments = .ok o :=
    Options.parse_arguments _ rfl
  have hshown := hall smallSurroundings o.arguments o _ "t.yml" _ hparse rfl client_small rfl rfl
  rw [plan_of_dryRun hparse rfl client_small rfl rfl, if_pos (by decide)] at hshown
  exact shown_ne_clockOverflow _ (Plan.finished.inj hshown).symm

end AlertRules.CommandLine
