/-
AlertRules/Proofs/Settings/Profile.lean

Settings by profile.  Each setting is decided by the first of at most two variables that is set,
the one that begins with the profile and the plain one, and by its default if neither is
(`DecidedBy`).  A text for the time-out that is no number of 64 bits gives way to the default, not
to the plain variable (`IsTimeout`).  What is decided is unique, so settings that are decided alike
are the same; with that, the twelve variables of a profile are all that its settings depend on,
whatever else there is in the environment (`ofProfile_congr`).

An address is taken without the slashes at its end.  One with nothing else is left empty, which is
the only way to an address that cannot be used (`baseUrl_cases`).
-/
import AlertRules.Proofs.Text.Decimal
import AlertRules.Proofs.Text.Trim
import AlertRules.Proofs.Text.UpperCase
import AlertRules.Settings

namespace AlertRules

/-! ### The first variable that is set -/

/-- The value of a variable, empty where it is missing. -/
def Environment.value (env : Environment) (name : String) : String := (env name).getD ""

/-- The text is the value of the first of the variables that is not empty. -/
inductive FirstSet (env : Environment) : List String → String → Prop
  | here {name : String} {names : List String} :
      env.value name ≠ "" → FirstSet env (name :: names) (env.value name)
  | later {name text : String} {names : List String} :
      env.value name = "" → FirstSet env names text → FirstSet env (name :: names) text

/-- What is read from the first of the variables that is not empty, or the default if all are. -/
inductive Decides {α : Type} (env : Environment) (names : List String) (read : String → α)
    (default : α) : α → Prop
  | set {text : String} : FirstSet env names text → Decides env names read default (read text)
  | unset : (∀ name ∈ names, env.value name = "") → Decides env names read default default

section Variables

variable {α : Type} {env env' : Environment} {names : List String} {read : String → α} {default : α}

theorem FirstSet.unique {text text' : String} (h : FirstSet env names text)
    (h' : FirstSet env names text') : text = text' := by
  induction h with
  | here hset =>
    cases h' with
    | here => rfl
    | later hunset => exact absurd hunset hset
  | later hunset _ ih =>
    cases h' with
    | here hset => exact absurd hunset hset
    | later _ hlater => exact ih hlater

theorem FirstSet.exists_set {text : String} (h : FirstSet env names text) :
    ∃ name ∈ names, env.value name ≠ "" := by
  induction h with
  | here hset => exact ⟨_, List.mem_cons_self, hset⟩
  | later _ _ ih =>
    obtain ⟨name, hname, hset⟩ := ih
    exact ⟨name, List.mem_cons_of_mem _ hname, hset⟩

theorem Decides.unique {a a' : α} (h : Decides env names read default a)
    (h' : Decides env names read default a') : a = a' := by
  cases h with
  | set hfirst =>
    cases h' with
    | set hfirst' => rw [hfirst.unique hfirst']
    | unset hunset =>
      obtain ⟨name, hname, hset⟩ := hfirst.exists_set
      exact absurd (hunset name hname) hset
  | unset hunset =>
    cases h' with
    | set hfirst' =>
      obtain ⟨name, hname, hset⟩ := hfirst'.exists_set
      exact absurd (hunset name hname) hset
    | unset => rfl

theorem FirstSet.congr {text : String} (h : FirstSet env names text)
    (hsame : ∀ name ∈ names, env.value name = env'.value name) : FirstSet env' names text := by
  induction h with
  | here hset =>
    rw [hsame _ List.mem_cons_self] at hset ⊢
    exact .here hset
  | later hunset _ ih =>
    rw [List.forall_mem_cons] at hsame
    exact .later (hsame.1 ▸ hunset) (ih hsame.2)

theorem Decides.later {name : String} {a : α} (hunset : env.value name = "")
    (h : Decides env names read default a) : Decides env (name :: names) read default a := by
  cases h with
  | set hfirst => exact .set (.later hunset hfirst)
  | unset hnames => exact .unset (List.forall_mem_cons.2 ⟨hunset, hnames⟩)

/-- What is decided depends on the variables only. -/
theorem Decides.congr {a : α} (h : Decides env names read default a)
    (hsame : ∀ name ∈ names, env.value name = env'.value name) :
    Decides env' names read default a := by
  cases h with
  | set hfirst => exact .set (hfirst.congr hsame)
  | unset hunset => exact .unset fun name hname => hsame name hname ▸ hunset name hname

end Variables

namespace Settings

/-! ### The variables of a profile -/

/-- The variables for a key in a profile: the one that begins with the profile, unless that has no
name, and the plain one. -/
def keyNames (profile key : String) : List String :=
  if profile = "" then [key] else [profile ++ "_" ++ key, key]

def keys : List String :=
  ["RULER_URL", "RULER_NAMESPACE", "RULER_TIMEOUT_SECS", "RULER_TLS_INSECURE",
    "RULER_RESERVED_TENANT", "RULER_BACKEND_TENANT"]

/-- All variables of a profile. -/
def variableNames (profile : String) : List String := keys.flatMap (keyNames profile)

theorem length_variableNames_le (profile : String) : (variableNames profile).length ≤ 12 := by
  unfold variableNames keyNames
  split
  · decide
  · exact Nat.le_refl 12

theorem mem_variableNames {profile key name : String} (hkey : key ∈ keys)
    (h : name ∈ keyNames profile key) : name ∈ variableNames profile :=
  List.mem_flatMap.2 ⟨key, hkey, h⟩

section Reading

variable {α : Type} {env : Environment} {profile key : String}

theorem nonEmpty?_eq (env : Environment) (name : String) :
    nonEmpty? env name = if env.value name = "" then none else some (env.value name) := by
  unfold nonEmpty? Environment.value
  cases env name with
  | none => rfl
  | some text => by_cases htext : text = "" <;> simp [htext]

/-- What is read from the value of a key in a profile. -/
theorem decides_profiled? (env : Environment) (profile key : String) (read : String → α)
    (default : α) : Decides env (keyNames profile key) read default
      (((profiled? env profile key).map read).getD default) := by
  have hplain : Decides env [key] read default (((nonEmpty? env key).map read).getD default) := by
    rw [nonEmpty?_eq]
    split
    · next hunset => exact .unset (List.forall_mem_singleton.2 hunset)
    · next hset => exact .set (.here hset)
  unfold profiled? keyNames
  split
  · exact hplain
  · rw [nonEmpty?_eq env (profile ++ "_" ++ key)]
    split
    · next hunset => exact hplain.later hunset
    · next hset => exact .set (.here hset)

end Reading

/-! ### Slashes at the end -/

/-- The second text is the first without the slashes at its end. -/
def WithoutSlashes (text url : String) : Prop :=
  (∃ n, text.toList = url.toList ++ List.replicate n '/') ∧ url.toList.getLast? ≠ some '/'

theorem withoutSlashes_iff {text url : String} :
    WithoutSlashes text url ↔ url = trimSlashes text := by
  constructor
  · rintro ⟨⟨n, hn⟩, hlast⟩
    have hstrip := Text.stripEnd_append_replicate hlast n
    rw [← hn] at hstrip
    exact String.toList_inj.1 (hstrip.symm.trans String.toList_ofList.symm)
  · rintro rfl
    have htrim : (trimSlashes text).toList = Text.stripEnd '/' text.toList := String.toList_ofList
    rw [WithoutSlashes, htrim]
    exact ⟨Text.exists_stripEnd_append '/' _, Text.getLast?_stripEnd '/' _⟩

/-! ### Time-outs -/

/-- The time-out for what is chosen for it, if anything is: the number that the text is, and ten
seconds if it is none. -/
inductive IsTimeout : Option String → UInt64 → Prop
  | number {text : String} {n : UInt64} : Text.Decimal.IsUInt64 text n → IsTimeout (some text) n
  | other {text : String} : (∀ n, ¬ Text.Decimal.IsUInt64 text n) → IsTimeout (some text) 10
  | unset : IsTimeout none 10

theorem isTimeout_iff {chosen : Option String} {n : UInt64} :
    IsTimeout chosen n ↔ n = (chosen.bind Text.Decimal.readUInt64?).getD 10 := by
  constructor
  · intro h
    cases h with
    | number h => rw [Option.bind_some, Text.Decimal.readUInt64?_eq_some_iff.2 h, Option.getD_some]
    | other h => rw [Option.bind_some, Text.Decimal.readUInt64?_eq_none_iff.2 h, Option.getD_none]
    | unset => rfl
  · rintro rfl
    cases chosen with
    | none => exact .unset
    | some text =>
      rw [Option.bind_some]
      cases hread : Text.Decimal.readUInt64? text with
      | none => exact .other (Text.Decimal.readUInt64?_eq_none_iff.1 hread)
      | some n => exact .number (Text.Decimal.readUInt64?_eq_some_iff.1 hread)

theorem IsTimeout.unique {chosen : Option String} {n n' : UInt64} (h : IsTimeout chosen n)
    (h' : IsTimeout chosen n') : n = n' := (isTimeout_iff.1 h).trans (isTimeout_iff.1 h').symm

/-! ### What is decided -/

/-- The letters of ASCII in lower case. -/
def lowered (text : String) : String := String.ofList (text.toList.map Char.toLower)

/-- The settings are those that the variables of a profile, in upper case, decide. -/
structure DecidedBy (env : Environment) (profile : String) (s : Settings) : Prop where
  name : s.profile = profile
  url : ∃ text, Decides env (keyNames profile "RULER_URL") id "http://localhost:9009" text ∧
    WithoutSlashes text s.ruler.url
  nameSpace : Decides env (keyNames profile "RULER_NAMESPACE") id "alertsync" s.ruler.nameSpace
  timeout : ∃ chosen, Decides env (keyNames profile "RULER_TIMEOUT_SECS") some none chosen ∧
    IsTimeout chosen s.ruler.timeout
  insecure : Decides env (keyNames profile "RULER_TLS_INSECURE")
    (fun text => decide (lowered text ∈ ["1", "true", "yes"])) false s.ruler.insecure
  reserved : Decides env (keyNames profile "RULER_RESERVED_TENANT") id "system" s.tenancy.reserved
  backend : Decides env (keyNames profile "RULER_BACKEND_TENANT") id "fake" s.tenancy.backend

section Profile

variable {env env' : Environment} {profile : String} {s t : Settings}

theorem decides_text (env : Environment) (profile key default : String) :
    Decides env (keyNames profile key) id default ((profiled? env profile key).getD default) := by
  have h := decides_profiled? env profile key id default
  rwa [Option.map_id_fun, id] at h

theorem isYes_eq (text : String) : isYes text = decide (lowered text ∈ ["1", "true", "yes"]) :=
  List.contains_eq_mem _ _

/-- What is chosen for a key, if anything is. -/
theorem decides_chosen (env : Environment) (profile key : String) :
    Decides env (keyNames profile key) some none (profiled? env profile key) := by
  have h := decides_profiled? env profile key some none
  cases hvalue : profiled? env profile key with
  | none =>
    rw [hvalue] at h
    exact h
  | some text =>
    rw [hvalue] at h
    exact h

theorem decidedBy_ofProfile (env : Environment) (profile : String) :
    (ofProfile env profile).DecidedBy env (Text.upperCase profile) where
  name := rfl
  url := ⟨_, decides_text env _ _ _, withoutSlashes_iff.2 (by rfl)⟩
  nameSpace := decides_text env _ _ _
  timeout := ⟨_, decides_chosen env _ _, isTimeout_iff.2 (by rfl)⟩
  insecure := by
    rw [← funext isYes_eq]
    exact decides_profiled? env _ _ isYes false
  reserved := decides_text env _ _ _
  backend := decides_text env _ _ _

/-- No two settings are decided by the same variables. -/
theorem DecidedBy.unique (h : s.DecidedBy env profile) (h' : t.DecidedBy env profile) : s = t := by
  -- the url and the time-out are decided through what is chosen for them, the rest directly
  obtain ⟨text, htext, hurl⟩ := h.url
  obtain ⟨text', htext', hurl'⟩ := h'.url
  obtain rfl := htext.unique htext'
  obtain ⟨chosen, hchosen, htimeout⟩ := h.timeout
  obtain ⟨chosen', hchosen', htimeout'⟩ := h'.timeout
  obtain rfl := hchosen.unique hchosen'
  rw [withoutSlashes_iff] at hurl hurl'
  obtain ⟨_, ⟨_, _, _, _⟩, _, _⟩ := s
  obtain ⟨_, ⟨_, _, _, _⟩, _, _⟩ := t
  simp only [mk.injEq, RulerSettings.mk.injEq, Tenancy.mk.injEq]
  exact ⟨h.name.trans h'.name.symm, ⟨hurl.trans hurl'.symm, h.nameSpace.unique h'.nameSpace,
    htimeout.unique htimeout', h.insecure.unique h'.insecure⟩,
    h.reserved.unique h'.reserved, h.backend.unique h'.backend⟩

/-- The time-out is read from the first of its variables that is set. -/
theorem DecidedBy.timeout_eq (h : s.DecidedBy env profile) (text : String) {n : UInt64}
    (hfirst : FirstSet env (keyNames profile "RULER_TIMEOUT_SECS") text)
    (hn : IsTimeout (some text) n) : s.ruler.timeout = n := by
  obtain ⟨chosen, hchosen, htimeout⟩ := h.timeout
  obtain rfl := hchosen.unique (.set hfirst)
  exact htimeout.unique hn

theorem DecidedBy.congr (h : s.DecidedBy env profile)
    (hsame : ∀ name ∈ variableNames profile, env.value name = env'.value name) :
    s.DecidedBy env' profile := by
  have hkey : ∀ key ∈ keys, ∀ name ∈ keyNames profile key, env.value name = env'.value name :=
    fun key hkey name hname => hsame name (mem_variableNames hkey hname)
  obtain ⟨text, htext, hurl⟩ := h.url
  obtain ⟨chosen, hchosen, htimeout⟩ := h.timeout
  refine ⟨h.name, ⟨text, htext.congr (hkey _ ?_), hurl⟩, h.nameSpace.congr (hkey _ ?_),
    ⟨chosen, hchosen.congr (hkey _ ?_), htimeout⟩, h.insecure.congr (hkey _ ?_),
    h.reserved.congr (hkey _ ?_), h.backend.congr (hkey _ ?_)⟩
  all_goals decide

/-- Environments in which the variables of a profile have the same values give it the same
settings. -/
theorem ofProfile_congr (hsame : ∀ name ∈ variableNames (Text.upperCase profile),
    env.value name = env'.value name) : ofProfile env profile = ofProfile env' profile :=
  ((decidedBy_ofProfile env profile).congr hsame).unique (decidedBy_ofProfile env' profile)

theorem ofEnvironment_eq (env : Environment) :
    ofEnvironment env = ofProfile env (env.value "ALERTSYNC_PROFILE") := by
  unfold ofEnvironment ofProfile
  rw [Text.upperCase_upperCase]
  rfl

end Profile

/-! ### Addresses -/

section Address

variable {text : String} {s : Settings}

/-- Nothing is left of a text without its slashes just if it has nothing else. -/
theorem eq_empty_iff {url : String} (h : WithoutSlashes text url) :
    url = "" ↔ ∀ c ∈ text.toList, c = '/' := by
  obtain ⟨⟨n, hn⟩, hlast⟩ := h
  rw [hn]
  constructor
  · rintro rfl c hc
    rw [show "".toList = [] from rfl, List.nil_append] at hc
    exact List.eq_of_mem_replicate hc
  · intro hall
    rw [← String.toList_eq_nil_iff]
    by_contra hne
    apply hlast
    rw [List.getLast?_eq_some_getLast hne]
    exact congrArg some (hall _ (List.mem_append_left _ (List.getLast_mem hne)))

/-- The address of settings is their url; there is none just if nothing is left of it. -/
theorem baseUrl_cases (h : WithoutSlashes text s.ruler.url) :
    ((∃ message, s.baseUrl = .error (.configuration message)) ↔ ∀ c ∈ text.toList, c = '/') ∧
    ((∃ c ∈ text.toList, c ≠ '/') → s.baseUrl = .ok s.ruler.url) := by
  have hempty := eq_empty_iff h
  unfold baseUrl
  by_cases hurl : s.ruler.url = ""
  · rw [if_pos hurl]
    refine ⟨⟨fun _ => hempty.1 hurl, fun _ => ⟨_, rfl⟩⟩, ?_⟩
    rintro ⟨c, hc, hne⟩
    exact absurd (hempty.1 hurl c hc) hne
  · rw [if_neg hurl]
    -- the url has no slash at its end any more, so it is taken as it is
    have htrimmed : WithoutSlashes s.ruler.url s.ruler.url := ⟨⟨0, by simp⟩, h.2⟩
    refine ⟨⟨?_, fun hall => absurd (hempty.2 hall) hurl⟩, fun _ => ?_⟩
    · rintro ⟨_, herror⟩
      cases herror
    · rw [← withoutSlashes_iff.1 htrimmed]

end Address

/-! ### Settings of a profile -/

/-- The settings of a profile are the only ones that its variables decide; there are at most
twelve of them, and whatever else an environment contains makes no difference.  The settings of an
environment are those of the profile that it names.  Their address can be used unless what is
chosen for it has nothing but slashes, and is their url then. -/
theorem settings_decided (env : Environment) (profile : String) :
    (∀ s : Settings, s.DecidedBy env (Text.upperCase profile) ↔ s = ofProfile env profile) ∧
    (variableNames (Text.upperCase profile)).length ≤ 12 ∧
    (∀ env' : Environment, (∀ name ∈ variableNames (Text.upperCase profile),
      env.value name = env'.value name) → ofProfile env profile = ofProfile env' profile) ∧
    ofEnvironment env = ofProfile env (env.value "ALERTSYNC_PROFILE") ∧
    ∀ text, Decides env (keyNames (Text.upperCase profile) "RULER_URL") id "http://localhost:9009"
      text →
      ((∃ message, (ofProfile env profile).baseUrl = .error (.configuration message)) ↔
        ∀ c ∈ text.toList, c = '/') ∧
      ((∃ c ∈ text.toList, c ≠ '/') →
        (ofProfile env profile).baseUrl = .ok (ofProfile env profile).ruler.url) := by
  have hdecided := decidedBy_ofProfile env profile
  refine ⟨fun s => ⟨fun h => h.unique hdecided, ?_⟩, length_variableNames_le _,
    fun env' => ofProfile_congr, ofEnvironment_eq env, fun text htext => ?_⟩
  · rintro rfl
    exact hdecided
  · obtain ⟨text', htext', hurl⟩ := hdecided.url
    obtain rfl := htext.unique htext'
    exact baseUrl_cases hurl

/-- The environment with these variables. -/
def listed (es : List (String × String)) : Environment := fun name => es.lookup name

/-- One profile in two environments, where another profile has a variable in the one and an empty
variable stands in the other; a time-out with a plus sign and a zero in front, and one too large by
one, each before a plain one; and an address of slashes. -/
theorem settings_decided_eu :
    ofProfile (listed [("EU_RULER_URL", "http://eu//"), ("RULER_URL", "http://us"),
        ("US_RULER_NAMESPACE", "us")]) "eu" =
      ofProfile (listed [("EU_RULER_URL", "http://eu//"), ("RULER_URL", "http://us"),
        ("EU_RULER_NAMESPACE", "")]) "eu" ∧
    (ofProfile (listed [("EU_RULER_TIMEOUT_SECS", "+045"), ("RULER_TIMEOUT_SECS", "7")])
      "eu").ruler.timeout = 45 ∧
    (ofProfile (listed [("EU_RULER_TIMEOUT_SECS", "18446744073709551616"),
      ("RULER_TIMEOUT_SECS", "7")]) "eu").ruler.timeout = 10 ∧
    (ofProfile (listed [("EU_RULER_URL", "http://eu//")]) "eu").baseUrl = .ok "http://eu" ∧
    ∃ message, (ofProfile (listed [("RULER_URL", "//")]) "eu").baseUrl =
      .error (.configuration message) := by
  have hnames : keyNames (Text.upperCase "eu") "RULER_URL" = ["EU_RULER_URL", "RULER_URL"] := by
    decide +kernel
  have htimeouts : keyNames (Text.upperCase "eu") "RULER_TIMEOUT_SECS" =
      ["EU_RULER_TIMEOUT_SECS", "RULER_TIMEOUT_SECS"] := by decide +kernel
  refine ⟨?_, ?_, ?_, ?_, ?_⟩
  · obtain ⟨-, -, hsame, -⟩ := settings_decided (listed [("EU_RULER_URL", "http://eu//"),
      ("RULER_URL", "http://us"), ("US_RULER_NAMESPACE", "us")]) "eu"
    exact hsame _ (by decide +kernel)
  · obtain ⟨hdecided, -⟩ := settings_decided (listed [("EU_RULER_TIMEOUT_SECS", "+045"),
      ("RULER_TIMEOUT_SECS", "7")]) "eu"
    have hdigits : Text.Decimal.DigitsOf 45 ['0', '4', '5'] := ⟨by simp, by simp, by decide⟩
    refine ((hdecided _).2 rfl).timeout_eq "+045" ?_ (.number (.plus hdigits))
    rw [htimeouts]
    exact .here (by decide +kernel)
  · obtain ⟨hdecided, -⟩ := settings_decided (listed
      [("EU_RULER_TIMEOUT_SECS", "18446744073709551616"), ("RULER_TIMEOUT_SECS", "7")]) "eu"
    refine ((hdecided _).2 rfl).timeout_eq "18446744073709551616" ?_ (.other ?_)
    · rw [htimeouts]
      exact .here (by decide +kernel)
    · exact Text.Decimal.readUInt64?_eq_none_iff.1 (by decide +kernel)
  · obtain ⟨-, -, -, -, haddress⟩ := settings_decided (listed [("EU_RULER_URL", "http://eu//")]) "eu"
    have hchosen : FirstSet (listed [("EU_RULER_URL", "http://eu//")])
        (keyNames (Text.upperCase "eu") "RULER_URL") "http://eu//" := by
      rw [hnames]
      exact .here (by decide +kernel)
    have hurl : (ofProfile (listed [("EU_RULER_URL", "http://eu//")]) "eu").ruler.url =
        "http://eu" := by decide +kernel
    rw [← hurl]
    exact (haddress _ (.set hchosen)).2 ⟨'h', by decide, by decide⟩
  · obtain ⟨-, -, -, -, haddress⟩ := settings_decided (listed [("RULER_URL", "//")]) "eu"
    have hchosen : FirstSet (listed [("RULER_URL", "//")])
        (keyNames (Text.upperCase "eu") "RULER_URL") "//" := by
      rw [hnames]
      exact .later (by decide +kernel) (.here (by decide +kernel))
    exact (haddress _ (.set hchosen)).1.2 fun c hc => List.eq_of_mem_replicate (n := 2) hc

end Settings

end AlertRules
