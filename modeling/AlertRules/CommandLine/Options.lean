/-
AlertRules/CommandLine/Options.lean

The options of the command line.  All of them are long; a value follows its option
after an equals sign or as the next argument.  An argument that begins with a hyphen
is no value, except that a threshold may be negative.  No option may be given twice.
-/
import AlertRules.Definition
import AlertRules.Settings

namespace AlertRules

/-- What a command line asks for; times are in seconds. -/
structure Options where
  template : Option String
  id : DefinitionId
  tenant : String
  interval : UInt64
  threshold : Option Int64
  duration : Option UInt64
  disabled : Bool
  dryRun : Bool
  delete : Bool
  deadline : UInt64
  deriving DecidableEq, Repr

namespace Options

/-- Why a command line does not lead to a run. -/
inductive Stop
  | help
  | version
  | usage
  deriving DecidableEq, Repr

/-- The options found so far. -/
structure Draft where
  template : Option String := none
  id : Option DefinitionId := none
  tenant : Option String := none
  interval : Option UInt64 := none
  threshold : Option Int64 := none
  duration : Option UInt64 := none
  deadline : Option UInt64 := none
  disabled : Bool := false
  dryRun : Bool := false
  delete : Bool := false
  deriving DecidableEq, Repr

def Draft.empty : Draft := {}

/-! ### Options with values -/

def valueNames : List String :=
  ["template", "id", "tenant", "interval", "threshold", "duration", "deadline-secs"]

/-- A value for an option that has none yet. -/
def fresh {α : Type} (old new : Option α) : Option (Option α) :=
  match old, new with
  | none, some a => some (some a)
  | _, _ => none

/-- Gives an option its value; none where the option has one already, or the value is
none for it. -/
def Draft.setValue (d : Draft) (name value : String) : Option Draft :=
  match name with
  | "template" => (fresh d.template (some value)).map fun v => { d with template := v }
  | "id" => (fresh d.id (DefinitionId.parse? value)).map fun v => { d with id := v }
  | "tenant" => (fresh d.tenant (some value)).map fun v => { d with tenant := v }
  | "interval" =>
    (fresh d.interval (Text.Decimal.readUInt64? value)).map fun v => { d with interval := v }
  | "threshold" =>
    (fresh d.threshold (Text.Decimal.readInt64? value)).map fun v => { d with threshold := v }
  | "duration" =>
    (fresh d.duration (Text.Decimal.readUInt64? value)).map fun v => { d with duration := v }
  | "deadline-secs" =>
    (fresh d.deadline (Text.Decimal.readUInt64? value)).map fun v => { d with deadline := v }
  | _ => none

/-- Whether an argument can be the value of an option. -/
def isValue (name arg : String) : Bool :=
  match arg.toList with
  | ['-'] => true
  | '-' :: r => name = "threshold" && r.all Char.isDigit
  | _ => true

/-! ### Flags -/

/-- Raises a flag; none where it is raised already. -/
def Draft.setFlag (d : Draft) (name : String) : Option Draft :=
  match name with
  | "disabled" => if d.disabled then none else some { d with disabled := true }
  | "dry-run" => if d.dryRun then none else some { d with dryRun := true }
  | "delete" => if d.delete then none else some { d with delete := true }
  | _ => none

/-! ### Arguments -/

/-- The kinds of arguments. -/
inductive Argument
  | terminator
  | long (name : String) (value : Option String)
  | short (letters : List Char)
  | plain
  deriving DecidableEq, Repr

def Argument.ofString (arg : String) : Argument :=
  match arg.toList with
  | ['-', '-'] => .terminator
  | '-' :: '-' :: r =>
    let name := String.ofList (r.takeWhile (· ≠ '='))
    match r.dropWhile (· ≠ '=') with
    | [] => .long name none
    | _ :: value => .long name (some (String.ofList value))
  | ['-'] => .plain
  | '-' :: r => .short r
  | _ => .plain

def orUsage {α : Type} : Option α → Except Stop α
  | some a => .ok a
  | none => .error .usage

/-- Takes an option or a flag from the arguments, the first of which is its name. -/
def Draft.takeLong (d : Draft) (name : String) (rest : List String) :
    Except Stop (Draft × List String) :=
  if name = "help" then .error .help
  else if name = "version" then .error .version
  else if valueNames.contains name then
    match rest with
    | [] => .error .usage
    | value :: rest =>
      if isValue name value then (orUsage (d.setValue name value)).map (·, rest)
      else .error .usage
  else (orUsage (d.setFlag name)).map (·, rest)

theorem length_takeLong {d d' : Draft} {name : String} {rest rest' : List String}
    (h : d.takeLong name rest = .ok (d', rest')) : rest'.length ≤ rest.length := by
  unfold Draft.takeLong at h
  split at h
  · simp at h
  · split at h
    · simp at h
    · split at h
      · split at h
        · simp at h
        · next value more =>
          split at h
          · cases hs : d.setValue name value with
            | none => simp [hs, orUsage, Except.map] at h
            | some d'' =>
              simp only [hs, orUsage, Except.map, Except.ok.injEq, Prod.mk.injEq] at h
              simp [← h.2]
          · simp at h
      · cases hs : d.setFlag name with
        | none => simp [hs, orUsage, Except.map] at h
        | some d'' =>
          simp only [hs, orUsage, Except.map, Except.ok.injEq, Prod.mk.injEq] at h
          simp [← h.2]

/-- Goes through the arguments. -/
def scan (d : Draft) (args : List String) : Except Stop Draft :=
  match args with
  | [] => .ok d
  | arg :: rest =>
    match Argument.ofString arg with
    | .terminator => if rest.isEmpty then .ok d else .error .usage
    | .plain => .error .usage
    | .short ('h' :: _) => .error .help
    | .short ('V' :: _) => .error .version
    | .short _ => .error .usage
    | .long name (some value) =>
      match d.setValue name value with
      | some d => scan d rest
      | none => .error .usage
    | .long name none =>
      match _h : d.takeLong name rest with
      | .ok (d, rest) => scan d rest
      | .error stop => .error stop
termination_by args.length
decreasing_by
  · simp
  · have := length_takeLong _h
    simp only [List.length_cons]
    omega

/-! ### The command line -/

/-- The options that a draft stands for, with what the environment and the defaults
add to it. -/
def ofDraft? (env : Environment) (d : Draft) : Option Options := do
  let id ← d.id
  let tenant ← d.tenant.or (env "ALERTSYNC_TENANT")
  let deadline ← match d.deadline, env "RULER_SYNC_DEADLINE_SECS" with
    | some secs, _ => some secs
    | none, some text => Text.Decimal.readUInt64? text
    | none, none => some 30
  if d.dryRun && d.delete then none
  else return ⟨d.template, id, tenant, d.interval.getD 60, d.threshold, d.duration, d.disabled,
    d.dryRun, d.delete, deadline⟩

/-- Reads a command line. -/
def parse (env : Environment) (args : List String) : Except Stop Options :=
  (scan .empty args).bind fun d => orUsage (ofDraft? env d)

def overrides (o : Options) : Overrides :=
  ⟨o.threshold, o.duration, if o.disabled then some false else none⟩

/-- The definition that the options describe, with the text of its template. -/
def definition (o : Options) (template : String) : Definition :=
  ⟨o.id, o.tenant, template, o.interval, o.overrides⟩

end Options

end AlertRules
