/-
AlertRules/CommandLine.lean

The program `ruler-sync`: it brings one definition to the ruler, or removes it, or
only shows the group.  What it does is decided here from its arguments and its
surroundings; what the outer layer has left to do is to hold the exchange with the
ruler, if there is one, and to print.

A run whose deadline the clock cannot show breaks off with a report.  The report ends
with a hint on how to get a stack trace; an environment that asks for one would get it
in place of the hint, and is out of scope.
-/
import AlertRules.CommandLine.Options
import AlertRules.Settings.EnvFile
import AlertRules.Sync

namespace AlertRules.CommandLine

/-- What the program finds when it starts. -/
structure Surroundings where
  environment : Environment
  /-- The text of the file with variables, if there is one. -/
  envFile : Option String
  /-- The text of a file, or why it cannot be read. -/
  fileText : String → Except String String
  /-- What a clock shows that never goes back, in seconds. -/
  clock : Nat

structure Outcome where
  code : Nat
  stdout : String := ""
  stderr : String := ""
  deriving DecidableEq, Repr

/-- What a run comes to: an outcome, or an exchange with the ruler at an address. -/
inductive Plan
  | finished (outcome : Outcome)
  | contact (baseUrl : String) (exchange : Exchange Outcome)

/-! ### Outcomes -/

def success (stdout : String) : Outcome := ⟨0, stdout, ""⟩

/-- A text with every line moved to the right. -/
def indent (s : String) : String :=
  String.ofList (' ' :: ' ' :: ' ' :: ' ' :: s.toList.flatMap fun c =>
    if c = '\n' then ['\n', ' ', ' ', ' ', ' '] else [c])

/-- A failure with the cause that is reported under it. -/
def failure (message : String) (cause : Option String) : Outcome :=
  ⟨1, "", match cause with
    | none => "Error: " ++ message ++ "\n"
    | some cause => "Error: " ++ message ++ "\n\nCaused by:\n" ++ indent cause ++ "\n"⟩

/-- The error from which an error comes, where it is reported by itself. -/
def cause? : SyncError → Option String
  | .store cause => some cause.message
  | .build (.template reason) => some reason
  | .build (.pending _ cause) => some cause.message
  | .build (.placeholder _) => none
  | .build (.expression ..) => none
  | .failed .. => none
  | .undecodable _ => none
  | .ruleCount .. => none
  | .mismatch .. => none
  | .deadline _ => none

def failed (e : SyncError) : Outcome := failure e.message (cause? e)

/-- The outcome of a result, given what a success prints. -/
def ofResult {α : Type} (stdout : α → String) : Except SyncError α → Outcome
  | .ok a => success (stdout a)
  | .error e => failed e

/-- The number of the program's only thread, which is that of its process: the third in the
container that it runs in. -/
def threadNumber : Nat := 3

/-- What is reported of a run that breaks off, and where. -/
def breakReport (place message : String) : String :=
  "\nthread 'main' (" ++ Text.Decimal.text threadNumber ++ ") panicked at " ++ place ++ ":\n" ++
    message ++
    "\nnote: run with `RUST_BACKTRACE=1` environment variable to display a backtrace\n"

def brokenOff (place message : String) : Outcome := ⟨101, "", breakReport place message⟩

/-- Where a time is added to what the clock shows. -/
def additionPlace : String :=
  "/usr/local/cargo/registry/src/index.crates.io-1949cf8c6b5b557f/" ++
    "tokio-1.54.1/src/time/instant.rs:161:27"

/-- The clock cannot show the time of the deadline. -/
def clockOverflow : Outcome := brokenOff additionPlace "overflow when adding duration to instant"

def versionText : String := "ruler-sync 0.1.0\n"

def usageText : String :=
  "Sync one alert definition to the ruler\n\nUsage: ruler-sync [OPTIONS] --id <ID> --tenant <TENANT>\n"

def stopped : Options.Stop → Outcome
  | .help => success usageText
  | .version => success versionText
  | .usage => ⟨2, "", usageText⟩

/-! ### The run -/

def noTemplate : String := "--template is required unless --delete is given"

/-- The definition that the options describe. -/
def definition (w : Surroundings) (o : Options) : Except Outcome Definition :=
  match o.template with
  | none => .error (failure noTemplate none)
  | some path =>
    match w.fileText path with
    | .error reason => .error (failure ("failed to read template " ++ path) (some reason))
    | .ok template => .ok (o.definition template)

/-- The first time, in seconds, that the clock cannot show. -/
def clockBound : Nat := Nat.pow 2 63

/-- What is done for options, once the client is there. -/
def planFor (w : Surroundings) (baseUrl : String) (c : Client) (o : Options) : Plan :=
  if clockBound ≤ w.clock + o.deadline.toNat then .finished clockOverflow
  else if o.delete then
    .contact baseUrl ((c.remove o.id o.tenant).map (ofResult fun _ => ""))
  else match definition w o with
    | .error outcome => .finished outcome
    | .ok d =>
      if o.dryRun then .finished (ofResult RuleGroup.write d.group)
      else .contact baseUrl ((c.update d).map (ofResult fun _ => ""))

/-- The environment, with the variables of the file. -/
def Surroundings.fullEnvironment (w : Surroundings) : Environment :=
  match w.envFile with
  | some text => EnvFile.load w.environment text
  | none => w.environment

def noClient : String := "failed to build ruler client"

def plan (w : Surroundings) (args : List String) : Plan :=
  match Options.parse w.fullEnvironment args with
  | .error stop => .finished (stopped stop)
  | .ok o =>
    let s := Settings.ofEnvironment w.fullEnvironment
    match s.client, s.baseUrl with
    | .ok c, .ok baseUrl => planFor w baseUrl c o
    | .error e, _ => .finished (failure noClient (some e.message))
    | _, .error e => .finished (failure noClient (some e.message))

/-- Carries a plan out, with a transport that may depend on the ruler's address. -/
def Plan.run (transport : String → Request → Answer) : Plan → Outcome
  | .finished outcome => outcome
  | .contact baseUrl exchange =>
    (exchange.run (fun _ request => (transport baseUrl request, ())) ()).1

end AlertRules.CommandLine
