/-
AlertRules/Main.lean

The outer layer of the program: it gathers the surroundings, carries the plan out
and prints.  There is no network behind it, so every message goes unanswered.
-/
import AlertRules.CommandLine
import AlertRules.Http

namespace AlertRules.Main

/-- The variables in the form in which a process is given them. -/
def readVariables (text : String) : List (String × String) :=
  (text.splitOn "\x00").filterMap fun entry =>
    match entry.toList.dropWhile (· ≠ '=') with
    | [] => none
    | _ :: value =>
      some (String.ofList (entry.toList.takeWhile (· ≠ '=')), String.ofList value)

def readText? (path : String) : IO (Except String String) := do
  try
    return .ok (← IO.FS.readFile path)
  catch
    | .noFileOrDirectory .. => return .error "No such file or directory (os error 2)"
    | e => return .error (toString e)

/-- The text of the nearest file of variables, here or above. -/
def findEnvFile : Nat → String → IO (Option String)
  | 0, _ => return none
  | depth + 1, directory => do
    match ← readText? (directory ++ ".env") with
    | .ok text => return some text
    | .error _ => findEnvFile depth (directory ++ "../")

/-- The text of the file that the options name, read before the run. -/
def templateOf (args : List String) (environment : Environment) : Option String :=
  match Options.parse environment args with
  | .ok o => o.template
  | .error _ => none

/-- A network on which nobody answers. -/
def silentNetwork (_ : Http.Message) : Answer := .error (.http "error sending request")

end AlertRules.Main

open AlertRules

/-- The program. -/
def main (args : List String) : IO UInt32 := do
  let given := match ← Main.readText? "/proc/self/environ" with
    | .ok text => Main.readVariables text
    | .error _ => []
  let environment : Environment := fun name => given.lookup name
  let envFile ← Main.findEnvFile 64 ""
  let before : CommandLine.Surroundings := ⟨environment, envFile, fun _ => .ok "", 0⟩
  let template ← match Main.templateOf args before.fullEnvironment with
    | some path => Main.readText? path
    | none => pure (.ok "")
  let clock := (← IO.monoMsNow) / 1000
  let plan := CommandLine.plan ⟨environment, envFile, fun _ => template, clock⟩ args
  let outcome := plan.run fun baseUrl => Http.send baseUrl Main.silentNetwork
  IO.print outcome.stdout
  IO.eprint outcome.stderr
  return UInt32.ofNat outcome.code
