/-
AlertRules/Settings.lean

Settings of the program, read from environment variables.  With a profile, a
variable whose name begins with the profile's goes before the plain one; an empty
variable counts as absent.
-/
import AlertRules.Ruler.Client
import AlertRules.Text.UpperCase

namespace AlertRules

/-- The variables of an environment. -/
abbrev Environment := String → Option String

/-- Where the ruler is, and how to reach it; the time-out is in seconds. -/
structure RulerSettings where
  url : String := "http://localhost:9009"
  nameSpace : String := "alertsync"
  timeout : UInt64 := 10
  insecure : Bool := false
  deriving DecidableEq, Repr, Inhabited

/-- The settings that are used where nothing else is set. -/
def RulerSettings.standard : RulerSettings := {}

structure Settings where
  profile : String
  ruler : RulerSettings
  tenancy : Tenancy
  deriving DecidableEq, Repr, Inhabited

namespace Settings

/-! ### Reading -/

/-- The value of a variable that is not empty. -/
def nonEmpty? (env : Environment) (name : String) : Option String :=
  (env name).filter (· ≠ "")

/-- The value of a key in a profile. -/
def profiled? (env : Environment) (profile key : String) : Option String :=
  if profile = "" then nonEmpty? env key
  else (nonEmpty? env (profile ++ "_" ++ key)).or (nonEmpty? env key)

/-- Whether a value says yes, in letters of either case. -/
def isYes (value : String) : Bool :=
  ["1", "true", "yes"].contains (String.ofList (value.toList.map Char.toLower))

/-- A text without the slashes at its end. -/
def trimSlashes (s : String) : String :=
  String.ofList ((s.toList.reverse.dropWhile (· = '/')).reverse)

def readRuler (env : Environment) (profile : String) : RulerSettings :=
  let standard := RulerSettings.standard
  { url := trimSlashes ((profiled? env profile "RULER_URL").getD standard.url)
    nameSpace := (profiled? env profile "RULER_NAMESPACE").getD standard.nameSpace
    timeout := ((profiled? env profile "RULER_TIMEOUT_SECS").bind
      Text.Decimal.readUInt64?).getD standard.timeout
    insecure := ((profiled? env profile "RULER_TLS_INSECURE").map isYes).getD
      standard.insecure }

def readTenancy (env : Environment) (profile : String) : Tenancy :=
  let standard := Tenancy.standard
  { reserved := (profiled? env profile "RULER_RESERVED_TENANT").getD standard.reserved
    backend := (profiled? env profile "RULER_BACKEND_TENANT").getD standard.backend }

/-- The settings of a profile; its name is taken in upper case. -/
def ofProfile (env : Environment) (profile : String) : Settings :=
  let profile := Text.upperCase profile
  ⟨profile, readRuler env profile, readTenancy env profile⟩

/-- The settings of the profile that the environment names. -/
def ofEnvironment (env : Environment) : Settings :=
  ofProfile env (Text.upperCase ((env "ALERTSYNC_PROFILE").getD ""))

/-! ### Showing -/

def profileLabel (s : Settings) : String := if s.profile = "" then "default" else s.profile

/-- What is logged about the settings at the start. -/
def summary (s : Settings) : String :=
  "Config loaded (profile: " ++ s.profileLabel ++ "):\n" ++
  "  ruler:    url=" ++ s.ruler.url ++ ", namespace=" ++ s.ruler.nameSpace ++
  ", timeout=" ++ Text.Decimal.text s.ruler.timeout.toNat ++ "s, tls_insecure=" ++
  (if s.ruler.insecure then "true" else "false") ++ "\n" ++
  "  tenancy:  reserved=" ++ s.tenancy.reserved ++ " -> backend=" ++ s.tenancy.backend

/-! ### Use -/

def emptyUrl : TransportError := .configuration "ruler url is empty"

/-- The address to which the paths of requests are appended. -/
def baseUrl (s : Settings) : Except TransportError String :=
  if s.ruler.url = "" then .error emptyUrl else .ok (trimSlashes s.ruler.url)

def client (s : Settings) : Except TransportError Client :=
  if s.ruler.url = "" then .error emptyUrl else .ok ⟨s.ruler.nameSpace, s.tenancy⟩

end Settings

/-- How a client is shown. -/
def Client.describe (c : Client) : String :=
  "RulerClient \x7b namespace: " ++ Text.quote c.nameSpace ++
  ", tenants: TenantMapper \x7b reserved: " ++ Text.quote c.tenancy.reserved ++
  ", backend: " ++ Text.quote c.tenancy.backend ++ " \x7d, .. \x7d"

end AlertRules
