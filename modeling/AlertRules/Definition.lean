/-
AlertRules/Definition.lean

Alert definitions: a rule template that belongs to a tenant, the interval at which
its rule is evaluated, and the parameters that the tenant has set.
-/
import AlertRules.Definition.Id
import AlertRules.Text.Blank

namespace AlertRules

/-- The parameters of a template that a tenant may set; an absent one leaves what
the template says. -/
structure Overrides where
  threshold : Option Int64 := none
  seconds : Option UInt64 := none
  enabled : Option Bool := none
  deriving DecidableEq, Repr, Inhabited

/-- The overrides that leave a template as it is. -/
def Overrides.none : Overrides := {}

/-- Only an explicit refusal disables a definition. -/
def Overrides.isDisabled (o : Overrides) : Bool := o.enabled = some false

/-- A definition; `interval` is in seconds. -/
structure Definition where
  id : DefinitionId
  tenant : String
  template : String
  interval : UInt64
  overrides : Overrides := .none
  deriving DecidableEq, Repr, Inhabited

namespace Definition

/-- Why a definition cannot be had from a store, or not be used. -/
inductive Error
  | unavailable (detail : String)
  | invalid (id : DefinitionId) (reason : String)
  deriving DecidableEq, Repr

def Error.message : Error → String
  | unavailable detail => "Storage error: " ++ detail
  | invalid id reason => "Invalid definition " ++ id.render ++ ": " ++ reason

def blankTenant : String := "tenant must not be empty"

def blankTemplate : String := "template must not be empty"

/-- Refuses a definition that has no tenant or no template. -/
def validate (d : Definition) : Except Error Unit :=
  if Text.isBlankText d.tenant then .error (.invalid d.id blankTenant)
  else if Text.isBlankText d.template then .error (.invalid d.id blankTemplate)
  else .ok ()

end Definition

end AlertRules
