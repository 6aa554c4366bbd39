/-
AlertRules/Tenancy.lean

From tenants to the organisations of a ruler.  One tenant, the reserved one, is
known to the ruler by another name; every other tenant is its own organisation.
-/

namespace AlertRules

structure Tenancy where
  reserved : String := "system"
  backend : String := "fake"
  deriving DecidableEq, Repr, Inhabited

/-- The names that are used where nothing else is set. -/
def Tenancy.standard : Tenancy := {}

/-- The organisation of a tenant. -/
def Tenancy.orgId (t : Tenancy) (tenant : String) : String :=
  if tenant = t.reserved then t.backend else tenant

end AlertRules
