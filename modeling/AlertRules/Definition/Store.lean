/-
AlertRules/Definition/Store.lean

A store of definitions.  A definition is kept under its tenant and its identifier,
so two tenants may use one identifier for different definitions.
-/
import AlertRules.Definition
import AlertRules.Table

namespace AlertRules

structure Definitions where
  rows : Table (String × DefinitionId) Definition

namespace Definitions

def empty : Definitions := ⟨.empty⟩

instance : Inhabited Definitions := ⟨empty⟩

def get? (s : Definitions) (tenant : String) (id : DefinitionId) : Option Definition :=
  s.rows.get? (tenant, id)

def size (s : Definitions) : Nat := s.rows.size

def isEmpty (s : Definitions) : Bool := s.rows.isEmpty

/-- Inserts a definition, or replaces the one under the same key. -/
def upsert (s : Definitions) (d : Definition) : Definitions :=
  ⟨s.rows.insert (d.tenant, d.id) d⟩

def remove (s : Definitions) (tenant : String) (id : DefinitionId) : Definitions :=
  ⟨s.rows.erase (tenant, id)⟩

theorem get?_upsert (s : Definitions) (d : Definition) (tenant : String) (id : DefinitionId) :
    (s.upsert d).get? tenant id =
      if (tenant, id) = (d.tenant, d.id) then some d else s.get? tenant id :=
  s.rows.get?_insert _ _ _

theorem get?_remove (s : Definitions) (tenant t : String) (id i : DefinitionId) :
    (s.remove tenant id).get? t i = if (t, i) = (tenant, id) then none else s.get? t i :=
  s.rows.get?_erase _ _

end Definitions

end AlertRules
