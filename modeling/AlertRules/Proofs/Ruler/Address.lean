/-
AlertRules/Proofs/Ruler/Address.lean

How a ruler understands what a client sends.  A path is taken apart at its slashes, and
every piece that can stand in one (`IsPiece`) comes back as it was put in, so each of a
client's three requests is a demand for one key, which the client, the tenant and the name
of the group decide:

    push g      ↦  put    under `c.key tenant g.name`
    fetch name  ↦  get    of `c.key tenant name`
    delete name ↦  delete of `c.key tenant name`

For a push the ruler also has to read back the document that the client wrote.  What an
identifier is written as is always a piece.

A namespace need not be a piece.  Empty pieces do not count, so what takes its place in the
key is the one piece of it that is not empty (`Client.spacePieces`); with none or several of
them every request is refused.
-/
import AlertRules.Proofs.Definition.Id
import AlertRules.Ruler
import AlertRules.Ruler.Client

namespace AlertRules

/-- A text that can be one piece of a path. -/
structure IsPiece (s : String) : Prop where
  ne_empty : s ≠ ""
  no_slash : '/' ∉ s.toList

theorem DefinitionId.isPiece_render (id : DefinitionId) : IsPiece id.render :=
  ⟨id.render_ne_empty, id.slash_not_mem_render⟩

/-! ### Paths -/

theorem splitSlashes_of_not_mem {piece : List Char} (h : '/' ∉ piece) :
    splitSlashes piece = [piece] := by
  induction piece with
  | nil => rfl
  | cons c cs ih =>
    obtain ⟨hc, hcs⟩ := not_or.1 (mt List.mem_cons.2 h)
    rw [splitSlashes, if_neg (Ne.symm hc), ih hcs]

theorem splitSlashes_ne_nil (cs : List Char) : splitSlashes cs ≠ [] := by
  cases cs with
  | nil => exact List.cons_ne_nil _ _
  | cons c cs =>
    unfold splitSlashes
    split
    · exact List.cons_ne_nil _ _
    · split <;> exact List.cons_ne_nil _ _

/-- A slash ends a piece, wherever it stands. -/
theorem splitSlashes_append_slash (cs rest : List Char) :
    splitSlashes (cs ++ '/' :: rest) = splitSlashes cs ++ splitSlashes rest := by
  induction cs with
  | nil => rfl
  | cons c cs ih =>
    rw [List.cons_append, splitSlashes, splitSlashes, ih]
    by_cases hc : c = '/'
    · rw [if_pos hc, if_pos hc, List.cons_append]
    · obtain ⟨piece, more, hpieces⟩ := List.exists_cons_of_ne_nil (splitSlashes_ne_nil cs)
      rw [if_neg hc, if_neg hc, hpieces]
      rfl

/-- What follows the common beginning of all paths is taken apart by itself. -/
theorem pathPieces?_rulesPath_append (rest : String) :
    pathPieces? (rulesPath ++ rest) = some (((splitSlashes rest.toList).filter
      fun piece => !piece.isEmpty).map String.ofList) := by
  have hstart : rulesPath.toList.isPrefixOf (rulesPath.toList ++ rest.toList) = true :=
    List.isPrefixOf_iff_prefix.2 (List.prefix_append _ _)
  rw [pathPieces?, String.toList_append, if_pos hstart, List.drop_left]

theorem not_isEmpty_of_isPiece {s : String} (h : IsPiece s) : (!s.toList.isEmpty) = true := by
  cases hs : s.toList with
  | nil => exact absurd (String.toList_eq_nil_iff.1 hs) h.ne_empty
  | cons => rfl

/-- The pieces of a text between its slashes that are not empty. -/
def textPieces (s : String) : List String :=
  ((splitSlashes s.toList).filter fun piece => !piece.isEmpty).map String.ofList

theorem textPieces_of_isPiece {s : String} (h : IsPiece s) : textPieces s = [s] := by
  rw [textPieces, splitSlashes_of_not_mem h.no_slash]
  simp [not_isEmpty_of_isPiece h]

namespace Client

variable {c : Client}

/-- The pieces of the namespace between its slashes that are not empty. -/
def spacePieces (c : Client) : List String :=
  ((splitSlashes c.nameSpace.toList).filter fun piece => !piece.isEmpty).map String.ofList

theorem spacePieces_of_isPiece (hc : IsPiece c.nameSpace) : c.spacePieces = [c.nameSpace] :=
  textPieces_of_isPiece hc

/-- Without a slash the one piece is the namespace. -/
theorem eq_nameSpace_of_spacePieces {nameSpace : String} (hpieces : c.spacePieces = [nameSpace])
    (hslash : '/' ∉ c.nameSpace.toList) : nameSpace = c.nameSpace := by
  have hne : c.nameSpace ≠ "" := by
    intro hempty
    rw [spacePieces, hempty] at hpieces
    cases hpieces
  rw [spacePieces_of_isPiece ⟨hne, hslash⟩] at hpieces
  exact (List.cons.inj hpieces).1.symm

/-- The path of a namespace has the pieces of the namespace. -/
theorem pathPieces?_path_eq (c : Client) : pathPieces? c.path = some c.spacePieces := by
  have htext : ("/" ++ c.nameSpace).toList = [] ++ '/' :: c.nameSpace.toList :=
    String.toList_append
  rw [path, String.append_assoc, pathPieces?_rulesPath_append, htext, splitSlashes_append_slash]
  rfl

/-- The path of a group has the pieces of the namespace and then those of the name. -/
theorem pathPieces?_groupPath_append (c : Client) (name : String) :
    pathPieces? (c.groupPath name) = some (c.spacePieces ++ textPieces name) := by
  have htext : ("/" ++ (c.nameSpace ++ ("/" ++ name))).toList =
      [] ++ '/' :: (c.nameSpace.toList ++ '/' :: name.toList) := by
    rw [String.toList_append, String.toList_append, String.toList_append]
    rfl
  rw [groupPath, path, String.append_assoc, String.append_assoc, String.append_assoc,
    pathPieces?_rulesPath_append, htext, splitSlashes_append_slash, splitSlashes_append_slash,
    spacePieces, textPieces]
  simp [splitSlashes]

/-- The path of a group has the pieces of the namespace and the name. -/
theorem pathPieces?_groupPath_eq (c : Client) {name : String} (hname : IsPiece name) :
    pathPieces? (c.groupPath name) = some (c.spacePieces ++ [name]) := by
  rw [pathPieces?_groupPath_append, textPieces_of_isPiece hname]

theorem pathPieces?_groupPath (hc : IsPiece c.nameSpace) {name : String}
    (hname : IsPiece name) : pathPieces? (c.groupPath name) = some [c.nameSpace, name] := by
  rw [c.pathPieces?_groupPath_eq hname, spacePieces_of_isPiece hc]
  rfl

/-! ### Demands -/

/-- Where a ruler keeps a group that a client sends for a tenant. -/
def key (c : Client) (tenant name : String) : GroupKey :=
  ⟨c.tenancy.orgId tenant, c.nameSpace, name⟩

/-- The keys of a client tell organisations and identifiers apart, and nothing else. -/
theorem key_inj {tenant org : String} {id id' : DefinitionId} :
    (⟨org, c.nameSpace, id'.render⟩ : GroupKey) = c.key tenant id.render ↔
      c.tenancy.orgId tenant = org ∧ id = id' := by
  rw [key, GroupKey.mk.injEq]
  constructor
  · rintro ⟨horg, -, hid⟩
    exact ⟨horg.symm, DefinitionId.render_injective hid.symm⟩
  · rintro ⟨rfl, rfl⟩
    exact ⟨rfl, rfl, rfl⟩

theorem header?_of_headers {r : Request} {tenant : String} (h : r.headers = c.headers tenant) :
    r.header? orgHeader = some (c.tenancy.orgId tenant) := by
  simp [Request.header?, h, headers, sameHeader]

/-- A push is for the one piece of the namespace, or it is refused. -/
theorem demand_pushRequest_eq (c : Client) {g : RuleGroup} (hg : RuleGroup.read? g.write = some g)
    (tenant : String) :
    (c.pushRequest g tenant).demand =
      match c.spacePieces with
      | [nameSpace] => .put (c.tenancy.orgId tenant) nameSpace g
      | _ => .refused .notAllowed := by
  rw [Request.demand, header?_of_headers rfl, pushRequest, c.pathPieces?_path_eq]
  rcases c.spacePieces with _ | ⟨nameSpace, _ | ⟨other, more⟩⟩
  · rfl
  · simp [Request.demandOf, hg]
  · rfl

theorem demand_pushRequest (hc : IsPiece c.nameSpace) {g : RuleGroup}
    (hg : RuleGroup.read? g.write = some g) (tenant : String) :
    (c.pushRequest g tenant).demand = .put (c.tenancy.orgId tenant) c.nameSpace g := by
  rw [c.demand_pushRequest_eq hg, spacePieces_of_isPiece hc]

/-- A fetch is for the key of the one piece of the namespace, or it is refused. -/
theorem demand_fetchRequest_eq (c : Client) {name : String} (hname : IsPiece name)
    (tenant : String) :
    (c.fetchRequest name tenant).demand =
      match c.spacePieces with
      | [nameSpace] => .get ⟨c.tenancy.orgId tenant, nameSpace, name⟩
      | _ => .refused .notAllowed := by
  rw [Request.demand, header?_of_headers rfl, fetchRequest, c.pathPieces?_groupPath_eq hname]
  rcases c.spacePieces with _ | ⟨nameSpace, _ | ⟨other, more⟩⟩
  · rfl
  · rfl
  · cases more <;> rfl

theorem demand_fetchRequest (hc : IsPiece c.nameSpace) {name : String} (hname : IsPiece name)
    (tenant : String) : (c.fetchRequest name tenant).demand = .get (c.key tenant name) := by
  rw [c.demand_fetchRequest_eq hname, spacePieces_of_isPiece hc]
  rfl

theorem demand_deleteRequest (hc : IsPiece c.nameSpace) {name : String} (hname : IsPiece name)
    (tenant : String) : (c.deleteRequest name tenant).demand = .delete (c.key tenant name) := by
  rw [Request.demand, header?_of_headers rfl, deleteRequest, pathPieces?_groupPath hc hname]
  rfl

end Client

end AlertRules
