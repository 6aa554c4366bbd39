/-
AlertRules/Proofs/Sync/Naming.lean

Which group a client reaches by a name.  A name is put into the path as it is, and the ruler
takes the path apart at its slashes, so what is fetched or deleted is under the key that the
pieces of the namespace and of the name make up (`Client.Reaches`): there is one if there are
two pieces, and otherwise the request is refused.  A push goes by the name that the group has
in its document, whatever characters are in it.

A name that is a piece of a path leads to a key with that name, in any namespace; any other
name leads to a key with another name or to none (`Client.Reaches.name_eq_iff`).  So a group
that was pushed is fetched back under its own name if that is a piece, and only then, where the
ruler keeps groups under their own names as it always does (`Ruler.IsNamed`).
-/
import AlertRules.Proofs.Ruler.History
import AlertRules.Proofs.Sync.Interference

namespace AlertRules

open Outcome

/-! ### Pieces -/

theorem not_slash_mem_of_mem_splitSlashes {cs piece : List Char} (h : piece ∈ splitSlashes cs) :
    '/' ∉ piece := by
  induction cs generalizing piece with
  | nil =>
    rw [List.mem_singleton.1 h]
    exact List.not_mem_nil
  | cons c cs ih =>
    rw [splitSlashes] at h
    split at h
    · rcases List.mem_cons.1 h with rfl | h
      · exact List.not_mem_nil
      · exact ih h
    · next hc =>
      obtain ⟨first, more, hpieces⟩ := List.exists_cons_of_ne_nil (splitSlashes_ne_nil cs)
      rw [hpieces] at h ih
      rcases List.mem_cons.1 h with rfl | h
      · intro hmem
        rcases List.mem_cons.1 hmem with rfl | hmem
        · exact hc rfl
        · exact ih List.mem_cons_self hmem
      · exact ih (List.mem_cons_of_mem _ h)

theorem isPiece_of_mem_textPieces {s piece : String} (h : piece ∈ textPieces s) :
    IsPiece piece := by
  obtain ⟨cs, hcs, rfl⟩ := List.mem_map.1 h
  obtain ⟨hmem, hne⟩ := List.mem_filter.1 hcs
  refine ⟨?_, ?_⟩
  · rintro hempty
    rw [← String.toList_inj, String.toList_ofList] at hempty
    rw [hempty] at hne
    cases hne
  · rw [String.toList_ofList]
    exact not_slash_mem_of_mem_splitSlashes hmem

/-! ### What a name leads to -/

/-- The key is for the organisation of the tenant, and its namespace and name are all the pieces
of the client's namespace and the name. -/
structure Client.Reaches (c : Client) (tenant name : String) (key : GroupKey) : Prop where
  org : key.org = c.tenancy.orgId tenant
  pieces : c.spacePieces ++ textPieces name = [key.nameSpace, key.name]

namespace Client

variable {c : Client} {tenant name : String} {key : GroupKey} {r : Ruler} {g : RuleGroup}

theorem Reaches.unique {key' : GroupKey} (h : c.Reaches tenant name key)
    (h' : c.Reaches tenant name key') : key = key' := by
  obtain ⟨horg, hpieces⟩ := h
  obtain ⟨horg', hpieces'⟩ := h'
  rw [hpieces] at hpieces'
  cases key
  cases key'
  cases hpieces'
  cases horg.trans horg'.symm
  rfl

/-- A name leads to a key of that name if it is a piece of a path, and to no such key
otherwise. -/
theorem Reaches.name_eq_iff (h : c.Reaches tenant name key) : key.name = name ↔ IsPiece name := by
  have hmem : key.name ∈ c.spacePieces ++ textPieces name := by
    rw [h.pieces]
    simp
  constructor
  · intro heq
    rw [← heq]
    rcases List.mem_append.1 hmem with hmem | hmem
    · exact isPiece_of_mem_textPieces hmem
    · exact isPiece_of_mem_textPieces hmem
  · intro hname
    have hlast := congrArg List.getLast? h.pieces
    rw [textPieces_of_isPiece hname, List.getLast?_concat] at hlast
    exact (Option.some.inj hlast).symm

section Requests

variable {request : Request} (hheaders : request.headers = c.headers tenant)
  (hpath : request.path = c.groupPath name)

include hheaders hpath

theorem addresses_pieces :
    request.Addresses (c.tenancy.orgId tenant) (c.spacePieces ++ textPieces name) := by
  refine Request.addresses_iff.2 ⟨header?_of_headers hheaders, ?_⟩
  rw [hpath, pathPieces?_groupPath_append]

/-- A request about the group of a name is for the key that the name leads to. -/
theorem addresses_iff_reaches :
    request.Addresses key.org [key.nameSpace, key.name] ↔ c.Reaches tenant name key := by
  obtain ⟨horg, hpieces⟩ := Request.addresses_iff.1 (addresses_pieces hheaders hpath)
  rw [Request.addresses_iff, horg, hpieces, Option.some.injEq, Option.some.injEq]
  exact ⟨fun ⟨h, h'⟩ => ⟨h.symm, h'⟩, fun ⟨h, h'⟩ => ⟨h.symm, h'⟩⟩

/-- Where the name leads to no key, the request is refused. -/
theorem demand_of_not_reaches (hpost : request.method ≠ "POST")
    (hnone : ∀ key, ¬ c.Reaches tenant name key) : request.demand = .refused .notAllowed := by
  rw [Request.demand_eq_demandOf (addresses_pieces hheaders hpath)]
  unfold Request.demandOf
  split
  · next hmethod _ => exact absurd hmethod hpost
  · next heq => exact absurd ⟨rfl, heq⟩ (hnone ⟨_, _, _⟩)
  · next heq => exact absurd ⟨rfl, heq⟩ (hnone ⟨_, _, _⟩)
  · rfl

end Requests

/-! ### What is fetched -/

/-- A fetch is the reading of one answer. -/
theorem run_fetch_eq : ((c.fetch name tenant).run Ruler.serve r).1 =
    fetched name (.ok (r.handle (c.fetchRequest name tenant)).1) :=
  rfl

variable (hr : r.IsPlain)

include hr

/-- What is under the key that the name leads to is fetched. -/
theorem run_fetch_of_reaches (h : c.Reaches tenant name key) :
    ((c.fetch name tenant).run Ruler.serve r).1 = match r.group? key with
      | some group => .ok group
      | none => .error (.failed .fetch name (some 404) "group does not exist") := by
  rw [run_fetch_eq, Ruler.handle_get (hr.forced _) rfl ((addresses_iff_reaches rfl rfl).2 h), hr.echo]
  cases r.group? key with
  | none => exact fetched_of_refused rfl
  | some group => exact fetched_of_read rfl group.read?_write

/-- Where the name leads to no key, the fetch is refused. -/
theorem run_fetch_of_not_reaches (hnone : ∀ key, ¬ c.Reaches tenant name key) :
    ((c.fetch name tenant).run Ruler.serve r).1 =
      .error (.failed .fetch name (some 405) "method not allowed") := by
  have hdemand : (c.fetchRequest name tenant).demand = .refused .notAllowed :=
    demand_of_not_reaches rfl rfl (show "GET" ≠ "POST" by decide) hnone
  rw [run_fetch_eq, Ruler.handle_of_not_forced (hr.forced _), hdemand]
  exact fetched_of_refused rfl

theorem run_fetch_eq_ok_iff : ((c.fetch name tenant).run Ruler.serve r).1 = .ok g ↔
    ∃ key, c.Reaches tenant name key ∧ r.group? key = some g := by
  by_cases hsome : ∃ key, c.Reaches tenant name key
  · obtain ⟨key, hkey⟩ := hsome
    rw [run_fetch_of_reaches hr hkey]
    constructor
    · intro hok
      cases hgroup : r.group? key with
      | none =>
        rw [hgroup] at hok
        cases hok
      | some group =>
        rw [hgroup] at hok
        cases hok
        exact ⟨key, hkey, hgroup⟩
    · rintro ⟨key', hkey', hgroup⟩
      rw [hkey.unique hkey', hgroup]
  · rw [run_fetch_of_not_reaches hr (not_exists.1 hsome)]
    constructor
    · nofun
    · rintro ⟨key, hkey, -⟩
      exact absurd ⟨key, hkey⟩ hsome

/-! ### What is deleted -/

/-- A delete writes to the key that the name leads to. -/
theorem effective_delete_iff {cell : Option RuleGroup} :
    r.Effective (c.deleteRequest name tenant) key cell ↔
      c.Reaches tenant name key ∧ cell = none := by
  constructor
  · rintro ⟨-, hmethod, haddresses, -⟩
    · exact absurd hmethod (show "DELETE" ≠ "POST" by decide)
    · next haddresses =>
      exact ⟨(addresses_iff_reaches rfl rfl).1 haddresses, rfl⟩
  · rintro ⟨hkey, rfl⟩
    exact ⟨hr.forced _, .delete rfl ((addresses_iff_reaches rfl rfl).2 hkey)⟩

theorem group?_delete_of_reaches (h : c.Reaches tenant name key) :
    ((c.delete name tenant).run Ruler.serve r).2.group? key = none :=
  Ruler.group?_of_effective ((effective_delete_iff hr).2 ⟨h, rfl⟩)

theorem group?_delete_of_not_reaches (h : ¬ c.Reaches tenant name key) :
    ((c.delete name tenant).run Ruler.serve r).2.group? key = r.group? key :=
  Ruler.group?_of_not_effective fun _ heffective => h ((effective_delete_iff hr).1 heffective).1

/-! ### What is pushed -/

/-- A push is accepted if the namespace has a single piece. -/
theorem run_push_eq_ok_iff : ((c.push g tenant).run Ruler.serve r).1 = .ok () ↔
    ∃ nameSpace, c.spacePieces = [nameSpace] := by
  have hrun : ((c.push g tenant).run Ruler.serve r).1 =
      pushed g.name (.ok (r.handle (c.pushRequest g tenant)).1) := rfl
  have hdemand := c.demand_pushRequest_eq g.read?_write tenant
  rw [hrun, Ruler.handle_of_not_forced (hr.forced _), hdemand]
  rcases c.spacePieces with _ | ⟨nameSpace, _ | ⟨other, more⟩⟩
  · exact ⟨nofun, nofun⟩
  · exact ⟨fun _ => ⟨nameSpace, rfl⟩, fun _ => rfl⟩
  · exact ⟨nofun, nofun⟩

/-- What was pushed is fetched under its name if that is a piece of a path. -/
theorem run_fetch_of_push (hpushed : ((c.push g tenant).run Ruler.serve r).1 = .ok ())
    (hname : IsPiece g.name) :
    ((c.fetch g.name tenant).run Ruler.serve ((c.push g tenant).run Ruler.serve r).2).1 =
      .ok g := by
  obtain ⟨nameSpace, hspace⟩ := (run_push_eq_ok_iff hr).1 hpushed
  obtain ⟨-, hbecomes⟩ := c.becomes_of_push hr hspace g tenant
  refine (run_fetch_eq_ok_iff hbecomes.plain).2 ⟨_, ⟨rfl, ?_⟩, hbecomes.here⟩
  rw [hspace, textPieces_of_isPiece hname]
  rfl

end Client

/-! ### Rulers that keep groups under their own names -/

namespace Ruler

variable {r : Ruler}

/-- Every group is kept under the name that it has. -/
def IsNamed (r : Ruler) : Prop := ∀ key group, r.group? key = some group → group.name = key.name

theorem isNamed_empty : empty.IsNamed := by
  intro key group hgroup
  rw [group?_empty] at hgroup
  cases hgroup

/-- No request makes a ruler keep a group under another name. -/
theorem IsNamed.serve (h : r.IsNamed) (request : Request) : (r.serve request).2.IsNamed := by
  intro key group hgroup
  have hhandle : (r.handle request).2.group? key = some group := hgroup
  by_cases hwrite : ∃ cell, r.Effective request key cell
  · obtain ⟨cell, heffective⟩ := hwrite
    rw [group?_of_effective heffective] at hhandle
    subst hhandle
    cases heffective.2 with
    | put => rfl
  · rw [group?_of_not_effective (not_exists.1 hwrite)] at hhandle
    exact h key group hhandle

theorem IsNamed.after (h : r.IsNamed) (requests : List Request) :
    (Exchange.after Ruler.serve r requests).IsNamed :=
  Exchange.after_invariant (fun _ request hr => hr.serve request) h requests

end Ruler

/-! ### Names -/

namespace Client

/-- What a client reaches by a name.  A group that was pushed is fetched under its name if that
is a piece of a path, and no other group is if it keeps groups under their own names.  A fetch
gives what is under the key that the name leads to, and changes nothing; a delete leaves nothing
there, and everything else as it is.  The key has the name if the name is a piece, and has
another name otherwise. -/
theorem reached_by_name (c : Client) (tenant : String) {r : Ruler} (hr : r.IsPlain) :
    (∀ g, ((c.push g tenant).run Ruler.serve r).1 = .ok () →
      (IsPiece g.name → ((c.fetch g.name tenant).run Ruler.serve
        ((c.push g tenant).run Ruler.serve r).2).1 = .ok g) ∧
      (r.IsNamed → ((c.fetch g.name tenant).run Ruler.serve
        ((c.push g tenant).run Ruler.serve r).2).1 = .ok g → IsPiece g.name)) ∧
    ∀ name,
      (∀ g, ((c.fetch name tenant).run Ruler.serve r).1 = .ok g ↔
        ∃ key, c.Reaches tenant name key ∧ r.group? key = some g) ∧
      (∀ key, ((c.fetch name tenant).run Ruler.serve r).2.group? key = r.group? key) ∧
      (∀ key, c.Reaches tenant name key →
        ((c.delete name tenant).run Ruler.serve r).2.group? key = none) ∧
      (∀ key, ¬ c.Reaches tenant name key →
        ((c.delete name tenant).run Ruler.serve r).2.group? key = r.group? key) ∧
      ∀ key, c.Reaches tenant name key → (key.name = name ↔ IsPiece name) := by
  refine ⟨fun g hpushed => ⟨run_fetch_of_push hr hpushed, fun hnamed hfetched => ?_⟩,
    fun name => ⟨fun g => run_fetch_eq_ok_iff hr, fun key => Ruler.group?_of_no_write (.inl rfl) key,
      fun key => group?_delete_of_reaches hr, fun key => group?_delete_of_not_reaches hr,
      fun key => Reaches.name_eq_iff⟩⟩
  have hplain := hr.serve (c.pushRequest g tenant)
  obtain ⟨key, hkey, hgroup⟩ := (run_fetch_eq_ok_iff hplain).1 hfetched
  exact hkey.name_eq_iff.1 (hnamed.serve (c.pushRequest g tenant) key g hgroup).symm

/-- A group that was pushed into a namespace with a slash behind it is fetched and deleted
beside another one. -/
theorem reached_by_name_twice :
    let c : Client := ⟨"alerts/", .standard⟩
    let a : RuleGroup := ⟨"a", "15s", []⟩
    let b : RuleGroup := ⟨"b", "1m", []⟩
    let r := ((c.push a "t").run Ruler.serve Ruler.empty).2
    let s := ((c.push b "t").run Ruler.serve r).2
    r.IsPlain ∧ r.IsNamed ∧ ((c.push b "t").run Ruler.serve r).1 = .ok () ∧ IsPiece b.name ∧
      ((c.fetch b.name "t").run Ruler.serve s).1 = .ok b ∧
      c.Reaches "t" "a" ⟨"t", "alerts", "a"⟩ ∧
      ((c.delete "a" "t").run Ruler.serve r).2.group? ⟨"t", "alerts", "a"⟩ = none := by
  intro c a b r s
  have hr : r.IsPlain := Ruler.isPlain_empty.serve (c.pushRequest a "t")
  have hnamed : r.IsNamed := Ruler.isNamed_empty.serve (c.pushRequest a "t")
  have hpushed : ((c.push b "t").run Ruler.serve r).1 = .ok () :=
    (run_push_eq_ok_iff hr).2 ⟨"alerts", by decide⟩
  have hname : IsPiece b.name := ⟨by decide, by decide⟩
  have hreaches : c.Reaches "t" "a" ⟨"t", "alerts", "a"⟩ := ⟨rfl, by decide⟩
  obtain ⟨hpush, hnames⟩ := c.reached_by_name "t" hr
  exact ⟨hr, hnamed, hpushed, hname, (hpush b hpushed).1 hname, hreaches,
    (hnames "a").2.2.1 _ hreaches⟩

/-- Neither is a group always fetched back under its name, nor is what is fetched or deleted
always under the name that is given: `a/` leads to the group `a`. -/
theorem not_always_by_name :
    (¬ ∀ (c : Client) (tenant : String) (r : Ruler) (g : RuleGroup), r.IsPlain →
      ((c.push g tenant).run Ruler.serve r).1 = .ok () →
      ((c.fetch g.name tenant).run Ruler.serve ((c.push g tenant).run Ruler.serve r).2).1 = .ok g) ∧
    (¬ ∀ (c : Client) (tenant name : String) (r : Ruler) (g : RuleGroup), r.IsPlain →
      ((c.fetch name tenant).run Ruler.serve r).1 = .ok g →
      ∃ key, key.name = name ∧ r.group? key = some g) ∧
    ¬ ∀ (c : Client) (tenant name : String) (r : Ruler) (key : GroupKey), r.IsPlain →
      key.name ≠ name →
      ((c.delete name tenant).run Ruler.serve r).2.group? key = r.group? key := by
  let c : Client := ⟨"alerts", .standard⟩
  let a : RuleGroup := ⟨"a", "15s", []⟩
  let b : RuleGroup := ⟨"a/", "15s", []⟩
  let key : GroupKey := ⟨"t", "alerts", "a"⟩
  have hspace : c.spacePieces = ["alerts"] := by decide
  have hreaches : c.Reaches "t" "a/" key := ⟨rfl, by decide⟩
  obtain ⟨-, hbecomes⟩ := c.becomes_of_push Ruler.isPlain_empty hspace a "t"
  refine ⟨fun h => ?_, fun h => ?_, fun h => ?_⟩
  · -- the group is kept under the name `a/`, and there is none under `a`
    obtain ⟨-, hbecomes⟩ := c.becomes_of_push Ruler.isPlain_empty hspace b "t"
    have hfetched := h c "t" Ruler.empty b Ruler.isPlain_empty
      ((run_push_eq_ok_iff Ruler.isPlain_empty).2 ⟨_, hspace⟩)
    obtain ⟨key', hkey', hgroup⟩ := (run_fetch_eq_ok_iff hbecomes.plain).1 hfetched
    obtain rfl := hreaches.unique hkey'
    rw [hbecomes.elsewhere key (by decide), Ruler.group?_empty] at hgroup
    cases hgroup
  · obtain ⟨key', hname, hgroup⟩ := h c "t" "a/" _ a hbecomes.plain
      ((run_fetch_eq_ok_iff hbecomes.plain).2 ⟨key, hreaches, hbecomes.here⟩)
    have hne : key' ≠ ⟨"t", "alerts", "a"⟩ := by
      rintro rfl
      exact absurd hname (by decide)
    rw [hbecomes.elsewhere key' hne, Ruler.group?_empty] at hgroup
    cases hgroup
  · have hkept := h c "t" "a/" _ key hbecomes.plain (by decide)
    rw [group?_delete_of_reaches hbecomes.plain hreaches] at hkept
    exact absurd (hkept.trans hbecomes.here) nofun

end Client

end AlertRules
