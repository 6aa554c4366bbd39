/-
AlertRules/Proofs/Placeholder/Sites.lean

Where the rewriting of bracket placeholders changes a text.  A site is the place of the two
opening and the two closing brackets of a placeholder.  `EditedFrom n` says that from position
`n` on a text was changed at its sites, and nowhere else, and that no opener was passed over
other than inside a placeholder.

The rewriting goes on one character behind a pair of brackets that is no opener, but behind the
closer of one that is.  So there are two steps, `EditedFrom.pass` and `EditedFrom.placeholder`,
and a run takes them from the end of the text to its start (`Rewritten.exists_edited`).  All
positions are those of the whole text, so that no step moves any.

What `EditedFrom` says leaves no choice, however the pairs in a run of brackets overlap: a text
has only one such list of sites and only one result (`EditedFrom.sites_eq`,
`EditedFrom.eq_of_edited`).  The main result is `toBraces_local`.
-/
import Mathlib.Data.List.Pairwise
import Mathlib.Data.List.Sort
import AlertRules.Proofs.Placeholder.Notation

namespace AlertRules.Placeholder

variable {p : Char} {cs out out' as bs : List Char} {i j n : Nat}

/-! ### Pairs by position -/

/-- The position `i` is one of the two of a pair at `j`. -/
def InPair (j i : Nat) : Prop := i = j ∨ i = j + 1

/-- The character stands at the position and at the next one. -/
def PairAt (p : Char) (cs : List Char) (i : Nat) : Prop := cs[i]? = some p ∧ cs[i + 1]? = some p

theorem PairAt.getElem? (h : PairAt p cs j) (hi : InPair j i) : cs[i]? = some p := by
  rcases hi with rfl | rfl
  · exact h.1
  · exact h.2

theorem pairAt_iff_drop : PairAt p cs i ↔ ∃ rest, cs.drop i = p :: p :: rest := by
  have hfirst : cs[i]? = (cs.drop i)[0]? := by rw [List.getElem?_drop, Nat.add_zero]
  have hsecond : cs[i + 1]? = (cs.drop i)[1]? := by rw [List.getElem?_drop]
  rw [PairAt, hfirst, hsecond]
  generalize cs.drop i = suffix
  rcases suffix with _ | ⟨a, _ | ⟨b, rest⟩⟩ <;> simp

theorem pairAt_drop : PairAt p (cs.drop n) i ↔ PairAt p cs (n + i) := by
  rw [PairAt, PairAt, List.getElem?_drop, List.getElem?_drop, Nat.add_assoc]

theorem pairAt_append_left (hi : i + 1 < as.length) : PairAt p (as ++ bs) i ↔ PairAt p as i := by
  rw [PairAt, PairAt, List.getElem?_append_left (Nat.lt_of_succ_lt hi),
    List.getElem?_append_left hi]

theorem drop_behind_pair (h : cs.drop i = p :: p :: bs) : cs.drop (i + 2) = bs := by
  rw [← List.drop_drop, h]
  rfl

/-- Behind a pair the positions are those of the text behind it. -/
theorem pairAt_behind_pair (h : cs.drop i = p :: p :: bs) {q : Char} :
    PairAt q cs (i + 2 + n) ↔ PairAt q bs n := by
  rw [← pairAt_drop, drop_behind_pair h]

theorem hasPair_iff_exists_pairAt : HasPair p cs ↔ ∃ i, PairAt p cs i := by
  constructor
  · rintro ⟨before, after, rfl⟩
    exact ⟨before.length, pairAt_iff_drop.2 ⟨after, List.drop_left⟩⟩
  · rintro ⟨i, hi⟩
    obtain ⟨rest, hrest⟩ := pairAt_iff_drop.1 hi
    exact ⟨cs.take i, rest, by rw [← hrest, List.take_append_drop]⟩

/-! ### Openers by position -/

/-- Two brackets at the position open a field reference, and two brackets close it somewhere
behind them. -/
def OpensAt (cs : List Char) (i : Nat) : Prop :=
  PairAt '[' cs i ∧ LeadsToPoint (cs.drop (i + 2)) ∧ ∃ j, i < j ∧ PairAt ']' cs j

/-- Behind two opening brackets, pairs of closing brackets are behind both of them. -/
theorem PairAt.exists_closer_iff (h : PairAt '[' cs i) :
    (∃ j, i < j ∧ PairAt ']' cs j) ↔ HasPair ']' (cs.drop (i + 2)) := by
  rw [hasPair_iff_exists_pairAt]
  constructor
  · rintro ⟨j, hij, hj⟩
    have hne : j ≠ i + 1 := by
      rintro rfl
      exact absurd (h.2.symm.trans hj.1) (by decide)
    refine ⟨j - (i + 2), pairAt_drop.2 ?_⟩
    rwa [show i + 2 + (j - (i + 2)) = j by omega]
  · rintro ⟨k, hk⟩
    exact ⟨i + 2 + k, by omega, pairAt_drop.1 hk⟩

theorem opensAt_iff : OpensAt cs i ↔ StartsOpener (cs.drop i) := by
  constructor
  · rintro ⟨hpair, hpoint, hclosed⟩
    obtain ⟨after, hafter⟩ := pairAt_iff_drop.1 hpair
    rw [hpair.exists_closer_iff, drop_behind_pair hafter] at hclosed
    rw [drop_behind_pair hafter] at hpoint
    exact ⟨after, hafter, opensField_iff.2 hpoint, hclosed⟩
  · rintro ⟨after, hafter, hfield, hclosed⟩
    have hpair : PairAt '[' cs i := pairAt_iff_drop.2 ⟨after, hafter⟩
    rw [OpensAt, hpair.exists_closer_iff, drop_behind_pair hafter]
    exact ⟨hpair, opensField_iff.1 hfield, hclosed⟩

theorem hasOpener_iff_exists_opensAt : HasOpener cs False ↔ ∃ i, OpensAt cs i := by
  rw [hasOpener_false_iff]
  constructor
  · rintro ⟨before, suffix, rfl, hsuffix⟩
    exact ⟨before.length, opensAt_iff.2 (by rwa [List.drop_left])⟩
  · rintro ⟨i, hi⟩
    exact ⟨cs.take i, cs.drop i, (List.take_append_drop i cs).symm, opensAt_iff.1 hi⟩

/-! ### Sites -/

/-- The positions of two opening brackets and of two closing brackets behind them. -/
@[ext]
structure Site where
  opener : Nat
  closer : Nat
  opener_le : opener + 2 ≤ closer
  deriving DecidableEq, Repr

namespace Site

variable {s t : Site}

/-- One of the four characters of the site is at the position. -/
def Covers (s : Site) (i : Nat) : Prop := InPair s.opener i ∨ InPair s.closer i

/-- The first site ends where the second one starts, or before. -/
def Before (s t : Site) : Prop := s.closer + 2 ≤ t.opener

theorem Before.opener_lt (h : s.Before t) : s.opener < t.opener := by
  have hs := s.opener_le
  unfold Before at h
  omega

instance : Std.Irrefl Before := ⟨fun _ h => Nat.lt_irrefl _ h.opener_lt⟩

instance : Std.Antisymm Before :=
  ⟨fun _ _ h h' => absurd (Nat.lt_trans h.opener_lt h'.opener_lt) (Nat.lt_irrefl _)⟩

/-- The site is that of a placeholder of the text: the opening brackets lead to a field reference,
and the closing ones are the first two in a row behind them. -/
structure Marks (s : Site) (cs : List Char) : Prop where
  opens : PairAt '[' cs s.opener
  leads : LeadsToPoint (cs.drop (s.opener + 2))
  closes : PairAt ']' cs s.closer
  first : ∀ i, s.opener < i → i < s.closer → ¬ PairAt ']' cs i

theorem opener_lt (s : Site) : s.opener < s.closer := Nat.lt_of_succ_lt s.opener_le

theorem Marks.opensAt (h : s.Marks cs) : OpensAt cs s.opener :=
  ⟨h.opens, h.leads, s.closer, s.opener_lt, h.closes⟩

/-- The opener decides which closer is its own. -/
theorem Marks.eq_of_opener_eq (h : s.Marks cs) (h' : t.Marks cs) (heq : s.opener = t.opener) :
    s = t := by
  refine Site.ext heq ?_
  rcases Nat.lt_trichotomy s.closer t.closer with hlt | hcloser | hlt
  · exact absurd h.closes (h'.first _ (heq ▸ s.opener_lt) hlt)
  · exact hcloser
  · exact absurd h'.closes (h.first _ (heq.symm ▸ t.opener_lt) hlt)

/-- The site of a placeholder that starts at the position and has so many characters between its
brackets. -/
def around (start length : Nat) : Site := ⟨start, start + 2 + length, Nat.le_add_right _ _⟩

section Around

variable (as inner rest : List Char) (p q : Char)

theorem pairAt_opener_around :
    PairAt p (as ++ p :: p :: (inner ++ q :: q :: rest)) (around as.length inner.length).opener :=
  pairAt_iff_drop.2 ⟨_, List.drop_left⟩

theorem pairAt_closer_around :
    PairAt q (as ++ p :: p :: (inner ++ q :: q :: rest)) (around as.length inner.length).closer :=
  (pairAt_behind_pair List.drop_left).2 (pairAt_iff_drop.2 ⟨_, List.drop_left⟩)

variable {inner}

/-- A placeholder stands where it is put. -/
theorem marks_around (hfield : opensField inner = true) (hfirst : ¬ HasPair ']' (inner ++ [']'])) :
    (around as.length inner.length).Marks (as ++ '[' :: '[' :: (inner ++ ']' :: ']' :: rest)) where
  opens := pairAt_opener_around as inner rest '[' ']'
  leads := by
    rw [around, drop_behind_pair List.drop_left]
    exact opensField_iff.1 (opensField_append hfield _)
  closes := pairAt_closer_around as inner rest '[' ']'
  first := by
    intro i hopener hcloser hpair
    rcases Nat.eq_or_lt_of_le hopener with rfl | hbehind
    · -- the second bracket of the opener
      have hopens := (pairAt_opener_around as inner rest '[' ']').2
      exact absurd (hopens.symm.trans hpair.1) (by decide)
    · -- between the brackets, or with the first bracket of the closer
      obtain ⟨k, rfl⟩ := Nat.exists_eq_add_of_le (show as.length + 2 ≤ i from hbehind)
      have hk : k + 1 < (inner ++ [']']).length := by
        simp only [around] at hcloser
        simp only [List.length_append, List.length_singleton]
        omega
      have hinner : PairAt ']' ((inner ++ [']']) ++ ']' :: rest) k := by
        rw [List.append_assoc]
        exact (pairAt_behind_pair List.drop_left).1 hpair
      exact hfirst (hasPair_iff_exists_pairAt.2 ⟨k, (pairAt_append_left hk).1 hinner⟩)

end Around

end Site

/-! ### Edits -/

variable {sites sites' : List Site} {s t : Site}

/-- From the position on, the second text is the first one with braces for the brackets at the
sites.  The sites are those of placeholders, one behind the other, and every opener from the
position on is one of theirs or stands inside one of the placeholders. -/
structure EditedFrom (n : Nat) (cs out : List Char) (sites : List Site) : Prop where
  behind : ∀ s ∈ sites, n ≤ s.opener
  ordered : sites.Pairwise Site.Before
  marks : ∀ s ∈ sites, s.Marks cs
  opened : ∀ s ∈ sites, PairAt '{' out s.opener
  closed : ∀ s ∈ sites, PairAt '}' out s.closer
  kept : ∀ i, n ≤ i → (∀ s ∈ sites, ¬ s.Covers i) → out[i]? = cs[i]?
  complete : ∀ i, n ≤ i → OpensAt cs i → ∃ s ∈ sites, s.opener ≤ i ∧ i < s.closer

namespace EditedFrom

theorem last (hlen : out.length = cs.length) : EditedFrom cs.length cs out [] where
  behind := nofun
  ordered := .nil
  marks := nofun
  opened := nofun
  closed := nofun
  kept i hi _ := by
    rw [List.getElem?_eq_none hi, List.getElem?_eq_none (hlen ▸ hi)]
  complete i hi hopens := by
    have hfirst := hopens.1.1
    rw [List.getElem?_eq_none hi] at hfirst
    cases hfirst

/-- A character that is the same in both texts is passed, unless an opener starts there. -/
theorem pass (h : EditedFrom (n + 1) cs out sites) (hsame : out[n]? = cs[n]?)
    (hopens : ¬ OpensAt cs n) : EditedFrom n cs out sites where
  behind s hs := Nat.le_of_succ_le (h.behind s hs)
  ordered := h.ordered
  marks := h.marks
  opened := h.opened
  closed := h.closed
  kept i hi huncovered := by
    rcases Nat.eq_or_lt_of_le hi with rfl | hlt
    · exact hsame
    · exact h.kept i hlt huncovered
  complete i hi hat := by
    rcases Nat.eq_or_lt_of_le hi with rfl | hlt
    · exact absurd hat hopens
    · exact h.complete i hlt hat

/-- A placeholder is passed as a whole: whatever opens inside it is no site of its own. -/
theorem placeholder (h : EditedFrom (s.closer + 2) cs out sites) (hs : s.Marks cs)
    (hopened : PairAt '{' out s.opener) (hclosed : PairAt '}' out s.closer)
    (hsame : ∀ i, s.opener + 2 ≤ i → i < s.closer → out[i]? = cs[i]?) :
    EditedFrom s.opener cs out (s :: sites) where
  behind := by
    refine List.forall_mem_cons.2 ⟨Nat.le_refl _, fun t ht => ?_⟩
    have hbehind := h.behind t ht
    have hs := s.opener_lt
    omega
  ordered := .cons h.behind h.ordered
  marks := List.forall_mem_cons.2 ⟨hs, h.marks⟩
  opened := List.forall_mem_cons.2 ⟨hopened, h.opened⟩
  closed := List.forall_mem_cons.2 ⟨hclosed, h.closed⟩
  kept i hi huncovered := by
    obtain ⟨hthis, hothers⟩ := List.forall_mem_cons.1 huncovered
    simp only [Site.Covers, InPair, not_or] at hthis
    by_cases hinside : i < s.closer
    · exact hsame i (by omega) hinside
    · exact h.kept i (by omega) hothers
  complete i hi hat := by
    by_cases hinside : i < s.closer
    · exact ⟨s, List.mem_cons_self, hi, hinside⟩
    · -- the closing brackets open nothing
      have hbracket : ¬ InPair s.closer i := fun hin =>
        absurd (hat.1.1.symm.trans (hs.closes.getElem? hin)) (by decide)
      simp only [InPair, not_or] at hbracket
      obtain ⟨t, ht, hin⟩ := h.complete i (by omega) hat
      exact ⟨t, List.mem_cons_of_mem _ ht, hin⟩

end EditedFrom

/-- Whatever equally long texts stand in front, the rewriting of the rest is an edit from there
on. -/
theorem Rewritten.exists_edited (h : Rewritten cs out) (as bs : List Char)
    (hlen : bs.length = as.length) :
    ∃ sites, EditedFrom as.length (as ++ cs) (bs ++ out) sites := by
  induction h generalizing as bs with
  | nil =>
    rw [List.append_nil, List.append_nil]
    exact ⟨[], .last hlen⟩
  | @char c cs out hstart _ ih =>
    obtain ⟨sites, hsites⟩ := ih (as ++ [c]) (bs ++ [c]) (by simp [hlen])
    rw [List.append_assoc, List.append_assoc, List.length_append] at hsites
    refine ⟨sites, hsites.pass ?_ ?_⟩
    · rw [List.getElem?_append_right (Nat.le_refl _), List.getElem?_append_right hlen.le, hlen,
        Nat.sub_self]
      rfl
    · rw [opensAt_iff, List.drop_left]
      exact hstart
  | @placeholder inner rest out hfield hfirst _ ih =>
    obtain ⟨sites, hsites⟩ := ih (as ++ '[' :: '[' :: (inner ++ [']', ']']))
      (bs ++ '{' :: '{' :: (inner ++ ['}', '}'])) (by simp [hlen])
    have hend : (as ++ '[' :: '[' :: (inner ++ [']', ']'])).length =
        (Site.around as.length inner.length).closer + 2 := by
      simp only [List.length_append, List.length_cons, List.length_nil, Site.around]
      omega
    rw [hend] at hsites
    simp only [List.append_assoc, List.cons_append, List.nil_append] at hsites
    refine ⟨Site.around as.length inner.length :: sites, hsites.placeholder ?_ ?_ ?_ ?_⟩
    · exact Site.marks_around as rest hfield hfirst
    · exact hlen ▸ Site.pairAt_opener_around bs inner out '{' '}'
    · exact hlen ▸ Site.pairAt_closer_around bs inner out '{' '}'
    · intro i hopener hcloser
      obtain ⟨k, rfl⟩ := Nat.exists_eq_add_of_le (show as.length + 2 ≤ i from hopener)
      have hk : k < inner.length := by
        simp only [Site.around] at hcloser
        omega
      rw [← List.getElem?_drop, ← List.getElem?_drop, drop_behind_pair List.drop_left, ← hlen,
        drop_behind_pair List.drop_left, List.getElem?_append_left hk,
        List.getElem?_append_left hk]

/-! ### Only one edit -/

namespace EditedFrom

/-- Of two sites, the one that starts or ends first is before the other. -/
theorem before_of_lt (h : EditedFrom n cs out sites) (hs : s ∈ sites) (ht : t ∈ sites)
    (hlt : s.opener < t.opener ∨ s.closer < t.closer) : s.Before t := by
  have hpairwise : sites.Pairwise fun s t => s.Before t ∨ t.Before s := h.ordered.imp .inl
  have hsymm : Std.Symm fun s t : Site => s.Before t ∨ t.Before s := ⟨fun _ _ => Or.symm⟩
  have hne : s ≠ t := by
    rintro rfl
    exact hlt.elim (Nat.lt_irrefl _) (Nat.lt_irrefl _)
  refine (hpairwise.forall hs ht hne).resolve_right fun hts => ?_
  have hs := s.opener_le
  have ht := t.opener_le
  unfold Site.Before at hts
  omega

/-- Sites of one edit are sites of every other: the first site that is not would have its opener
inside a placeholder of the other edit, which is then one of the first edit as well. -/
theorem mem_sites (h : EditedFrom n cs out sites) (h' : EditedFrom n cs out' sites')
    (hs : s ∈ sites) : s ∈ sites' := by
  induction hn : s.opener using Nat.strong_induction_on
    generalizing s sites sites' out out' with
  | _ m ih =>
    subst hn
    obtain ⟨t, ht, hle, hin⟩ := h'.complete s.opener (h.behind s hs) (h.marks s hs).opensAt
    rcases Nat.eq_or_lt_of_le hle with heq | hlt
    · rwa [← (h'.marks t ht).eq_of_opener_eq (h.marks s hs) heq]
    · -- an earlier opener, so the other edit's site is already known to be one of this edit
      have ht' : t ∈ sites := ih t.opener hlt h' h ht rfl
      have hbefore : t.closer + 2 ≤ s.opener := h.before_of_lt ht' hs (.inl hlt)
      omega

theorem sites_eq (h : EditedFrom n cs out sites) (h' : EditedFrom n cs out' sites') :
    sites = sites' :=
  h.ordered.eq_of_mem_iff h'.ordered fun _ => ⟨h.mem_sites h', h'.mem_sites h⟩

/-- The four characters of each site, and no others, are different from before. -/
theorem ne_iff (h : EditedFrom n cs out sites) (hi : n ≤ i) :
    out[i]? ≠ cs[i]? ↔ ∃ s ∈ sites, s.Covers i := by
  constructor
  · intro hne
    by_contra huncovered
    exact hne (h.kept i hi fun s hs hcovers => huncovered ⟨s, hs, hcovers⟩)
  · rintro ⟨s, hs, hopener | hcloser⟩
    · rw [(h.opened s hs).getElem? hopener, (h.marks s hs).opens.getElem? hopener]
      decide
    · rw [(h.closed s hs).getElem? hcloser, (h.marks s hs).closes.getElem? hcloser]
      decide

theorem eq_of_edited (h : EditedFrom 0 cs out sites) (h' : EditedFrom 0 cs out' sites') :
    out = out' := by
  obtain rfl := h.sites_eq h'
  refine List.ext_getElem? fun i => ?_
  by_cases hcovered : ∃ s ∈ sites, s.Covers i
  · obtain ⟨s, hs, hopener | hcloser⟩ := hcovered
    · rw [(h.opened s hs).getElem? hopener, (h'.opened s hs).getElem? hopener]
    · rw [(h.closed s hs).getElem? hcloser, (h'.closed s hs).getElem? hcloser]
  · have huncovered : ∀ s ∈ sites, ¬ s.Covers i := fun s hs hcovers => hcovered ⟨s, hs, hcovers⟩
    rw [h.kept i (Nat.zero_le i) huncovered, h'.kept i (Nat.zero_le i) huncovered]

end EditedFrom

/-! ### Ranges -/

/-- A bracket as the ranges of a query have them: none of its kind is beside it, or it stands
directly before the opener or behind the closer of a placeholder. -/
inductive RangeBracket (cs : List Char) (sites : List Site) (i : Nat) : Prop
  | alone {p : Char} : cs[i]? = some p → (∀ j, InPair j i → ¬ PairAt p cs j) →
      RangeBracket cs sites i
  | opens {s : Site} : s ∈ sites → i + 1 = s.opener → cs[i]? = some '[' → RangeBracket cs sites i
  | closes {s : Site} : s ∈ sites → i = s.closer + 2 → cs[i]? = some ']' →
      RangeBracket cs sites i

theorem EditedFrom.kept_range (h : EditedFrom n cs out sites) (hi : n ≤ i)
    (hrange : RangeBracket cs sites i) : out[i]? = cs[i]? := by
  refine h.kept i hi fun t ht hcovers => ?_
  have hopener : InPair t.opener i → cs[i]? = some '[' := (h.marks t ht).opens.getElem?
  have hcloser : InPair t.closer i → cs[i]? = some ']' := (h.marks t ht).closes.getElem?
  have hle := t.opener_le
  cases hrange with
  | @alone p hp hpair =>
    rcases hcovers with hin | hin
    · obtain rfl := Option.some.inj (hp.symm.trans (hopener hin))
      exact hpair _ hin (h.marks t ht).opens
    · obtain rfl := Option.some.inj (hp.symm.trans (hcloser hin))
      exact hpair _ hin (h.marks t ht).closes
  | @opens s hs hplace hp =>
    -- the two openers would overlap
    have hin : i = t.opener ∨ i = t.opener + 1 := hcovers.resolve_right fun hin =>
      absurd (hp.symm.trans (hcloser hin)) (by decide)
    have hbefore : t.closer + 2 ≤ s.opener := h.before_of_lt ht hs (.inl (by omega))
    omega
  | @closes s hs hplace hp =>
    -- the two closers would overlap
    have hin : i = t.closer ∨ i = t.closer + 1 := hcovers.resolve_left fun hin =>
      absurd (hp.symm.trans (hopener hin)) (by decide)
    have hbefore : s.closer + 2 ≤ t.opener := h.before_of_lt hs ht (.inr (by omega))
    omega

/-! ### The rewriting -/

theorem exists_edited_toBraces (cs : List Char) :
    ∃ sites, EditedFrom 0 cs (toBraces cs) sites :=
  (rewritten_toBraces cs).exists_edited [] [] rfl

theorem Rewritten.length_eq (h : Rewritten cs out) : out.length = cs.length := by
  induction h with
  | nil => rfl
  | char _ _ ih => rw [List.length_cons, List.length_cons, ih]
  | placeholder _ _ _ ih => simp [ih]

/-- Brackets and braces take one byte each. -/
theorem Rewritten.utf8ByteSize_eq (h : Rewritten cs out) :
    (String.ofList out).utf8ByteSize = (String.ofList cs).utf8ByteSize := by
  induction h with
  | nil => rfl
  | char _ _ ih => simp [String.ofList_cons, ih]
  | placeholder _ _ _ ih =>
    simp only [String.ofList_cons, String.ofList_append, String.utf8ByteSize_append,
      String.utf8ByteSize_singleton, ih]
    rfl

/-- The rewriting of bracket placeholders is a local edit of the text.  There are sites, each of an
opener that leads to a field reference and of its first closer, one behind the other; the result
has braces there and is the text everywhere else, so that the brackets of ranges stay, and it is as
long as the text, in characters and in bytes.  Nothing is left to choose: no opener is passed over
but inside a placeholder, and this leaves one list of sites and one result.  A text is left as it
is exactly if nothing opens in it. -/
theorem toBraces_local (cs : List Char) :
    (∃ sites, EditedFrom 0 cs (toBraces cs) sites ∧
      (∀ i, (toBraces cs)[i]? ≠ cs[i]? ↔ ∃ s ∈ sites, s.Covers i) ∧
      (∀ i, RangeBracket cs sites i → (toBraces cs)[i]? = cs[i]?) ∧
      ∀ out sites', EditedFrom 0 cs out sites' → sites' = sites ∧ out = toBraces cs) ∧
    (toBraces cs).length = cs.length ∧
    (String.ofList (toBraces cs)).utf8ByteSize = (String.ofList cs).utf8ByteSize ∧
    (toBraces cs = cs ↔ ∀ i, ¬ OpensAt cs i) := by
  have hrewritten := rewritten_toBraces cs
  obtain ⟨sites, hedited⟩ := exists_edited_toBraces cs
  refine ⟨⟨sites, hedited, ?_, ?_, ?_⟩, hrewritten.length_eq, hrewritten.utf8ByteSize_eq, ?_⟩
  · exact fun i => hedited.ne_iff (Nat.zero_le i)
  · exact fun i => hedited.kept_range (Nat.zero_le i)
  · exact fun out sites' hother => ⟨hother.sites_eq hedited, hother.eq_of_edited hedited⟩
  · rw [toBraces_eq_self_iff, hasOpener_iff_exists_opensAt, not_exists]

/-- In a run of brackets the last two open and the first two close. -/
example : toBraces "[[[[.a]]]] x[5m]".toList = "[[\x7b\x7b.a\x7d\x7d]] x[5m]".toList := by
  decide +kernel

end AlertRules.Placeholder
