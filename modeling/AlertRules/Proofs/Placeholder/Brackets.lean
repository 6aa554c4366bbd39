/-
AlertRules/Proofs/Placeholder/Brackets.lean

What the rewriting of bracket placeholders does to a text.  `Rewritten` spells it out piece by
piece, a character that stays or a pair of brackets with what is between them, and
`rewritten_toBraces` says that the rewriting does that; the facts about it are proved by
induction on the pieces.

A text is left alone exactly if there is no opener in it (`toBraces_eq_self_iff`), and has
braces after the rewriting exactly if it had some before or an opener
(`hasPair_toBraces_iff`).  The rewriting looks at a text once: brackets that look like an opener
in the result are nested in a placeholder of the original (`Rewritten.nested`).
-/
import Mathlib.Data.List.Basic
import AlertRules.Placeholder.Brackets

namespace AlertRules.Placeholder

/-! ### Pairs -/

/-- The character stands twice in a row somewhere. -/
def HasPair (p : Char) (cs : List Char) : Prop := ∃ before after, cs = before ++ p :: p :: after

variable {p q a : Char} {cs as bs before after : List Char}

theorem not_hasPair_nil (p : Char) : ¬ HasPair p [] := by
  rintro ⟨before, after, h⟩
  simp at h

theorem HasPair.mem (h : HasPair p cs) : p ∈ cs := by
  obtain ⟨before, after, rfl⟩ := h
  simp

theorem hasPair_cons : HasPair p (a :: cs) ↔ a = p ∧ cs.head? = some p ∨ HasPair p cs := by
  constructor
  · rintro ⟨before, after, h⟩
    cases before with
    | nil =>
      obtain ⟨rfl, rfl⟩ := List.cons.inj h
      exact .inl ⟨rfl, rfl⟩
    | cons b before => exact .inr ⟨before, after, (List.cons.inj h).2⟩
  · rintro (⟨rfl, hhead⟩ | ⟨before, after, rfl⟩)
    · obtain ⟨after, rfl⟩ := List.head?_eq_some_iff.1 hhead
      exact ⟨[], after, rfl⟩
    · exact ⟨a :: before, after, rfl⟩

/-- A pair in two texts together is in one of them, or stands where they meet. -/
theorem hasPair_append : HasPair p (as ++ bs) ↔
    HasPair p as ∨ HasPair p bs ∨ as.getLast? = some p ∧ bs.head? = some p := by
  induction as with
  | nil => simp [not_hasPair_nil]
  | cons a as ih =>
    rw [List.cons_append, hasPair_cons, ih, hasPair_cons]
    cases as with
    | nil =>
      simp only [List.nil_append, List.head?_nil, List.getLast?_nil, List.getLast?_singleton,
        Option.some_inj, not_hasPair_nil, reduceCtorEq, and_false, false_and, false_or, or_false]
      exact or_comm
    | cons b as =>
      simp only [List.cons_append, List.head?_cons, List.getLast?_cons_cons]
      exact or_assoc.symm

/-- A pair does not reach across a text that does not have its character. -/
theorem hasPair_append_of_not_mem {v : List Char} (hne : v ≠ []) (hp : p ∉ v) :
    HasPair p (as ++ (v ++ bs)) ↔ HasPair p as ∨ HasPair p bs := by
  have hv : ¬ HasPair p v := fun h => hp h.mem
  have hfirst : (v ++ bs).head? ≠ some p := by
    rw [List.head?_append_of_ne_nil _ hne]
    exact fun h => hp (List.mem_of_mem_head? h)
  have hlast : v.getLast? ≠ some p := fun h => hp (List.mem_of_getLast? h)
  rw [hasPair_append, hasPair_append]
  simp only [hv, hfirst, hlast, false_and, and_false, or_false, false_or]

theorem HasPair.append_left (h : HasPair p bs) (as : List Char) : HasPair p (as ++ bs) :=
  hasPair_append.2 (.inr (.inl h))

theorem HasPair.append_right (h : HasPair p as) (bs : List Char) : HasPair p (as ++ bs) :=
  hasPair_append.2 (.inl h)

/-- Two pairs of different characters do not overlap. -/
theorem pairs_apart (hne : p ≠ q) {x y : List Char}
    (h : before ++ p :: p :: after = x ++ q :: q :: y) :
    (∃ s, x = before ++ p :: p :: s ∧ after = s ++ q :: q :: y) ∨
      ∃ s, before = x ++ q :: q :: s ∧ y = s ++ p :: p :: after := by
  rcases List.append_eq_append_iff.1 h with ⟨s, rfl, hs⟩ | ⟨s, rfl, hs⟩
  · rcases s with _ | ⟨c, _ | ⟨d, s⟩⟩
    · exact absurd (List.cons.inj hs).1 hne
    · exact absurd (List.cons.inj (List.cons.inj hs).2).1 hne
    · simp only [List.cons_append, List.cons.injEq] at hs
      obtain ⟨rfl, rfl, hs⟩ := hs
      exact .inl ⟨s, rfl, hs⟩
  · rcases s with _ | ⟨c, _ | ⟨d, s⟩⟩
    · exact absurd (List.cons.inj hs).1.symm hne
    · exact absurd (List.cons.inj (List.cons.inj hs).2).1.symm hne
    · simp only [List.cons_append, List.cons.injEq] at hs
      obtain ⟨rfl, rfl, hs⟩ := hs
      exact .inr ⟨s, rfl, hs⟩

/-! ### The first pair -/

theorem breakAtPair?_eq_none_iff : breakAtPair? p cs = none ↔ ¬ HasPair p cs := by
  induction cs with
  | nil => simp [breakAtPair?, not_hasPair_nil]
  | cons a cs ih =>
    cases cs with
    | nil => simp [breakAtPair?, hasPair_cons, not_hasPair_nil]
    | cons b cs =>
      rw [breakAtPair?, hasPair_cons]
      by_cases hpair : a = p ∧ b = p
      · simp [hpair]
      · rw [if_neg hpair, Option.map_eq_none_iff, ih]
        simp only [List.head?_cons, Option.some_inj, hpair, false_or]

instance : Decidable (HasPair p cs) :=
  decidable_of_iff (breakAtPair? p cs ≠ none) (by rw [ne_eq, breakAtPair?_eq_none_iff, not_not])

/-- The text before the first pair has none, even with one of its characters added. -/
theorem not_hasPair_of_breakAtPair? (h : breakAtPair? p cs = some (before, after)) :
    ¬ HasPair p (before ++ [p]) := by
  induction cs generalizing before with
  | nil => simp [breakAtPair?] at h
  | cons a cs ih =>
    cases cs with
    | nil => simp [breakAtPair?] at h
    | cons b cs =>
      rw [breakAtPair?] at h
      split at h
      · cases h
        simp [hasPair_cons, not_hasPair_nil]
      · next hpair =>
        obtain ⟨⟨rest, behind⟩, hrest, hsplit⟩ := Option.map_eq_some_iff.1 h
        cases hsplit
        rw [List.cons_append, hasPair_cons, not_or]
        refine ⟨?_, ih hrest⟩
        rintro ⟨rfl, hhead⟩
        -- what follows `a` starts as the whole of it does
        have hstart := congrArg List.head? (breakAtPair?_eq hrest)
        refine hpair ⟨rfl, Option.some.inj (hstart.trans ?_)⟩
        cases rest <;> exact hhead

/-- A pair that nothing before it makes is the one that is found. -/
theorem breakAtPair?_append (h : ¬ HasPair p (before ++ [p])) (after : List Char) :
    breakAtPair? p (before ++ p :: p :: after) = some (before, after) := by
  induction before with
  | nil => simp [breakAtPair?]
  | cons a before ih =>
    rw [List.cons_append, hasPair_cons, not_or] at h
    obtain ⟨hstart, hrest⟩ := h
    cases before with
    | nil =>
      have hne : a ≠ p := fun hap => hstart ⟨hap, rfl⟩
      simp [breakAtPair?, hne]
    | cons b before =>
      have hne : ¬ (a = p ∧ b = p) := by
        rintro ⟨hap, rfl⟩
        exact hstart ⟨hap, rfl⟩
      have hfound := ih hrest
      rw [List.cons_append] at hfound
      rw [List.cons_append, List.cons_append, breakAtPair?, if_neg hne, hfound]
      rfl

/-! ### Openers -/

/-- The text starts with two brackets that open a placeholder. -/
def StartsOpener (cs : List Char) : Prop :=
  ∃ after, cs = '[' :: '[' :: after ∧ opensField after = true ∧ HasPair ']' after

/-- Two brackets in the text open a field reference, and they are closed in the rest of the
text, unless something later closes them. -/
def HasOpener (cs : List Char) (later : Prop) : Prop :=
  ∃ before after, cs = before ++ '[' :: '[' :: after ∧ opensField after = true ∧
    (HasPair ']' after ∨ later)

theorem hasOpener_false_iff : HasOpener cs False ↔
    ∃ before suffix, cs = before ++ suffix ∧ StartsOpener suffix := by
  constructor
  · rintro ⟨before, after, rfl, hfield, hpair⟩
    exact ⟨before, _, rfl, after, rfl, hfield, hpair.resolve_right id⟩
  · rintro ⟨before, _, rfl, after, rfl, hfield, hpair⟩
    exact ⟨before, after, rfl, hfield, .inl hpair⟩

theorem not_hasOpener_nil (later : Prop) : ¬ HasOpener [] later := by
  rintro ⟨before, after, h, -⟩
  simp at h

theorem hasOpener_cons :
    HasOpener (a :: cs) False ↔ StartsOpener (a :: cs) ∨ HasOpener cs False := by
  rw [hasOpener_false_iff, hasOpener_false_iff]
  constructor
  · rintro ⟨before, suffix, h, hsuffix⟩
    cases before with
    | nil => exact .inl (h ▸ hsuffix)
    | cons b before => exact .inr ⟨before, suffix, (List.cons.inj h).2, hsuffix⟩
  · rintro (hstart | ⟨before, suffix, rfl, hsuffix⟩)
    · exact ⟨[], _, rfl, hstart⟩
    · exact ⟨a :: before, suffix, rfl, hsuffix⟩

/-- The characters that may stand before the full stop of a field reference. -/
def isLead (c : Char) : Bool := c == '-' || c == ' ' || c == '\t'

theorem opensField_cons (c : Char) (cs : List Char) :
    opensField (c :: cs) = if isLead c then opensField cs else c == '.' := by
  unfold opensField
  rw [List.dropWhile_cons]
  by_cases hc : isLead c = true
  · rw [if_pos hc, if_pos (show (c == '-' || c == ' ' || c == '\t') = true from hc)]
  · rw [if_neg hc, if_neg (show ¬ (c == '-' || c == ' ' || c == '\t') = true from hc)]
    rfl

/-- A field reference needs a full stop behind characters of one kind, so what stands behind
the text makes no difference if it has neither in front. -/
theorem opensField_append_cons {c : Char} (hlead : isLead c = false) (hc : c ≠ '.')
    (cs behind : List Char) : opensField (cs ++ c :: behind) = opensField cs := by
  induction cs with
  | nil => rw [List.nil_append, opensField_cons, if_neg (by simp [hlead])]; simp [hc, opensField]
  | cons d cs ih => rw [List.cons_append, opensField_cons, opensField_cons, ih]

theorem opensField_append (h : opensField cs = true) (behind : List Char) :
    opensField (cs ++ behind) = true := by
  induction cs with
  | nil => cases h
  | cons d cs ih =>
    rw [List.cons_append, opensField_cons]
    rw [opensField_cons] at h
    split at h
    · next hlead => rw [if_pos hlead]; exact ih h
    · next hlead => rw [if_neg hlead]; exact h

/-! ### The rewriting -/

/-- The second text is the first one with its bracket placeholders in brace notation. -/
inductive Rewritten : List Char → List Char → Prop
  | nil : Rewritten [] []
  | char {c : Char} {cs out : List Char} :
      ¬ StartsOpener (c :: cs) → Rewritten cs out → Rewritten (c :: cs) (c :: out)
  | placeholder {inner rest out : List Char} :
      opensField inner = true → ¬ HasPair ']' (inner ++ [']']) → Rewritten rest out →
      Rewritten ('[' :: '[' :: (inner ++ ']' :: ']' :: rest))
        ('{' :: '{' :: (inner ++ '}' :: '}' :: out))

/-- Where no opener starts, the rewriting goes on behind the first character. -/
theorem toBraces_cons (h : ¬ StartsOpener (a :: cs)) : toBraces (a :: cs) = a :: toBraces cs := by
  cases cs with
  | nil => simp [toBraces]
  | cons b after =>
    rw [toBraces]
    split
    · next hopens =>
      obtain ⟨rfl, rfl, hfield⟩ := hopens
      split
      · next inner rest hbreak =>
        exact absurd ⟨after, rfl, hfield, inner, rest, breakAtPair?_eq hbreak⟩ h
      · rfl
    · rfl

theorem toBraces_placeholder {inner : List Char} (hfield : opensField inner = true)
    (hfirst : ¬ HasPair ']' (inner ++ [']'])) (rest : List Char) :
    toBraces ('[' :: '[' :: (inner ++ ']' :: ']' :: rest)) =
      '{' :: '{' :: (inner ++ '}' :: '}' :: toBraces rest) := by
  have hbreak := breakAtPair?_append hfirst rest
  rw [toBraces, if_pos ⟨rfl, rfl, opensField_append hfield _⟩]
  split
  · next hbreak' =>
    rw [hbreak] at hbreak'
    cases hbreak'
    rfl
  · next hnone => rw [hbreak] at hnone; cases hnone

/-- A text without two brackets in a row stays, if its last character does not make an opener
with what follows. -/
theorem toBraces_append (has : ¬ HasPair '[' as)
    (hseam : ∀ c ∈ as.getLast?, ¬ StartsOpener (c :: bs)) :
    toBraces (as ++ bs) = as ++ toBraces bs := by
  induction as with
  | nil => rfl
  | cons a as ih =>
    rw [hasPair_cons, not_or] at has
    have hstart : ¬ StartsOpener (a :: (as ++ bs)) := by
      cases as with
      | nil => exact hseam a rfl
      | cons b as =>
        rintro ⟨after, h, -⟩
        obtain ⟨rfl, hrest⟩ := List.cons.inj h
        exact has.1 ⟨rfl, congrArg some (List.cons.inj hrest).1⟩
    have hlater : ∀ c ∈ as.getLast?, ¬ StartsOpener (c :: bs) := by
      cases as with
      | nil => nofun
      | cons b as => exact hseam
    rw [List.cons_append, toBraces_cons hstart, ih has.2 hlater, List.cons_append]

theorem rewritten_toBraces (cs : List Char) : Rewritten cs (toBraces cs) := by
  induction cs using toBraces.induct with
  | case1 => rw [toBraces]; exact .nil
  | case2 a =>
    rw [toBraces]
    exact .char (by rintro ⟨after, h, -⟩; cases h) .nil
  | case3 a b after hopens inner rest hbreak ih =>
    obtain ⟨rfl, rfl, hfield⟩ := hopens
    have hsplit := breakAtPair?_eq hbreak
    have hfirst := not_hasPair_of_breakAtPair? hbreak
    have hinner : opensField inner = true := by
      rwa [hsplit, opensField_append_cons rfl (by decide)] at hfield
    rw [hsplit, toBraces_placeholder hinner hfirst]
    exact .placeholder hinner hfirst ih
  | case4 a b after hopens hbreak ih =>
    have hstart : ¬ StartsOpener (a :: b :: after) := by
      rintro ⟨after', h, -, hpair⟩
      cases h
      exact breakAtPair?_eq_none_iff.1 hbreak hpair
    rw [toBraces_cons hstart]
    exact .char hstart ih
  | case5 a b after hopens ih =>
    have hstart : ¬ StartsOpener (a :: b :: after) := by
      rintro ⟨after', h, hfield, -⟩
      cases h
      exact hopens ⟨rfl, rfl, hfield⟩
    rw [toBraces_cons hstart]
    exact .char hstart ih

/-- The text has a bracket placeholder, between whose brackets there is `inner`. -/
def Encloses (cs inner : List Char) : Prop :=
  ∃ before behind, cs = before ++ '[' :: '[' :: (inner ++ ']' :: ']' :: behind) ∧
    opensField inner = true ∧ ¬ HasPair ']' (inner ++ [']'])

theorem Encloses.append_left {inner : List Char} (h : Encloses cs inner) (as : List Char) :
    Encloses (as ++ cs) inner := by
  obtain ⟨before, behind, rfl, hinner⟩ := h
  exact ⟨as ++ before, behind, (List.append_assoc ..).symm, hinner⟩

namespace Rewritten

variable {out : List Char}

/-- Only brackets change to braces, so any other character that the one text starts with is
what the other starts with. -/
theorem head?_iff (h : Rewritten cs out) {c : Char} (hopen : c ≠ '[') (hbrace : c ≠ '{') :
    cs.head? = some c ↔ out.head? = some c := by
  cases h with
  | nil => rfl
  | char => rfl
  | placeholder =>
    simp only [List.head?_cons, Option.some_inj]
    exact ⟨fun h => absurd h.symm hopen, fun h => absurd h.symm hbrace⟩

theorem opensField_eq (h : Rewritten cs out) : opensField out = opensField cs := by
  induction h with
  | nil => rfl
  | char _ _ ih => rw [opensField_cons, opensField_cons, ih]
  | placeholder => rfl

/-- Closers do not come about. -/
theorem hasPair_of_hasPair (h : Rewritten cs out) (hpair : HasPair ']' out) : HasPair ']' cs := by
  induction h with
  | nil => exact hpair
  | @placeholder inner rest _ _ _ _ _ => exact ⟨'[' :: '[' :: inner, rest, rfl⟩
  | char _ hrest ih =>
    rw [hasPair_cons] at hpair ⊢
    rcases hpair with ⟨hc, hhead⟩ | hpair
    · exact .inl ⟨hc, (hrest.head?_iff (by decide) (by decide)).2 hhead⟩
    · exact .inr (ih hpair)

/-- Braces come about where there is an opener, and only there. -/
theorem hasPair_brace_iff (h : Rewritten cs out) :
    HasPair '{' out ↔ HasPair '{' cs ∨ HasOpener cs False := by
  induction h with
  | nil =>
    exact iff_of_false (not_hasPair_nil _) (not_or.2 ⟨not_hasPair_nil _, not_hasOpener_nil _⟩)
  | @placeholder inner rest out hfield _ _ _ =>
    refine iff_of_true ⟨[], _, rfl⟩ (.inr ⟨[], _, rfl, opensField_append hfield _, .inl ?_⟩)
    exact ⟨inner, rest, rfl⟩
  | @char c cs out hstart hrest ih =>
    rw [hasPair_cons, hasPair_cons, hasOpener_cons, ih]
    simp only [hstart, false_or]
    constructor
    · rintro (⟨rfl, hhead⟩ | hpair | hopener)
      · cases hrest with
        | nil => cases hhead
        | char => exact .inl (.inl ⟨rfl, hhead⟩)
        | @placeholder inner rest _ hfield _ _ =>
          exact .inr ⟨[], _, rfl, opensField_append hfield _, .inl ⟨inner, rest, rfl⟩⟩
      · exact .inl (.inr hpair)
      · exact .inr hopener
    · rintro ((⟨rfl, hhead⟩ | hpair) | hopener)
      · cases hrest with
        | nil => cases hhead
        | char => exact .inl ⟨rfl, hhead⟩
        | placeholder => cases hhead
      · exact .inr (.inl hpair)
      · exact .inr (.inr hopener)

theorem eq_self_iff (h : Rewritten cs out) : out = cs ↔ ¬ HasOpener cs False := by
  induction h with
  | nil => exact iff_of_true rfl (not_hasOpener_nil _)
  | char hstart _ ih =>
    rw [hasOpener_cons, not_or, ← ih, List.cons.injEq]
    exact ⟨fun h => ⟨hstart, h.2⟩, fun h => ⟨rfl, h.2⟩⟩
  | @placeholder inner rest out hfield _ _ _ =>
    refine iff_of_false (fun h => absurd (List.cons.inj h).1 (by decide)) (not_not.2 ?_)
    exact ⟨[], _, rfl, opensField_append hfield _, .inl ⟨inner, rest, rfl⟩⟩

/-- What still looks like an opener in the result is nested in a placeholder. -/
theorem nested (h : Rewritten cs out) {x y : List Char} (hout : out = x ++ '[' :: '[' :: y)
    (hfield : opensField y = true) (hpair : HasPair ']' y) :
    ∃ start outer inner, Encloses cs (outer ++ '[' :: '[' :: inner) ∧
      x = start ++ '{' :: '{' :: outer := by
  induction h generalizing x with
  | nil => simp at hout
  | @placeholder between rest out hbetween hfirst hrest ih =>
    have hout' : ('{' :: '{' :: between) ++ '}' :: '}' :: out = x ++ '[' :: '[' :: y := hout
    rcases pairs_apart (by decide) hout' with ⟨s, rfl, hs⟩ | ⟨s, hs, rfl⟩
    · -- behind the placeholder
      obtain ⟨start, outer, inner, hencloses, rfl⟩ := ih hs
      refine ⟨'{' :: '{' :: (between ++ '}' :: '}' :: start), outer, inner, ?_, by simp⟩
      have hlonger := hencloses.append_left ('[' :: '[' :: (between ++ [']', ']']))
      rwa [List.cons_append, List.cons_append, List.append_assoc] at hlonger
    · -- in it
      rcases x with _ | ⟨b, _ | ⟨b', outer⟩⟩
      · cases hs
      · cases hs
      · simp only [List.cons_append, List.cons.injEq] at hs
        obtain ⟨rfl, rfl, rfl⟩ := hs
        exact ⟨[], outer, s, ⟨[], rest, rfl, hbetween, hfirst⟩, rfl⟩
  | @char c cs out hstart hrest ih =>
    rcases x with _ | ⟨b, x⟩
    · -- both brackets are in the original, where they would be an opener too
      obtain ⟨rfl, rfl⟩ := List.cons.inj hout
      cases hrest with
      | char _ hrest =>
        refine absurd ⟨_, rfl, ?_, hrest.hasPair_of_hasPair hpair⟩ hstart
        rwa [← hrest.opensField_eq]
    · simp only [List.cons_append, List.cons.injEq] at hout
      obtain ⟨rfl, hout⟩ := hout
      obtain ⟨start, outer, inner, hencloses, rfl⟩ := ih hout
      exact ⟨c :: start, outer, inner, hencloses.append_left [c], rfl⟩

end Rewritten

theorem toBraces_eq_self_iff : toBraces cs = cs ↔ ¬ HasOpener cs False :=
  (rewritten_toBraces cs).eq_self_iff

theorem hasPair_toBraces_iff :
    HasPair '{' (toBraces cs) ↔ HasPair '{' cs ∨ HasOpener cs False :=
  (rewritten_toBraces cs).hasPair_brace_iff

end AlertRules.Placeholder
