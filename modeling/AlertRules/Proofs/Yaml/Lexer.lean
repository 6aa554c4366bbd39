/-
AlertRules/Proofs/Yaml/Lexer.lean

Tokens of written text, one at a time.  A `Step` reads white space and one token, and a run
may start behind any number of steps (`run?_of_steps`).

Between two tokens of a block there is no candidate (`inBlock`), and all that a step needs to
know is where the text goes on (`Stands`).  A scalar there is read back, whatever its style:
in front of a colon (`next?_key`), and at the end of a line (`step_scalar`), behind which the
lexer goes on in the column where the next line starts (`Resumes`).
-/
import Mathlib.Logic.Relation
import AlertRules.Proofs.Yaml.Scalar
import AlertRules.Yaml.Token.Lexer

namespace AlertRules.Yaml

open Scalar (styleOf write lineEnd)

/-! ### White space -/

namespace Lexer

variable {allowed : Bool} {m : Mark} {rest : List Char}

theorem skipFrom_startsToken (h : StartsToken rest) :
    skipFrom false false allowed m rest = (allowed, m, rest) := by
  cases rest with
  | nil => rfl
  | cons c r =>
    obtain ⟨hblank, hbreak, hsign, hmark⟩ := h
    simp only [isBlank, Bool.or_eq_false_iff, beq_eq_false_iff_ne] at hblank
    have hwhite : ¬ (c = ' ' ∨ (c = '\t' ∧ (false || !allowed) = true) ∨
        (c = byteOrderMark ∧ m.column = 0)) := by
      rintro (h | h | h)
      · exact hblank.1 h
      · exact hblank.2 h.1
      · exact hmark h.1
    rw [skipFrom, if_neg (by simp [hbreak]), if_neg Bool.false_ne_true, if_neg hwhite,
      if_neg hsign]

theorem skipFrom_spaces (n : Nat) :
    skipFrom false false allowed m (List.replicate n ' ' ++ rest) =
      skipFrom false false allowed (m.past (List.replicate n ' ')) rest := by
  induction n generalizing m with
  | zero => rfl
  | succ n ih =>
    have hbreak : ¬ isBreak ' ' = true := by decide
    rw [List.replicate_succ, List.cons_append, skipFrom, if_neg hbreak, if_neg nofun,
      if_pos (.inl rfl), ih, Mark.past_cons]

/-- The end of a line and the indentation of the next one are skipped; a key may come then. -/
theorem skipFrom_lineEnd (n : Nat) (h : StartsToken rest) :
    skipFrom false false allowed m ('\n' :: (List.replicate n ' ' ++ rest)) =
      (true, m.past ('\n' :: List.replicate n ' '), rest) := by
  have hbreak : isBreak '\n' = true := rfl
  rw [skipFrom, if_pos hbreak, skipFrom_spaces, skipFrom_startsToken h, Mark.past_cons,
    Bool.not_false, Bool.or_true]

theorem length_skipFrom_le (flow comment allowed : Bool) (m : Mark) (cs : List Char) :
    (skipFrom flow comment allowed m cs).2.2.length ≤ cs.length := by
  induction cs generalizing comment allowed m with
  | nil => exact Nat.le_refl _
  | cons c r ih =>
    rw [skipFrom]
    split
    · exact Nat.le_succ_of_le (ih _ _ _)
    · split
      · exact Nat.le_succ_of_le (ih _ _ _)
      · split
        · exact Nat.le_succ_of_le (ih _ _ _)
        · split
          · exact Nat.le_succ_of_le (ih _ _ _)
          · exact Nat.le_refl _

/-! ### Steps -/

/-- The lexer behind the token that starts here. -/
def next? (s : Lexer) : Option Lexer :=
  match s.rest with
  | [] => none
  | c :: r => s.token? c r

/-- White space and one token are read, of at least one character. -/
def Step (s u : Lexer) : Prop :=
  ∃ t, s.skip.dropStale? = some t ∧ t.unroll.next? = some u ∧ u.rest.length < t.rest.length

theorem rest_unroll (s : Lexer) : s.unroll.rest = s.rest := by
  unfold unroll
  split <;> rfl

theorem length_dropStale?_le {s t : Lexer} (h : s.skip.dropStale? = some t) :
    t.rest.length ≤ s.rest.length := by
  simp only [dropStale?, Option.bind_eq_bind, Option.bind_eq_some_iff] at h
  obtain ⟨_, _, _, _, ⟨⟩⟩ := h
  exact length_skipFrom_le _ _ _ _ _

theorem run?_of_step {s u : Lexer} (h : Step s u) : s.run? = u.run? := by
  obtain ⟨t, ht, hu, hlength⟩ := h
  rw [run?, ht]
  have hrest := rest_unroll t
  -- a token takes some of the text, so the run does not stop for want of progress
  rw [next?, hrest] at hu
  simp only
  cases hcons : t.rest with
  | nil =>
    rw [hcons] at hu
    cases hu
  | cons c r =>
    rw [hcons] at hu
    have htoken : t.unroll.token? c r = some u := hu
    have hshorter : u.rest.length < s.rest.length :=
      Nat.lt_of_lt_of_le hlength (length_dropStale?_le ht)
    simp only [htoken, if_pos hshorter]

theorem run?_of_steps {s u : Lexer} (h : Relation.ReflTransGen Step s u) : s.run? = u.run? := by
  induction h with
  | refl => rfl
  | tail _ hstep ih => exact ih.trans (run?_of_step hstep)

/-! ### Between tokens -/

/-- A lexer inside block collections only, where a candidate may wait for its colon. -/
def waiting (candidate : Option Candidate) (rest : List Char) (m : Mark) (columns : List Nat)
    (allowed : Bool) (tokens : List Token) : Lexer :=
  { rest := rest, mark := m, columns := columns, keyAllowed := allowed, candidate := candidate,
    tokens := tokens }

/-- A lexer inside block collections only, where no candidate waits. -/
abbrev inBlock (rest : List Char) (m : Mark) (columns : List Nat) (allowed : Bool)
    (tokens : List Token) : Lexer :=
  waiting none rest m columns allowed tokens

/-- Behind white space the text `rest` goes on in open collections no deeper than it. -/
def Stands (s : Lexer) (m : Mark) (rest : List Char) (columns : List Nat) (allowed : Bool)
    (tokens : List Token) : Prop :=
  s.skip.dropStale?.map unroll = some (inBlock rest m columns allowed tokens)

/-- The text goes on in a line of its own, in the column that is given. -/
def Resumes (s : Lexer) (column : Nat) (rest : List Char) (columns : List Nat)
    (tokens : List Token) : Prop :=
  ∃ m : Mark, m.column = column ∧ s.Stands m rest columns true tokens

variable {s u : Lexer} {columns : List Nat} {tokens : List Token}

theorem Stands.step (h : s.Stands m rest columns allowed tokens)
    (hu : (inBlock rest m columns allowed tokens).next? = some u)
    (hlength : u.rest.length < rest.length) : Step s u := by
  obtain ⟨t, ht, hunroll⟩ := Option.map_eq_some_iff.1 h
  refine ⟨t, ht, by rw [hunroll, hu], ?_⟩
  have hrest : t.rest = rest := (rest_unroll t).symm.trans (congrArg Lexer.rest hunroll)
  rwa [hrest]

theorem unwind_of_le {column : Nat} (h : ∀ c ∈ columns.head?, c ≤ column) :
    unwind column columns tokens = (columns, tokens) := by
  cases columns with
  | nil => rfl
  | cons c cs => rw [unwind, if_neg (Nat.not_lt.2 (h c rfl))]

/-- White space is skipped, collections that are deeper than what follows it are ended, and a
candidate that is out of reach is given up. -/
theorem stands_of_skipFrom {s : Lexer} (hflow : s.outer = [])
    (hskip : skipFrom false false s.keyAllowed s.mark s.rest = (allowed, m, rest))
    (hcandidate : reach? m s.candidate = some none)
    (hunwind : unwind m.column s.columns s.tokens = (columns, tokens)) :
    s.Stands m rest columns allowed tokens := by
  have hblock : s.inFlow = false := by rw [inFlow, hflow]; rfl
  have hskipped : s.skip = { s with keyAllowed := allowed, mark := m, rest := rest } := by
    rw [skip, hblock]
    simp only [hskip]
  have hunroll : (inBlock rest m s.columns allowed s.tokens).unroll =
      inBlock rest m columns allowed tokens := by
    have hblock : ¬ (inBlock rest m s.columns allowed s.tokens).inFlow = true := nofun
    rw [unroll, if_neg hblock]
    show inBlock rest m (unwind m.column s.columns s.tokens).1 allowed
      (unwind m.column s.columns s.tokens).2 = _
    rw [hunwind]
  rw [Stands, hskipped]
  simp only [dropStale?, hcandidate, hflow, Option.bind_eq_bind, Option.bind_some]
  exact congrArg some hunroll

/-- A candidate that is still in reach stays for the next token. -/
theorem step_of_candidate {candidate : Option Candidate}
    (hskip : skipFrom false false allowed m rest = (allowed, m, rest))
    (hcandidate : reach? m candidate = some candidate)
    (hcolumns : ∀ c ∈ columns.head?, c ≤ m.column)
    (hu : (waiting candidate rest m columns allowed tokens).next? =
      some u)
    (hlength : u.rest.length < rest.length) :
    Step (waiting candidate rest m columns allowed tokens) u := by
  have hskipped : (waiting candidate rest m columns allowed tokens).skip =
        (waiting candidate rest m columns allowed tokens) := by
    show waiting candidate (skipFrom false false allowed m rest).2.2
      (skipFrom false false allowed m rest).2.1 columns
      (skipFrom false false allowed m rest).1 tokens = _
    rw [hskip]
  have hunroll : (waiting candidate rest m columns allowed tokens).unroll =
        (waiting candidate rest m columns allowed tokens) := by
    show waiting candidate rest m (unwind m.column columns tokens).1 allowed
      (unwind m.column columns tokens).2 = _
    rw [unwind_of_le hcolumns]
  refine ⟨waiting candidate rest m columns allowed tokens, ?_, ?_, hlength⟩
  · rw [hskipped, dropStale?]
    show (reach? m candidate).bind _ = _
    rw [hcandidate]
    rfl
  · rw [hunroll, hu]

/-- Behind a blank the text goes on in the same collections. -/
theorem stands_space (hcolumns : ∀ c ∈ columns.head?, c ≤ m.column) (h : StartsToken rest) :
    (inBlock (' ' :: rest) m columns allowed tokens).Stands (m.skip 1) rest columns allowed
      tokens :=
  stands_of_skipFrom rfl ((skipFrom_spaces 1).trans (skipFrom_startsToken h)) rfl
    (unwind_of_le fun c hc => Nat.le_succ_of_le (hcolumns c hc))

/-- Behind a break the text goes on in the collections that are no deeper. -/
theorem resumes_lineEnd {n : Nat} {columns' : List Nat} {tokens' : List Token}
    (h : StartsToken rest) (hunwind : unwind n columns tokens = (columns', tokens')) :
    (inBlock ('\n' :: (List.replicate n ' ' ++ rest)) m columns allowed tokens).Resumes n rest
      columns' tokens' := by
  have hcolumn : (m.past ('\n' :: List.replicate n ' ')).column = n := by
    rw [Mark.past_indentation rfl]
  rw [← hcolumn] at hunwind
  exact ⟨_, hcolumn, stands_of_skipFrom rfl (skipFrom_lineEnd n h) rfl hunwind⟩

/-! ### Scalars -/

/-- The candidate that a scalar becomes. -/
def candidateAt (m : Mark) (columns : List Nat) (allowed : Bool) (tokens : List Token) :
    Option Candidate :=
  if allowed then some ⟨columns.head? == some m.column, tokens.length, m⟩ else none

theorem saveCandidate?_inBlock (rest : List Char) (m : Mark) (columns : List Nat)
    (allowed : Bool) (tokens : List Token) :
    (inBlock rest m columns allowed tokens).saveCandidate? =
      some (waiting (candidateAt m columns allowed tokens) rest m columns allowed tokens) := by
  cases allowed <;> rfl

/-- The token of a text. -/
def scalarToken (cs : List Char) : Token := .scalar (styleOf cs == .plain) cs

section Starts

variable (s : Lexer) (r : List Char)

theorem token?_single : s.token? '\'' r = s.quoted? true := by
  have hmarker : isDocumentMarker ('\'' :: r) = false :=
    isDocumentMarker_of_ne (by decide) (by decide) r
  simp [token?, hmarker]

theorem token?_double : s.token? '"' r = s.quoted? false := by
  have hmarker : isDocumentMarker ('"' :: r) = false :=
    isDocumentMarker_of_ne (by decide) (by decide) r
  simp [token?, hmarker]

theorem token?_literal (hflow : s.outer = []) : s.token? '|' r = s.block? false := by
  have hmarker : isDocumentMarker ('|' :: r) = false :=
    isDocumentMarker_of_ne (by decide) (by decide) r
  simp [token?, hmarker, inFlow, hflow]

theorem token?_colon (hr : startsBlank r = true) : s.token? ':' r = s.value? := by
  have hmarker : isDocumentMarker (':' :: r) = false :=
    isDocumentMarker_of_ne (by decide) (by decide) r
  simp [token?, hmarker, hr]

theorem token?_question (hr : startsBlank r = true) : s.token? '?' r = s.key? := by
  have hmarker : isDocumentMarker ('?' :: r) = false :=
    isDocumentMarker_of_ne (by decide) (by decide) r
  simp [token?, hmarker, hr]

theorem token?_hyphen : s.token? '-' (' ' :: r) = s.blockEntry? := by
  have hmarker : isDocumentMarker ('-' :: ' ' :: r) = false := by
    cases r <;> rfl
  have hblank : startsBlank (' ' :: r) = true := rfl
  simp [token?, hmarker, hblank]

theorem token?_openBracket : s.token? '[' r = s.flowStart? .flowSequenceStart := by
  have hmarker : isDocumentMarker ('[' :: r) = false :=
    isDocumentMarker_of_ne (by decide) (by decide) r
  simp [token?, hmarker]

theorem token?_closeBracket : s.token? ']' r = s.flowEnd? .flowSequenceEnd := by
  have hmarker : isDocumentMarker (']' :: r) = false :=
    isDocumentMarker_of_ne (by decide) (by decide) r
  simp [token?, hmarker]

end Starts

/-- What is read between quotes is one token. -/
theorem quoted?_inBlock {single : Bool} {quote : Char} {body cs : List Char} {m' : Mark}
    (hread : Quoted.read? single (m.skip 1) .none [] body = some ⟨cs, m', rest⟩) :
    (inBlock (quote :: body) m columns allowed tokens).quoted? single =
      some (waiting (candidateAt m columns allowed tokens) rest m' columns false
        (.scalar false cs :: tokens)) := by
  simp only [quoted?, saveCandidate?_inBlock, Option.bind_eq_bind, Option.bind_some]
  show (Quoted.read? single (m.skip 1) .none [] body).bind _ = _
  rw [hread]
  rfl

/-- A text that is written between quotes is one token. -/
theorem next?_quoted {cs : List Char} {n : Nat} (hn : 0 < n)
    (hstyle : styleOf cs = .single ∨ styleOf cs = .double) (hrest : rest.head? ≠ some '\'') :
    (inBlock (write n cs ++ rest) m columns allowed tokens).next? =
      some (waiting (candidateAt m columns allowed tokens) rest (m.past (write n cs)) columns false
        (scalarToken cs :: tokens)) := by
  have hpos : 0 < (m.skip 1).column := Nat.succ_pos _
  rw [next?, scalarToken]
  rcases hstyle with hstyle | hstyle
  · obtain ⟨hfeed, hfits⟩ := Scalar.of_styleOf_single hstyle
    have hwrite : write n cs = '\'' :: (Quoted.writeSingleFrom n false cs ++ ['\'']) := by
      rw [write, hstyle]
      rfl
    rw [hwrite, hstyle, List.cons_append, List.append_assoc]
    exact (token?_single _ _).trans
      (quoted?_inBlock (Quoted.read?_writeSingle hfits hfeed hpos hn hrest))
  · have hwrite : write n cs = '"' :: (cs.flatMap Quoted.writeChar ++ ['"']) := by
      rw [write, hstyle]
      rfl
    rw [hwrite, hstyle, List.cons_append, List.append_assoc]
    exact (token?_double _ _).trans (quoted?_inBlock (Quoted.read?_writeDouble hpos))

section Plain

variable {c : Char} {r more : List Char}

/-- A text that can be written plainly is no document marker, if no hyphen or period touches
its end. -/
theorem isDocumentMarker_plain (h : Plain.startsOtherwise (c :: r) = false)
    (hmore : ∀ d ∈ more.head?, d ≠ '-' ∧ d ≠ '.') :
    isDocumentMarker (c :: (r ++ more)) = false := by
  simp only [Plain.startsOtherwise, Bool.or_eq_false_iff] at h
  obtain ⟨⟨-, hhyphens⟩, hperiods⟩ := h
  -- a marker consists of three equal characters
  have hthree : ∀ {a b d : Char} {t : List Char},
      isDocumentMarker (a :: b :: d :: t) = true → (a = '-' ∨ a = '.') ∧ b = a ∧ d = a := by
    intro a b d t hmarker
    simp only [isDocumentMarker, Bool.and_eq_true, Bool.or_eq_true, beq_iff_eq] at hmarker
    exact ⟨hmarker.1.1.1, hmarker.1.1.2, hmarker.1.2⟩
  rw [Bool.eq_false_iff]
  intro hmarker
  rcases r with _ | ⟨a, _ | ⟨b, t⟩⟩
  · rcases more with _ | ⟨a, _ | ⟨b, t⟩⟩
    · cases hmarker
    · cases hmarker
    · obtain ⟨hc, rfl, -⟩ := hthree hmarker
      exact hc.elim (hmore a rfl).1 (hmore a rfl).2
  · rcases more with _ | ⟨b, t⟩
    · cases hmarker
    · obtain ⟨hc, -, rfl⟩ := hthree hmarker
      exact hc.elim (hmore b rfl).1 (hmore b rfl).2
  · obtain ⟨rfl | rfl, rfl, rfl⟩ := hthree hmarker
    · cases hhyphens
    · cases hperiods

/-- What of a plain text its first token depends on. -/
theorem of_isWritable (h : Plain.isWritable (c :: r) = true) :
    Plain.startsOtherwise (c :: r) = false ∧ Plain.isIndicator c = false ∧ isBlank c = false ∧
      isBreak c = false ∧
      (c = '?' ∨ c = ':' ∨ c = '-' → startsBlank (r ++ more) = false) := by
  simp only [Plain.isWritable, Bool.and_eq_true, Bool.not_eq_true', List.all_eq_true,
    List.any_eq_false, bne_iff_ne, ne_eq, List.head?_cons, Option.some.injEq] at h
  obtain ⟨⟨⟨⟨⟨hprint, hbreak⟩, hspace⟩, -⟩, hstart⟩, -⟩ := h
  have hblank : isBlank c = false :=
    Bool.eq_false_iff.2 fun hb => hspace (eq_space_of_isBlank (hprint c (.head _)) hb)
  have hparts := hstart
  simp only [Plain.startsOtherwise, Bool.or_eq_false_iff] at hparts
  obtain ⟨⟨⟨hindicator, hlone⟩, -⟩, -⟩ := hparts
  refine ⟨hstart, hindicator, hblank, Bool.eq_false_iff.2 (hbreak c (.head _)), ?_⟩
  intro hc
  refine startsBlank_append ?_ more
  rcases hc with rfl | rfl | rfl
  all_goals simpa using hlone

theorem startsPlain_of_isWritable (h : Plain.isWritable (c :: r) = true) :
    startsPlain false c (r ++ more) = true := by
  obtain ⟨-, hindicator, hblank, hbreak, hnext⟩ := of_isWritable h
  unfold startsPlain
  split
  · next hc =>
    have hr := hnext (.inr (.inr (beq_iff_eq.1 hc)))
    cases hcons : r ++ more with
    | nil => rw [hcons] at hr; cases hr
    | cons d t =>
      rw [hcons] at hr
      simp [(Bool.or_eq_false_iff.1 hr).1]
  · split
    · next hc =>
      have hor : c = '?' ∨ c = ':' := by simpa using hc
      simp [hnext (hor.imp_right .inl)]
    · simp [hindicator, hblank, hbreak]

theorem token?_plain (h : Plain.isWritable (c :: r) = true)
    (hmore : ∀ d ∈ more.head?, d ≠ '-' ∧ d ≠ '.') {s : Lexer} (hflow : s.outer = []) :
    s.token? c (r ++ more) = s.plain? := by
  obtain ⟨hstart, hindicator, -, -, hnext⟩ := of_isWritable h
  have hmarker := isDocumentMarker_plain hstart hmore
  have hflow' : s.inFlow = false := by rw [inFlow, hflow]; rfl
  have hplain : startsPlain false c (r ++ more) = true := startsPlain_of_isWritable h
  have halone : ∀ {d : Char}, d = '?' ∨ d = ':' ∨ d = '-' →
      ¬ (c = d ∧ startsBlank (r ++ more) = true) := by
    rintro d hd ⟨rfl, hblank⟩
    exact absurd ((hnext hd).symm.trans hblank) nofun
  have hkey := halone (.inl rfl)
  have hvalue := halone (.inr (.inl rfl))
  have hentry := halone (.inr (.inr rfl))
  -- no other token starts with the character
  simp only [Plain.isIndicator, List.contains_cons, List.contains_nil, Bool.or_eq_false_iff,
    beq_eq_false_iff_ne, ne_eq] at hindicator
  simp [token?, hmarker, hindicator, hentry, hkey, hvalue, hflow', hplain]

/-- A plain text is one token, if what ends it leaves its mark and the rest so. -/
theorem next?_plain {cs : List Char} {n : Nat} {result : Plain.Result}
    (hstyle : styleOf cs = .plain) (hmore : ∀ d ∈ more.head?, d ≠ '-' ∧ d ≠ '.')
    (hcolumn : plainIndent columns ≤ m.column + 1)
    (hend : Plain.read? false (plainIndent columns) (m.past cs) .none cs.reverse more =
      some result) :
    (inBlock (write n cs ++ more) m columns allowed tokens).next? =
      some (waiting (candidateAt m columns allowed tokens) result.rest result.mark columns
        result.atLineStart (.scalar true result.text :: tokens)) := by
  obtain ⟨hne, hwritable⟩ := Scalar.of_styleOf_plain hstyle
  have hwrite : write n cs = cs := by rw [write, hstyle]
  have hread : Plain.read? false (plainIndent columns) m .none [] (cs ++ more) = some result :=
    (Plain.read?_isWritable hwritable hcolumn).trans hend
  rw [hwrite]
  obtain ⟨c, r, rfl⟩ := List.exists_cons_of_ne_nil hne
  have htoken : (inBlock (c :: r ++ more) m columns allowed tokens).next? =
      (inBlock (c :: r ++ more) m columns allowed tokens).plain? :=
    token?_plain hwritable hmore rfl
  rw [htoken, plain?, saveCandidate?_inBlock]
  show (Plain.read? false (plainIndent columns) m .none [] (c :: r ++ more)).bind _ = _
  rw [hread]
  rfl

end Plain

section Key

variable {cs more : List Char} {n : Nat}

/-- A text on one line is one token in front of a colon. -/
theorem next?_key (hline : ∀ c ∈ cs, isBreak c = false) (hn : 0 < n)
    (hcolumns : ∀ c ∈ columns.head?, c ≤ m.column) (hmore : startsBlank more = true) :
    (inBlock (write n cs ++ ':' :: more) m columns allowed tokens).next? =
      some (waiting (candidateAt m columns allowed tokens) (':' :: more) (m.past (write n cs))
        columns false (scalarToken cs :: tokens)) := by
  have hquote : (':' :: more).head? ≠ some '\'' := nofun
  cases hstyle : styleOf cs with
  | plain =>
    have hwrite : write n cs = cs := by rw [write, hstyle]
    have hcolumn : plainIndent columns ≤ m.column + 1 := by
      cases columns with
      | nil => exact Nat.zero_le _
      | cons c below => exact Nat.succ_le_succ (hcolumns c rfl)
    have hcolon : ∀ d ∈ (':' :: more).head?, d ≠ '-' ∧ d ≠ '.' := by
      rintro d ⟨⟩
      decide
    rw [next?_plain hstyle hcolon hcolumn (Plain.read?_colon hmore), List.reverse_reverse,
      hwrite, scalarToken, hstyle]
    rfl
  | single => exact next?_quoted hn (.inl hstyle) hquote
  | double => exact next?_quoted hn (.inr hstyle) hquote
  | literal => exact absurd hstyle (Scalar.styleOf_ne_literal hline)

end Key

section Value

variable {cs : List Char} {column i : Nat} {below columns' : List Nat} {tokens' : List Token}

/-- A scalar that is deeper than its collection need not be a key, so its candidate is given up
on the next line. -/
theorem reach?_candidateAt {m' : Mark} (hcolumn : column < m.column) (hline : m.line < m'.line) :
    reach? m' (candidateAt m (column :: below) allowed tokens) = some none := by
  have hrequired : (some column == some m.column) = false := by simp [Nat.ne_of_lt hcolumn]
  cases allowed with
  | false => rfl
  | true =>
    show (if m.line < m'.line ∨ m.index + 1024 < m'.index then
      if (some column == some m.column) = true then none else some none else _) = _
    rw [if_pos (.inl hline), hrequired, if_neg nofun]

theorem line_lt_past (m : Mark) (cs : List Char) (i : Nat) :
    m.line < ((m.past cs).past ('\n' :: List.replicate i ' ')).line := by
  rw [Mark.past_indentation rfl]
  exact Nat.lt_succ_of_le (Mark.line_le_past m cs)

theorem column_past (m : Mark) (i : Nat) :
    (m.past ('\n' :: List.replicate i ' ')).column = i := by
  rw [Mark.past_indentation rfl]

/-- Behind a plain text at the end of a line the next line goes on. -/
theorem next?_plain_lineEnd (hstyle : styleOf cs = .plain) (hcolumn : column < m.column)
    (hi : i ≤ column) (hrest : StartsToken rest)
    (hunwind : unwind i (column :: below) (scalarToken cs :: tokens) = (columns', tokens')) :
    ∃ u, (inBlock (write (column + 2) cs ++ '\n' :: (List.replicate i ' ' ++ rest)) m
        (column :: below) allowed tokens).next? = some u ∧
      u.rest.length ≤ rest.length ∧ u.Resumes i rest columns' tokens' := by
  have hfeed : ∀ d ∈ ('\n' :: (List.replicate i ' ' ++ rest)).head?, d ≠ '-' ∧ d ≠ '.' := by
    rintro d ⟨⟩
    decide
  have hend : Plain.read? false (plainIndent (column :: below)) (m.past cs) .none cs.reverse
      ('\n' :: (List.replicate i ' ' ++ rest)) = some ⟨cs.reverse.reverse,
        (m.past cs).past ('\n' :: List.replicate i ' '), rest, true⟩ :=
    Plain.read?_lineEnd (Nat.lt_succ_of_le hi) hrest
  have hcolumn' := column_past (m.past cs) i
  have htoken : scalarToken cs = .scalar true cs := by rw [scalarToken, hstyle]; rfl
  rw [List.reverse_reverse] at hend
  rw [htoken, ← hcolumn'] at hunwind
  refine ⟨_, next?_plain hstyle hfeed (Nat.le_succ_of_le hcolumn) hend, Nat.le_refl _, _, hcolumn',
    stands_of_skipFrom rfl (skipFrom_startsToken hrest)
      (reach?_candidateAt hcolumn (line_lt_past m cs i)) hunwind⟩

/-- Behind a text between quotes at the end of a line the next line goes on. -/
theorem next?_quoted_lineEnd (hstyle : styleOf cs = .single ∨ styleOf cs = .double)
    (hcolumn : column < m.column) (hrest : StartsToken rest)
    (hunwind : unwind i (column :: below) (scalarToken cs :: tokens) = (columns', tokens')) :
    ∃ u, (inBlock (write (column + 2) cs ++ '\n' :: (List.replicate i ' ' ++ rest)) m
        (column :: below) allowed tokens).next? = some u ∧
      u.rest.length ≤ ('\n' :: (List.replicate i ' ' ++ rest)).length ∧
      u.Resumes i rest columns' tokens' := by
  have hcolumn' := column_past (m.past (write (column + 2) cs)) i
  rw [← hcolumn'] at hunwind
  exact ⟨_, next?_quoted (Nat.succ_pos _) hstyle nofun, Nat.le_refl _, _, hcolumn',
    stands_of_skipFrom rfl (skipFrom_lineEnd i hrest)
      (reach?_candidateAt hcolumn (line_lt_past m (write (column + 2) cs) i)) hunwind⟩

/-- Behind a literal the next line goes on. -/
theorem next?_literal (hstyle : styleOf cs = .literal) (hi : i ≤ column) (hrest : StartsToken rest)
    (hunwind : unwind i (column :: below) (scalarToken cs :: tokens) = (columns', tokens')) :
    ∃ u, (inBlock (write (column + 2) cs ++ (lineEnd cs ++ (List.replicate i ' ' ++ rest))) m
        (column :: below) allowed tokens).next? = some u ∧
      u.rest.length ≤ rest.length ∧ u.Resumes i rest columns' tokens' := by
  obtain ⟨hfeed, hfits⟩ := Scalar.of_styleOf_literal hstyle
  have hend : lineEnd cs = Block.closing cs := by simp [lineEnd, Block.closing, hstyle]
  have hwrite : write (column + 2) cs =
      '|' :: (Block.indicators cs ++ '\n' :: Block.writeLines (column + 2) true cs) := by
    rw [write, hstyle]
    rfl
  have htoken : scalarToken cs = .scalar false cs := by rw [scalarToken, hstyle]; rfl
  obtain ⟨m', hcolumn', hread⟩ := Block.read?_write (m := m.skip 1)
    (Scalar.isPrintable_of_fitsLiteral hfits) (List.ne_nil_of_mem hfeed) hi hrest
  rw [htoken, ← hcolumn'] at hunwind
  have hnext : (inBlock (write (column + 2) cs ++ (lineEnd cs ++ (List.replicate i ' ' ++ rest))) m
      (column :: below) allowed tokens).next? =
        some (inBlock rest m' (column :: below) true (.scalar false cs :: tokens)) := by
    rw [hwrite, hend, next?, List.cons_append, List.append_assoc, List.cons_append]
    show token? _ '|' _ = _
    rw [token?_literal _ _ rfl]
    show (Block.read? false (some column) (m.skip 1) (Block.indicators cs ++ '\n' ::
      (Block.writeLines (column + 2) true cs ++
        (Block.closing cs ++ (List.replicate i ' ' ++ rest))))).bind _ = _
    rw [hread]
    rfl
  exact ⟨_, hnext, Nat.le_refl _, m', hcolumn',
    stands_of_skipFrom rfl (skipFrom_startsToken hrest) rfl hunwind⟩

/-- A text at the end of a line is one token, and the text goes on in the next line. -/
theorem step_scalar
    (hs : s.Stands m (write (column + 2) cs ++ (lineEnd cs ++ (List.replicate i ' ' ++ rest)))
      (column :: below) allowed tokens)
    (hcolumn : column < m.column) (hi : i ≤ column) (hrest : StartsToken rest)
    (hunwind : unwind i (column :: below) (scalarToken cs :: tokens) = (columns', tokens')) :
    ∃ u, Step s u ∧ u.Resumes i rest columns' tokens' := by
  have hpos := List.length_pos_iff.2 (Scalar.startsToken_write (column + 2) cs []).2
  have hend : styleOf cs ≠ .literal → lineEnd cs ++ (List.replicate i ' ' ++ rest) =
      '\n' :: (List.replicate i ' ' ++ rest) := by
    intro hne
    simp [lineEnd, hne]
  cases hstyle : styleOf cs with
  | plain =>
    rw [hend (by rw [hstyle]; nofun)] at hs
    obtain ⟨u, hnext, hlength, hu⟩ := next?_plain_lineEnd hstyle hcolumn hi hrest hunwind
    refine ⟨u, hs.step hnext ?_, hu⟩
    simp only [List.length_append, List.length_cons]
    omega
  | single =>
    rw [hend (by rw [hstyle]; nofun)] at hs
    obtain ⟨u, hnext, hlength, hu⟩ := next?_quoted_lineEnd (.inl hstyle) hcolumn hrest hunwind
    refine ⟨u, hs.step hnext ?_, hu⟩
    rw [List.length_append]
    omega
  | double =>
    rw [hend (by rw [hstyle]; nofun)] at hs
    obtain ⟨u, hnext, hlength, hu⟩ := next?_quoted_lineEnd (.inr hstyle) hcolumn hrest hunwind
    refine ⟨u, hs.step hnext ?_, hu⟩
    rw [List.length_append]
    omega
  | literal =>
    obtain ⟨u, hnext, hlength, hu⟩ := next?_literal hstyle hi hrest hunwind
    refine ⟨u, hs.step hnext ?_, hu⟩
    simp only [List.length_append]
    omega

end Value

/-! ### Entries of mappings -/

/-- A mapping is open at the column, above the collections `below`, or is opened there by one
more token. -/
inductive Opens (column : Nat) : List Nat → List Token → List Nat → List Token → Prop
  | here (below : List Nat) (tokens : List Token) :
      Opens column (column :: below) tokens below tokens
  | deeper {columns : List Nat} (tokens : List Token) :
      (∀ c ∈ columns.head?, c < column) →
      Opens column columns tokens columns (.blockMappingStart :: tokens)

section Entries

variable {column : Nat} {below : List Nat} {tokens' : List Token}

theorem Opens.head_le (h : Opens column columns tokens below tokens') :
    ∀ c ∈ columns.head?, c ≤ column := by
  cases h with
  | here =>
    rintro c ⟨⟩
    exact Nat.le_refl _
  | deeper _ hlt => exact fun c hc => Nat.le_of_lt (hlt c hc)

/-- A mapping is rolled out where its first key stands, before the key. -/
theorem Opens.roll (h : Opens column columns tokens below tokens') (newer : List Token)
    (rest : List Char) (m : Mark) (allowed : Bool) (candidate : Option Candidate) :
    (waiting candidate rest m columns allowed (newer ++ tokens)).roll
        column tokens.length .blockMappingStart =
      waiting candidate rest m (column :: below) allowed (newer ++ tokens') := by
  cases h with
  | here =>
    have hopen : ¬ ((!false && (column :: below).head?.all (· < column)) = true) := by simp
    exact if_neg hopen
  | deeper _ hlt =>
    have hdeeper : (!false && columns.head?.all (· < column)) = true := by
      cases columns with
      | nil => rfl
      | cons c cs => simpa using hlt c rfl
    refine (if_pos hdeeper).trans ?_
    simp [insertAt, waiting]

/-- A colon behind a candidate makes that a key. -/
theorem next?_colon {k more : List Char} {m' : Mark} {required : Bool}
    (hopens : Opens column columns tokens below tokens') (hcolumn : m.column = column)
    (hmore : startsBlank more = true) :
    (waiting (some ⟨required, tokens.length, m⟩) (':' :: more) m' columns false
        (scalarToken k :: tokens)).next? =
      some (inBlock more (m'.skip 1) (column :: below) false
        (.value :: scalarToken k :: .key :: tokens')) := by
  let s := waiting (some ⟨required, tokens.length, m⟩) (':' :: more) m' columns false
    (scalarToken k :: tokens)
  have htoken : s.next? = s.value? := token?_colon s more hmore
  have hinsert : s.insertAt tokens.length .key = waiting (some ⟨required, tokens.length, m⟩)
      (':' :: more) m' columns false ([scalarToken k, .key] ++ tokens) := by
    simp [s, insertAt, waiting]
  refine htoken.trans ?_
  show some { (advance ((s.insertAt tokens.length .key).roll m.column tokens.length
    .blockMappingStart) 1).push .value with candidate := none, keyAllowed := false } = _
  rw [hinsert, hcolumn, hopens.roll]
  rfl

/-- A key that shows by its colon only. -/
theorem steps_key {k more : List Char} {n : Nat}
    (hs : s.Resumes column (write n k ++ ':' :: more) columns tokens)
    (hopens : Opens column columns tokens below tokens') (hk : Scalar.isSimpleKey k = true)
    (hn : 0 < n) (hmore : startsBlank more = true) :
    ∃ m : Mark, column < m.column ∧ Relation.ReflTransGen Step s (inBlock more m
      (column :: below) false (.value :: scalarToken k :: .key :: tokens')) := by
  obtain ⟨m, hm, hstands⟩ := hs
  obtain ⟨hline, -⟩ := Scalar.of_isSimpleKey hk
  -- so short a key is written within reach of a candidate
  have hshort := Scalar.length_write_of_isSimpleKey (n := n) hk
  have hpos := List.length_pos_iff.2 (Scalar.startsToken_write n k []).2
  have hpast : m.past (write n k) = m.skip (write n k).length :=
    Mark.past_of_not_isBreak (fun c hc => Scalar.not_isBreak_of_mem_write hline hc) m
  have hcolumns : ∀ c ∈ columns.head?, c ≤ m.column := hm ▸ hopens.head_le
  have hscalar := hstands.step (next?_key hline hn hcolumns hmore)
    (by
      rw [List.length_append]
      show (':' :: more).length < _
      omega)
  -- the colon comes on the same line, within reach of the candidate
  have hreach : reach? (m.past (write n k)) (candidateAt m columns true tokens) =
      some (candidateAt m columns true tokens) := by
    have hnear : ¬ (m.line < (m.past (write n k)).line ∨
        m.index + 1024 < (m.past (write n k)).index) := by
      rw [hpast, Mark.skip]
      show ¬ (m.line < m.line ∨ m.index + 1024 < m.index + (write n k).length)
      omega
    exact if_neg hnear
  have hcolon : Step (waiting (candidateAt m columns true tokens) (':' :: more)
      (m.past (write n k)) columns false (scalarToken k :: tokens))
      (inBlock more ((m.past (write n k)).skip 1) (column :: below) false
        (.value :: scalarToken k :: .key :: tokens')) := by
    have hskip : skipFrom false false false (m.past (write n k)) (':' :: more) =
        (false, m.past (write n k), ':' :: more) :=
      skipFrom_startsToken ⟨rfl, rfl, by decide, by decide⟩
    have hdeeper : ∀ c ∈ columns.head?, c ≤ (m.past (write n k)).column := by
      intro c hc
      rw [hpast]
      exact Nat.le_trans (hcolumns c hc) (Nat.le_add_right _ _)
    exact step_of_candidate hskip hreach hdeeper (next?_colon hopens hm hmore) (Nat.lt_succ_self _)
  refine ⟨_, ?_, .tail (.tail .refl hscalar) hcolon⟩
  rw [hpast, ← hm]
  show m.column < m.column + (write n k).length + 1
  omega

/-- A question mark before a blank starts a key. -/
theorem next?_question {text : List Char} (hopens : Opens column columns tokens below tokens')
    (hcolumn : m.column = column) :
    (inBlock ('?' :: ' ' :: text) m columns true tokens).next? =
      some (inBlock (' ' :: text) (m.skip 1) (column :: below) true (.key :: tokens')) := by
  subst hcolumn
  let s := inBlock ('?' :: ' ' :: text) m columns true tokens
  have hroll : s.roll s.mark.column s.tokens.length .blockMappingStart =
      inBlock ('?' :: ' ' :: text) m (m.column :: below) true tokens' :=
    hopens.roll [] ('?' :: ' ' :: text) m true none
  have hallowed : ¬ ((!s.inFlow && !s.keyAllowed) = true) := nofun
  refine (token?_question _ _ rfl).trans ?_
  rw [key?, if_neg hallowed, hroll]
  rfl

/-- A colon at the start of a line starts the value of the key before it. -/
theorem next?_value {text : List Char} (hcolumn : m.column = column) :
    (inBlock (':' :: ' ' :: text) m (column :: below) true tokens).next? =
      some (inBlock (' ' :: text) (m.skip 1) (column :: below) true (.value :: tokens)) := by
  subst hcolumn
  have hopens : Opens m.column (m.column :: below) tokens below tokens := .here below tokens
  refine (token?_colon _ _ rfl).trans ?_
  let s := inBlock (':' :: ' ' :: text) m (m.column :: below) true tokens
  have hroll : s.roll m.column tokens.length .blockMappingStart = s :=
    hopens.roll [] (':' :: ' ' :: text) m true none
  show (fun s : Lexer => some { (s.advance 1).push .value with keyAllowed := !s.inFlow })
    (s.roll m.column tokens.length .blockMappingStart) = _
  rw [hroll]
  rfl

/-- A key behind a question mark, with its colon on the next line. -/
theorem steps_question {k more : List Char}
    (hs : s.Resumes column ('?' :: ' ' :: (write (column + 2) k ++ (lineEnd k ++
      (List.replicate column ' ' ++ ':' :: ' ' :: more)))) columns tokens)
    (hopens : Opens column columns tokens below tokens') :
    ∃ m : Mark, column < m.column ∧ Relation.ReflTransGen Step s (inBlock (' ' :: more) m
      (column :: below) true (.value :: scalarToken k :: .key :: tokens')) := by
  obtain ⟨m, hm, hstands⟩ := hs
  have hquestion := hstands.step (next?_question hopens hm) (Nat.lt_succ_self _)
  have hle : ∀ c ∈ (column :: below).head?, c ≤ (m.skip 1).column := by
    rintro c ⟨⟩
    rw [← hm]
    exact Nat.le_succ _
  have hdeeper : column < ((m.skip 1).skip 1).column := by
    rw [← hm]
    show m.column < m.column + 1 + 1
    omega
  have hspace : (inBlock (' ' :: _) (m.skip 1) (column :: below) true (.key :: tokens')).Stands
      _ _ _ _ _ := stands_space hle (Scalar.startsToken_write (column + 2) k (lineEnd k ++
    (List.replicate column ' ' ++ ':' :: ' ' :: more))).1
  -- the key ends its line, so the colon resumes in the column of the mapping
  obtain ⟨u, hscalar, m', hm', hu⟩ := step_scalar hspace hdeeper (Nat.le_refl column)
    ⟨rfl, rfl, by decide, by decide⟩
    (unwind_of_le (by rintro c ⟨⟩; exact Nat.le_refl column))
  have hcolon := hu.step (next?_value hm') (Nat.lt_succ_self _)
  refine ⟨m'.skip 1, ?_, .tail (.tail (.tail .refl hquestion) hscalar) hcolon⟩
  rw [← hm']
  exact Nat.lt_succ_self _

/-- An entry of a mapping, up to where the next line goes on. -/
theorem steps_entry {k v : List Char} {i : Nat} {columns' : List Nat} {tokens'' : List Token}
    (hs : s.Resumes column (Scalar.writeEntry column k v ++ (List.replicate i ' ' ++ rest))
      columns tokens)
    (hopens : Opens column columns tokens below tokens') (hi : i ≤ column)
    (hrest : StartsToken rest)
    (hunwind : unwind i (column :: below)
      (scalarToken v :: .value :: scalarToken k :: .key :: tokens') = (columns', tokens'')) :
    ∃ u, Relation.ReflTransGen Step s u ∧ u.Resumes i rest columns' tokens'' := by
  let value := write (column + 2) v ++ (lineEnd v ++ (List.replicate i ' ' ++ rest))
  -- however the key is written, the lexer comes to stand before the value with these tokens
  obtain ⟨m, allowed, hcolumn, hsteps⟩ : ∃ (m : Mark) (allowed : Bool), column < m.column ∧
      Relation.ReflTransGen Step s (inBlock (' ' :: value) m (column :: below) allowed
        (.value :: scalarToken k :: .key :: tokens')) := by
    unfold Scalar.writeEntry at hs
    split at hs
    · next hk =>
      have htext : write (column + 2) k ++ [':', ' '] ++ write (column + 2) v ++ lineEnd v ++
          (List.replicate i ' ' ++ rest) = write (column + 2) k ++ ':' :: ' ' :: value := by
        simp [value]
      rw [htext] at hs
      obtain ⟨m, hm, hsteps⟩ := steps_key hs hopens hk (Nat.succ_pos _) rfl
      exact ⟨m, false, hm, hsteps⟩
    · have htext : ['?', ' '] ++ write (column + 2) k ++ lineEnd k ++ List.replicate column ' ' ++
          [':', ' '] ++ write (column + 2) v ++ lineEnd v ++ (List.replicate i ' ' ++ rest) =
            '?' :: ' ' :: (write (column + 2) k ++ (lineEnd k ++
              (List.replicate column ' ' ++ ':' :: ' ' :: value))) := by
        simp [value]
      rw [htext] at hs
      obtain ⟨m, hm, hsteps⟩ := steps_question hs hopens
      exact ⟨m, true, hm, hsteps⟩
  have hle : ∀ c ∈ (column :: below).head?, c ≤ m.column := by
    rintro c ⟨⟩
    exact Nat.le_of_lt hcolumn
  obtain ⟨u, hscalar, hu⟩ := step_scalar
    (stands_space hle (Scalar.startsToken_write (column + 2) v _).1)
    (Nat.lt_succ_of_lt hcolumn) hi hrest hunwind
  exact ⟨u, hsteps.tail hscalar, hu⟩

end Entries

end Lexer

end AlertRules.Yaml
