/-
AlertRules/Proofs/Placeholder/Template.lean

Templates as data.  A `Template` is literals with a reference to a field between each two of
them, every reference in one of the two notations, with any spaces and tabs inside and with a
mark for cutting white space on either side.  That a literal makes no opener, alone or with the
brace behind it, is part of the type.

What substitution gives on such a text is defined from the data alone: the literals, cut where
the marks say so, with the values between them (`Template.filled`).  Two scans of the text have
to arrive at that.  The rewriting of brackets finds exactly the references in bracket notation,
even where a bracket of the literal touches them (`toBraces_pieces`); then each reference is
found between its braces, and its marks are told from its blanks (`segments_pieces`).  So
substitution is the reference filling on every template (`substitute_template`).
-/
import AlertRules.Proofs.Placeholder.Segments

namespace AlertRules.Placeholder

/-! ### Fields -/

/-- The fields that can have a value. -/
inductive Field
  | threshold
  | duration
  deriving DecidableEq, Repr

def Field.name : Field → String
  | threshold => "Threshold"
  | duration => "Duration"

def Bindings.get (b : Bindings) : Field → Option String
  | .threshold => b.threshold
  | .duration => b.duration

theorem Bindings.value?_name (b : Bindings) (f : Field) : b.value? f.name = b.get f := by
  cases f <;> rfl

theorem Field.isIdentifier_name (f : Field) : isIdentifier f.name.toList = true := by
  cases f <;> decide

/-- A name ends in a letter. -/
theorem Field.exists_reverse_name (f : Field) :
    ∃ c rest, f.name.toList.reverse = c :: rest ∧ c ≠ '-' ∧ Text.isBlank c = false := by
  cases f with
  | threshold => exact ⟨'d', "lohserhT".toList, by decide, by decide, by decide⟩
  | duration => exact ⟨'n', "oitaruD".toList, by decide, by decide, by decide⟩

/-! ### Marks -/

/-- The mark for cutting, where there is one. -/
def mark (cuts : Bool) : List Char := if cuts then ['-'] else []

theorem opensField_lead {lead : List Char} (h : ∀ c ∈ lead, isLead c = true) (more : List Char) :
    opensField (lead ++ '.' :: more) = true := by
  induction lead with
  | nil => rfl
  | cons c lead ih =>
    rw [List.forall_mem_cons] at h
    rw [List.cons_append, opensField_cons, if_pos h.1, ih h.2]

/-- A mark is taken off a text that starts with blanks, and with at least one behind a mark. -/
theorem stripMark_mark {cuts : Bool} {blanks : List Char} {c : Char} (more : List Char)
    (hblanks : ∀ a ∈ blanks, Text.isBlank a = true) (hne : cuts = true → blanks ≠ [])
    (hc : c ≠ '-') :
    stripMark (mark cuts ++ (blanks ++ c :: more)) = (cuts, blanks ++ c :: more) := by
  cases cuts with
  | true =>
    obtain ⟨a, rest, rfl⟩ := List.exists_cons_of_ne_nil (hne rfl)
    show (if Text.isBlank a = true then _ else _) = _
    rw [if_pos (hblanks a List.mem_cons_self)]
    rfl
  | false =>
    -- the first character alone tells that there is no mark
    have hfirst : ∀ a rest, a ≠ '-' → stripMark (a :: rest) = (false, a :: rest) := by
      intro a rest ha
      unfold stripMark
      split
      · next h => exact absurd (List.cons.inj h).1 ha
      · rfl
    cases blanks with
    | nil => exact hfirst c more hc
    | cons a rest =>
      apply hfirst
      rintro rfl
      exact absurd (hblanks '-' List.mem_cons_self) (by decide)

/-! ### References -/

/-- The two notations of a reference. -/
inductive Delimiter
  | brace
  | bracket
  deriving DecidableEq, Repr

def Delimiter.opener : Delimiter → Char
  | brace => '{'
  | bracket => '['

def Delimiter.closer : Delimiter → Char
  | brace => '}'
  | bracket => ']'

/-- A reference to a field: blanks, a full stop and the name, and blanks again.  A mark stands
next to the delimiters and has a blank on its other side. -/
structure Reference where
  delimiter : Delimiter
  field : Field
  cutsBefore : Bool := false
  lead : List Char := []
  trail : List Char := []
  cutsAfter : Bool := false
  lead_blank : ∀ c ∈ lead, c = ' ' ∨ c = '\t' := by simp
  trail_blank : ∀ c ∈ trail, c = ' ' ∨ c = '\t' := by simp
  lead_ne_nil : cutsBefore = true → lead ≠ [] := by simp
  trail_ne_nil : cutsAfter = true → trail ≠ [] := by simp

namespace Reference

/-- What is left between the delimiters without the marks. -/
def body (r : Reference) : List Char := r.lead ++ ('.' :: r.field.name.toList ++ r.trail)

def inner (r : Reference) : List Char := mark r.cutsBefore ++ (r.body ++ mark r.cutsAfter)

/-- The reference between two delimiters on either side. -/
def enclose (r : Reference) (d : Delimiter) : List Char :=
  d.opener :: d.opener :: (r.inner ++ [d.closer, d.closer])

def chars (r : Reference) : List Char := r.enclose r.delimiter

def text (r : Reference) : String := String.ofList r.chars

variable (r : Reference)

theorem isBlank_of_mem_lead {c : Char} (h : c ∈ r.lead) : Text.isBlank c = true := by
  rcases r.lead_blank c h with rfl | rfl <;> rfl

theorem isBlank_of_mem_trail {c : Char} (h : c ∈ r.trail) : Text.isBlank c = true := by
  rcases r.trail_blank c h with rfl | rfl <;> rfl

theorem enclose_append (d : Delimiter) (rest : List Char) : r.enclose d ++ rest =
    d.opener :: d.opener :: (r.inner ++ d.closer :: d.closer :: rest) := by
  simp [enclose]

/-- Between the delimiters there are only marks, blanks and a name. -/
theorem of_mem_inner {c : Char} (h : c ∈ r.inner) :
    c = '-' ∨ c = ' ' ∨ c = '\t' ∨ c = '.' ∨ c ∈ r.field.name.toList := by
  have hmark : ∀ cuts, c ∈ mark cuts → c = '-' := by
    intro cuts hc
    cases cuts with
    | false => cases hc
    | true => exact List.mem_singleton.1 hc
  simp only [inner, body, List.mem_append, List.mem_cons, List.cons_append] at h
  rcases h with hc | (hc | rfl | hc | hc) | hc
  · exact .inl (hmark _ hc)
  · exact .inr ((r.lead_blank c hc).imp_right .inl)
  · simp
  · simp [hc]
  · exact .inr ((r.trail_blank c hc).imp_right .inl)
  · exact .inl (hmark _ hc)

/-- So no bracket or brace is among them. -/
theorem not_mem_inner {c : Char} (hc : c ∈ ['[', ']', '{', '}']) : c ∉ r.inner := by
  intro h
  have hone := r.of_mem_inner h
  simp only [List.mem_cons, List.not_mem_nil, or_false] at hc
  rcases hc with rfl | rfl | rfl | rfl
  all_goals
    revert hone
    cases r.field <;> decide

theorem not_hasPair_inner {c : Char} (hc : c ∈ ['[', ']', '{', '}']) :
    ¬ HasPair c (r.inner ++ [c]) := by
  rw [hasPair_append, not_or, not_or]
  refine ⟨fun h => r.not_mem_inner hc h.mem, by simp [hasPair_cons, not_hasPair_nil], ?_⟩
  rintro ⟨hlast, -⟩
  exact r.not_mem_inner hc (List.mem_of_getLast? hlast)

/-! ### What is read between the delimiters -/

theorem opensField_inner : opensField r.inner = true := by
  have hlead : ∀ c ∈ mark r.cutsBefore ++ r.lead, isLead c = true := by
    intro c hc
    rcases List.mem_append.1 hc with hc | hc
    · cases hcuts : r.cutsBefore with
      | false => rw [hcuts] at hc; cases hc
      | true =>
        rw [hcuts] at hc
        rw [List.mem_singleton.1 hc]
        rfl
    · rcases r.lead_blank c hc with rfl | rfl <;> rfl
  have hopens := opensField_lead hlead (r.field.name.toList ++ (r.trail ++ mark r.cutsAfter))
  simpa [inner, body] using hopens

/-- The mark behind the field is looked for from the end, whatever stands in front. -/
theorem stripMark_reverse (front : List Char) :
    stripMark (front ++ (r.body ++ mark r.cutsAfter)).reverse =
      (r.cutsAfter, (front ++ r.body).reverse) := by
  obtain ⟨c, rest, hname, hc, -⟩ := r.field.exists_reverse_name
  have hstrip := stripMark_mark (rest ++ '.' :: (r.lead.reverse ++ front.reverse))
    (fun a ha => r.isBlank_of_mem_trail (List.mem_reverse.1 ha))
    (fun hcuts h => r.trail_ne_nil hcuts (List.reverse_eq_nil_iff.1 h)) hc
  have hmark : (mark r.cutsAfter).reverse = mark r.cutsAfter := by
    cases r.cutsAfter <;> rfl
  simpa [body, hmark, hname] using hstrip

theorem ofInner_inner : Action.ofInner r.inner = ⟨r.cutsBefore, r.cutsAfter, r.body⟩ := by
  have hbefore : stripMark r.inner = (r.cutsBefore, r.body ++ mark r.cutsAfter) := by
    have hstrip := stripMark_mark (r.field.name.toList ++ (r.trail ++ mark r.cutsAfter))
      (fun _ => r.isBlank_of_mem_lead) r.lead_ne_nil (c := '.') (by decide)
    simpa [inner, body] using hstrip
  have hafter : stripMark (r.body ++ mark r.cutsAfter).reverse = (r.cutsAfter, r.body.reverse) :=
    r.stripMark_reverse []
  rw [Action.ofInner, hbefore]
  simp only [hafter, List.reverse_reverse]

theorem field?_inner : (Action.ofInner r.inner).field? = some r.field.name := by
  have htrim : Text.trim r.body = '.' :: r.field.name.toList := by
    apply Text.trim_surrounded (fun _ => r.isBlank_of_mem_lead) (fun _ => r.isBlank_of_mem_trail)
      (List.cons_ne_nil _ _)
    · rintro c ⟨⟩
      decide
    · intro c hc
      obtain ⟨a, rest, hname, -, ha⟩ := r.field.exists_reverse_name
      rw [List.getLast?_eq_head?_reverse, List.reverse_cons, hname] at hc
      cases hc
      exact ha
  rw [r.ofInner_inner, Action.field?]
  simp only [htrim, r.field.isIdentifier_name, if_true, String.ofList_toList]

end Reference

/-! ### Templates -/

/-- A literal and the reference behind it. -/
structure Piece where
  literal : List Char
  reference : Reference
  no_brackets : ¬ HasPair '[' literal := by decide
  no_braces : ¬ HasPair '{' literal := by decide
  no_brace_last : literal.getLast? ≠ some '{' := by decide

/-- Pieces, and a literal behind them. -/
structure Template where
  pieces : List Piece
  last : List Char
  no_brackets : ¬ HasPair '[' last := by decide
  no_braces : ¬ HasPair '{' last := by decide

def Piece.chars (p : Piece) : List Char := p.literal ++ p.reference.chars

/-- A piece with its reference in braces. -/
def Piece.braced (p : Piece) : List Char := p.literal ++ p.reference.enclose .brace

def Template.text (t : Template) : String :=
  String.ofList (t.pieces.flatMap Piece.chars ++ t.last)

/-- The literals and the values between them; `trimmed` says that a mark stands before. -/
def fillPieces (b : Bindings) (last : List Char) : Bool → List Piece → List Char
  | trimmed, [] => cutLiteral trimmed false last
  | trimmed, p :: more =>
    cutLiteral trimmed p.reference.cutsBefore p.literal ++
      (((b.get p.reference.field).getD "").toList ++
        fillPieces b last p.reference.cutsAfter more)

/-- The text of a template with values in the places of its references. -/
def Template.filled (b : Bindings) (t : Template) : String :=
  String.ofList (fillPieces b t.last false t.pieces)

/-- The first of the fields referred to that has no value. -/
def Template.firstUnbound? (b : Bindings) (t : Template) : Option Field :=
  (t.pieces.map fun p => p.reference.field).find? fun f => (b.get f).isNone

/-! ### The rewriting of brackets -/

/-- In whatever notation, a reference makes no opener with a character before it. -/
theorem not_startsOpener_enclose (r : Reference) (d : Delimiter) (a : Char) (rest : List Char) :
    ¬ StartsOpener (a :: (r.enclose d ++ rest)) := by
  rintro ⟨after, h, hfield, -⟩
  cases d with
  | brace => exact absurd (List.cons.inj (List.cons.inj h).2).1 (by decide)
  | bracket =>
    -- what follows the two brackets is the second bracket of the reference
    obtain ⟨-, rfl⟩ := List.cons.inj (List.cons.inj h).2
    exact Bool.false_ne_true hfield

theorem toBraces_enclose (r : Reference) (d : Delimiter) (rest : List Char) :
    toBraces (r.enclose d ++ rest) = r.enclose .brace ++ toBraces rest := by
  cases d with
  | bracket =>
    rw [r.enclose_append, r.enclose_append]
    exact toBraces_placeholder r.opensField_inner (r.not_hasPair_inner (by decide)) rest
  | brace =>
    -- in braces there is no bracket, so the scan passes over the reference
    have hno : '[' ∉ r.enclose .brace := by
      have hinner := r.not_mem_inner (c := '[') (by decide)
      simpa [Reference.enclose, Delimiter.opener, Delimiter.closer] using hinner
    apply toBraces_append fun h => hno h.mem
    rintro c hc ⟨after, h, -⟩
    exact hno ((List.cons.inj h).1 ▸ List.mem_of_getLast? hc)

/-- The rewriting puts every reference in braces and leaves the literals alone. -/
theorem toBraces_pieces {last : List Char} (hlast : ¬ HasPair '[' last) (pieces : List Piece) :
    toBraces (pieces.flatMap Piece.chars ++ last) =
      pieces.flatMap Piece.braced ++ last := by
  induction pieces with
  | nil =>
    rw [List.flatMap_nil, List.flatMap_nil, List.nil_append, toBraces_eq_self_iff]
    rintro ⟨before, after, rfl, -⟩
    exact hlast ⟨before, after, rfl⟩
  | cons p more ih =>
    -- a bracket at the end of the literal makes no opener with those of the reference
    have hliteral := toBraces_append p.no_brackets fun c _ =>
      not_startsOpener_enclose p.reference p.reference.delimiter c
        (more.flatMap Piece.chars ++ last)
    rw [List.flatMap_cons, List.flatMap_cons, Piece.chars, Piece.braced, Reference.chars,
      List.append_assoc, List.append_assoc, List.append_assoc, List.append_assoc, hliteral,
      toBraces_enclose, ih]

/-! ### Segments of templates -/

def pieceSegments (last : List Char) : Bool → List Piece → List Segment
  | trimmed, [] => literalSegment (cutLiteral trimmed false last)
  | trimmed, p :: more =>
    literalSegment (cutLiteral trimmed p.reference.cutsBefore p.literal) ++
      .field p.reference.field.name :: pieceSegments last p.reference.cutsAfter more

/-- With every reference in braces, the segments are the literals and the fields. -/
theorem segments_pieces {last : List Char} (hlast : ¬ HasPair '{' last) (trimmed : Bool)
    (pieces : List Piece) :
    segments trimmed (pieces.flatMap Piece.braced ++ last) =
      .ok (pieceSegments last trimmed pieces) := by
  induction pieces generalizing trimmed with
  | nil => exact segments_of_none (breakAtPair?_eq_none_iff.2 hlast)
  | cons p more ih =>
    -- the first pair of braces is the reference's own, not one that the literal begins
    have hliteral : ¬ HasPair '{' (p.literal ++ ['{']) := by
      rw [hasPair_append, not_or, not_or]
      exact ⟨p.no_braces, by simp [hasPair_cons, not_hasPair_nil],
        fun h => p.no_brace_last h.1⟩
    have hopen := breakAtPair?_append hliteral
    have hclose := breakAtPair?_append (p.reference.not_hasPair_inner (c := '}') (by decide))
    have hbraces := p.reference.enclose_append .brace
    rw [Delimiter.opener, Delimiter.closer] at hbraces
    rw [List.flatMap_cons, Piece.braced, List.append_assoc, List.append_assoc, hbraces,
      segments_of_action (hopen _) (hclose _), p.reference.field?_inner,
      p.reference.ofInner_inner]
    show (segments p.reference.cutsAfter _).map _ = _
    rw [ih]
    rfl

theorem segmentsOf_text (t : Template) :
    segmentsOf t.text = .ok (pieceSegments t.last false t.pieces) := by
  rw [segmentsOf, Template.text, String.toList_ofList, toBraces_pieces t.no_brackets,
    segments_pieces t.no_braces]

/-! ### Substitution in templates -/

theorem flatMap_fill_pieces (b : Bindings) (last : List Char) (trimmed : Bool)
    (pieces : List Piece) :
    (pieceSegments last trimmed pieces).flatMap (Segment.fill b) =
      fillPieces b last trimmed pieces := by
  induction pieces generalizing trimmed with
  | nil => exact flatMap_fill_last
  | cons p more ih =>
    rw [pieceSegments, flatMap_fill_literal, List.flatMap_cons, ih, Segment.fill,
      b.value?_name, fillPieces]

theorem undefinedField?_literal {b : Bindings} {cs : List Char} {more : List Segment} :
    undefinedField? b (literalSegment cs ++ more) = undefinedField? b more := by
  cases cs <;> rfl

theorem undefinedField?_field {b : Bindings} {name : String} {more : List Segment} :
    undefinedField? b (.field name :: more) =
      if (b.value? name).isNone then some name else undefinedField? b more := by
  cases hvalue : b.value? name with
  | none => simp [undefinedField?, hvalue]
  | some value => simp [undefinedField?, hvalue]

theorem undefinedField?_pieces (b : Bindings) (last : List Char) (trimmed : Bool)
    (pieces : List Piece) :
    undefinedField? b (pieceSegments last trimmed pieces) =
      ((pieces.map fun p => p.reference.field).find? fun f => (b.get f).isNone).map
        Field.name := by
  induction pieces generalizing trimmed with
  | nil =>
    rw [pieceSegments, ← List.append_nil (literalSegment _), undefinedField?_literal]
    rfl
  | cons p more ih =>
    rw [pieceSegments, undefinedField?_literal, undefinedField?_field, List.map_cons,
      List.find?_cons, b.value?_name, ih]
    cases b.get p.reference.field <;> rfl

/-- On a template, substitution gives its filled text if every field that it refers to has a
value, and is refused for the first one without a value if there is one. -/
theorem substitute_template (b : Bindings) (t : Template) :
    substitute b t.text = match t.firstUnbound? b with
      | some field => .error (.undefinedField field.name t.text)
      | none => .ok (t.filled b) := by
  have hundefined : undefinedField? b (pieceSegments t.last false t.pieces) =
      (t.firstUnbound? b).map Field.name := undefinedField?_pieces b t.last false t.pieces
  rw [substitute, segmentsOf_text]
  simp only [hundefined, flatMap_fill_pieces]
  cases t.firstUnbound? b with
  | none => rfl
  | some field => rfl

/-- A template with both notations, brackets of a range around a reference and braces of a
selector behind one. -/
def touching : Template where
  pieces := [
    { literal := "rate(up\x7bcode=\"".toList
      reference := { delimiter := .brace, field := .threshold } },
    { literal := "\"\x7d[".toList
      reference := { delimiter := .bracket, field := .duration, lead := [' '], trail := ['\t'] } },
    { literal := "]) > \t".toList
      reference :=
        { delimiter := .bracket, field := .threshold, cutsBefore := true, lead := [' '] } }]
  last := "]".toList

theorem substitute_touching :
    touching.text = "rate(up\x7bcode=\"\x7b\x7b.Threshold\x7d\x7d\"\x7d[[[ .Duration\t]]]) > \t" ++
      "[[- .Threshold]]]" ∧
    substitute ⟨some "9", some "5m0s"⟩ touching.text =
      .ok "rate(up\x7bcode=\"9\"\x7d[5m0s]) >9]" ∧
    substitute ⟨some "9", none⟩ touching.text =
      .error (.undefinedField "Duration" touching.text) := by
  refine ⟨by decide, ?_, ?_⟩
  · exact (substitute_template _ touching).trans (by decide +kernel)
  · exact (substitute_template _ touching).trans (by decide +kernel)

/-! ### A reference alone -/

namespace Reference

/-- The template that is nothing but a reference. -/
def template (r : Reference) : Template where
  pieces := [{ literal := [], reference := r }]
  last := []

variable (r : Reference)

theorem text_template : r.template.text = r.text := by
  simp [template, Template.text, Piece.chars, text, chars]

theorem segmentsOf_text : segmentsOf r.text = .ok [.field r.field.name] := by
  rw [← r.text_template, AlertRules.Placeholder.segmentsOf_text]
  show Except.ok (literalSegment (cutLiteral false r.cutsBefore []) ++
    .field r.field.name :: literalSegment (cutLiteral r.cutsAfter false [])) = _
  cases r.cutsBefore <;> cases r.cutsAfter <;> rfl

theorem hasPlaceholders_text : hasPlaceholders r.text = true := by
  rw [hasPlaceholders, r.segmentsOf_text]
  rfl

/-- Substitution leaves the value of the field, as it is. -/
theorem substitute_text (b : Bindings) :
    substitute b r.text = match b.get r.field with
      | some value => .ok value
      | none => .error (.undefinedField r.field.name r.text) := by
  rw [substitute, r.segmentsOf_text]
  simp only [undefinedField?_field, b.value?_name]
  cases hvalue : b.get r.field with
  | none => rfl
  | some value => simp [undefinedField?, Segment.fill, b.value?_name, hvalue]

theorem isBlankText_text : Text.isBlankText r.text = false := by
  rw [Text.isBlankText, text, String.toList_ofList, chars, enclose, List.all_cons]
  cases r.delimiter <;> rfl

end Reference

end AlertRules.Placeholder
