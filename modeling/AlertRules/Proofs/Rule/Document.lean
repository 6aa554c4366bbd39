/-
AlertRules/Proofs/Rule/Document.lean

Rules and groups survive being written and read.  The written lines of a rule show its fields
(`Rule.showsEach_fields`), and from these fields the rule is read (`Rule.ofNode?_recordNode`);
so every rule, and with rules as items every group, is read back from its document
(`Rule.read?_write`, `RuleGroup.read?_write`), whatever its texts are.
-/
import AlertRules.Proofs.Labels
import AlertRules.Proofs.Yaml.Document
import AlertRules.Rule.Document

namespace AlertRules

open Yaml

/-! ### Nodes of records -/

def textNode (value : String) : Node := scalarNode value.toList

/-- A field as an entry of a mapping. -/
def fieldEntry (f : String × Node) : Node × Node := (textNode f.1, f.2)

def recordNode (fs : List (String × Node)) : Node := .mapping none (fs.map fieldEntry)

def labelsNode (m : Labels) : Node := recordNode (m.entries.map fun e => (e.1, textNode e.2))

/-- A field that is left out where it has nothing to show. -/
def fieldUnless (empty : Bool) (name : String) (value : Node) : List (String × Node) :=
  if empty then [] else [(name, value)]

def Rule.fields (r : Rule) : List (String × Node) :=
  [("alert", textNode r.alert), ("expr", textNode r.expr)] ++
  fieldUnless (r.pending = "") "for" (textNode r.pending) ++
  fieldUnless r.labels.isEmpty "labels" (labelsNode r.labels) ++
  fieldUnless r.annotations.isEmpty "annotations" (labelsNode r.annotations)

def RuleGroup.fields (g : RuleGroup) : List (String × Node) :=
  [("name", textNode g.name)] ++ fieldUnless (g.interval = "") "interval" (textNode g.interval) ++
  [("rules", .sequence none (g.rules.map fun r => recordNode r.fields))]

/-! ### Reading records -/

section Reading

variable {anchors : List (Nat × Node)}

theorem text?_textNode (value : String) : (textNode value).text? anchors = some value :=
  congrArg some String.ofList_toList

theorem fields?_recordNode (fs : List (String × Node)) :
    (recordNode fs).fields? anchors = some fs := by
  show ((fs.map fieldEntry).mapM fun e => (e.1.text? anchors).map fun key => (key, e.2)) = some fs
  induction fs with
  | nil => rfl
  | cons f fs ih =>
    rw [List.map_cons, List.mapM_cons, ih, fieldEntry, text?_textNode]
    rfl

/-- Fields that come in the order in which they are allowed are a record. -/
theorem record?_recordNode {allowed : List String} {fs : List (String × Node)}
    (hallowed : allowed.Nodup) (h : (fs.map Prod.fst).Sublist allowed) :
    (recordNode fs).record? anchors allowed = some fs := by
  have hmem : fs.all (fun f => allowed.contains f.1) = true := by
    rw [List.all_eq_true]
    intro f hf
    exact List.contains_iff_mem.2 (h.subset (List.mem_map_of_mem hf))
  have hnodup : (fs.map Prod.fst).Nodup := hallowed.sublist h
  rw [Node.record?, fields?_recordNode, Option.filter_some, hmem, decide_eq_true hnodup]
  rfl

theorem labels?_labelsNode (m : Labels) : (labelsNode m).labels? anchors = some m := by
  have hvalues : (m.entries.map fun e => (e.1, textNode e.2)).mapM (fun f =>
      (f.2.text? anchors).map fun value => (f.1, value)) = some m.entries := by
    induction m.entries with
    | nil => rfl
    | cons e es ih =>
      rw [List.map_cons, List.mapM_cons, ih, text?_textNode]
      rfl
  rw [labelsNode, Node.labels?, fields?_recordNode, Option.bind_eq_bind, Option.bind_some, hvalues,
    Option.bind_eq_bind, Option.bind_some, Labels.ofList_entries]
  rfl

section FieldUnless

variable {empty : Bool} {name : String} {value : Node}

theorem map_fst_fieldUnless :
    (fieldUnless empty name value).map Prod.fst = if empty then [] else [name] := by
  cases empty <;> rfl

theorem names_fieldUnless : ((fieldUnless empty name value).map Prod.fst).Sublist [name] := by
  rw [map_fst_fieldUnless]
  cases empty
  · exact .refl _
  · exact List.nil_sublist _

theorem lookup_fieldUnless {name' : String} (h : (name' == name) = false) :
    (fieldUnless empty name value).lookup name' = none := by
  cases empty
  · show (match name' == name with | true => some value | false => none) = none
    rw [h]
  · rfl

/-- What is left out is read as the default, and what is not is read from its node. -/
theorem readField?_fieldUnless {α : Type} {before after : List (String × Node)} {a default : α}
    {read? : Node → Option α} (hbefore : before.lookup name = none)
    (hafter : after.lookup name = none) (hempty : empty = true → a = default)
    (hread : read? value = some a) :
    readField? (before ++ fieldUnless empty name value ++ after) name default read? = some a := by
  rw [readField?, List.lookup_append, List.lookup_append, hbefore, hafter, Option.none_or,
    Option.or_none]
  cases empty
  · rw [fieldUnless, if_neg Bool.false_ne_true, List.lookup_cons_self]
    exact hread
  · exact congrArg some (hempty rfl).symm

end FieldUnless

/-- A rule is read from its fields. -/
theorem Rule.ofNode?_recordNode (r : Rule) : ofNode? anchors (recordNode r.fields) = some r := by
  have hnames : (r.fields.map Prod.fst).Sublist fieldNames := by
    simp only [fields, List.map_append]
    exact (((List.Sublist.refl ["alert", "expr"]).append names_fieldUnless).append
      names_fieldUnless).append names_fieldUnless
  have hrecord : (recordNode r.fields).record? anchors fieldNames = some r.fields :=
    record?_recordNode (by decide) hnames
  have halert : r.fields.lookup "alert" = some (textNode r.alert) := rfl
  have hexpr : r.fields.lookup "expr" = some (textNode r.expr) := rfl
  have hpending : readField? r.fields "for" "" (Node.text? anchors) = some r.pending := by
    rw [fields, List.append_assoc]
    refine readField?_fieldUnless rfl ?_ of_decide_eq_true (text?_textNode r.pending)
    rw [List.lookup_append, lookup_fieldUnless (by decide), lookup_fieldUnless (by decide)]
    rfl
  have hlabels : readField? r.fields "labels" .empty (Node.labels? anchors) = some r.labels := by
    refine readField?_fieldUnless ?_ (lookup_fieldUnless (by decide)) Labels.eq_empty_of_isEmpty
      (labels?_labelsNode r.labels)
    rw [List.lookup_append, lookup_fieldUnless (by decide)]
    rfl
  have hannotations : readField? r.fields "annotations" .empty (Node.labels? anchors) =
      some r.annotations := by
    rw [fields, ← List.append_nil (_ ++ fieldUnless r.annotations.isEmpty _ _)]
    refine readField?_fieldUnless ?_ rfl Labels.eq_empty_of_isEmpty
      (labels?_labelsNode r.annotations)
    rw [List.lookup_append, List.lookup_append, lookup_fieldUnless (by decide),
      lookup_fieldUnless (by decide)]
    rfl
  rw [ofNode?, hrecord]
  simp only [Option.bind_eq_bind, Option.bind_some, halert, hexpr, text?_textNode, hpending,
    hlabels, hannotations]
  rfl

theorem mapM_ofNode?_recordNode (rules : List Rule) :
    (rules.map fun r => recordNode r.fields).mapM (Rule.ofNode? anchors) = some rules := by
  induction rules with
  | nil => rfl
  | cons r rules ih =>
    rw [List.map_cons, List.mapM_cons, ih, Rule.ofNode?_recordNode]
    rfl

/-- A group is read from its fields. -/
theorem RuleGroup.ofNode?_recordNode (g : RuleGroup) :
    ofNode? anchors (recordNode g.fields) = some g := by
  have hnames : (g.fields.map Prod.fst).Sublist fieldNames := by
    simp only [fields, List.map_append]
    exact ((List.Sublist.refl ["name"]).append names_fieldUnless).append (.refl ["rules"])
  have hrecord : (recordNode g.fields).record? anchors fieldNames = some g.fields :=
    record?_recordNode (by decide) hnames
  have hname : g.fields.lookup "name" = some (textNode g.name) := rfl
  have hinterval : readField? g.fields "interval" "" (Node.text? anchors) = some g.interval :=
    readField?_fieldUnless rfl rfl of_decide_eq_true (text?_textNode g.interval)
  have hlookup : g.fields.lookup "rules" =
      some (.sequence none (g.rules.map fun r => recordNode r.fields)) := by
    rw [fields, List.lookup_append, List.lookup_append, lookup_fieldUnless (by decide)]
    rfl
  have hrules : readField? g.fields "rules" [] (fun n =>
      (n.items? anchors).bind (List.mapM (Rule.ofNode? anchors))) = some g.rules := by
    rw [readField?, hlookup]
    exact mapM_ofNode?_recordNode g.rules
  rw [ofNode?, hrecord]
  simp only [Option.bind_eq_bind, Option.bind_some, hname, text?_textNode, hinterval, hrules]
  rfl

end Reading

/-! ### Writing records -/

/-- The names of fields are written as they are. -/
theorem write_name {name : String} (h : Scalar.styleOf name.toList = .plain) (n : Nat) :
    Scalar.write n name.toList = name.toList := by
  rw [Scalar.write, h]

theorem shows_text (column : Nat) (name value : String) :
    Shows column (Scalar.writeEntry column name.toList value.toList)
      [fieldEntry (name, textNode value)] :=
  shows_entry column name.toList value.toList

/-- A text is left out, or its line shows its field. -/
theorem showsEach_textUnless {p : Prop} [Decidable p] (column : Nat) (name value : String) :
    ShowsEach column (if p then [] else [Scalar.writeEntry column name.toList value.toList])
      ((fieldUnless p name (textNode value)).map fieldEntry) := by
  by_cases hp : p
  · rw [if_pos hp, decide_eq_true hp]
    exact .nil
  · rw [if_neg hp, decide_eq_false hp]
    exact .cons (shows_text column name value) .nil

theorem showsEach_labels {name : String} (hplain : Scalar.styleOf name.toList = .plain)
    (hkey : Scalar.isSimpleKey name.toList = true) (column : Nat) (m : Labels) :
    ShowsEach column (Rule.writeLabels column name m)
      ((fieldUnless m.isEmpty name (labelsNode m)).map fieldEntry) := by
  obtain ⟨entries, sorted⟩ := m
  cases entries with
  | nil => exact .nil
  | cons e es =>
    have hlines : ShowsEach (column + 2)
        (es.map fun e => Scalar.writeEntry (column + 2) e.1.toList e.2.toList)
        ((es.map fun e => (e.1, textNode e.2)).map fieldEntry) := by
      clear sorted
      induction es with
      | nil => exact .nil
      | cons e es ih => exact .cons (shows_text _ e.1 e.2) ih
    have hinside := ((shows_text (column + 2) e.1 e.2).lines hlines).inside hkey
    rw [write_name hplain, List.flatMap_map] at hinside
    have htext : name.toList ++ [':', '\n'] ++ (e :: es).flatMap (fun e =>
        List.replicate (column + 2) ' ' ++ Scalar.writeEntry (column + 2) e.1.toList e.2.toList) =
          name.toList ++ ':' :: '\n' :: (List.replicate (column + 2) ' ' ++
            (Scalar.writeEntry (column + 2) e.1.toList e.2.toList ++ es.flatMap fun e =>
              List.replicate (column + 2) ' ' ++
                Scalar.writeEntry (column + 2) e.1.toList e.2.toList)) := by
      simp
    refine .cons ?_ .nil
    rw [htext]
    exact hinside

/-! ### Rules -/

namespace Rule

/-- The lines of a rule show its fields. -/
theorem showsEach_fields (column : Nat) (r : Rule) :
    ShowsEach column (r.writeFields column) (r.fields.map fieldEntry) := by
  have hfirst : ShowsEach column
      [Scalar.writeEntry column "alert".toList r.alert.toList,
        Scalar.writeEntry column "expr".toList r.expr.toList]
      [fieldEntry ("alert", textNode r.alert), fieldEntry ("expr", textNode r.expr)] :=
    .cons (shows_text column "alert" r.alert) (.cons (shows_text column "expr" r.expr) .nil)
  have hlabels : ShowsEach column (writeLabels column "labels" r.labels) _ :=
    showsEach_labels (by decide) (by decide) column r.labels
  have hannotations : ShowsEach column (writeLabels column "annotations" r.annotations) _ :=
    showsEach_labels (by decide) (by decide) column r.annotations
  simp only [writeFields, fields, List.map_append]
  exact ((hfirst.append (showsEach_textUnless _ _ _)).append hlabels).append hannotations

/-- The document of a rule is the record of its fields. -/
theorem document?_write (r : Rule) :
    ∃ anchors, Document.read? r.write = some ⟨recordNode r.fields, anchors⟩ :=
  read?_of_shows ((r.showsEach_fields 0).shows_flatten nofun)

theorem read?_write (r : Rule) : read? r.write = some r := by
  obtain ⟨anchors, hdocument⟩ := r.document?_write
  rw [read?, hdocument]
  exact r.ofNode?_recordNode

end Rule

/-! ### Groups -/

namespace RuleGroup

/-- A rule as an item of a sequence shows its fields behind the hyphen. -/
theorem shows_item (r : Rule) :
    ∃ text, writeItem r = '-' :: ' ' :: text ∧ Shows 2 text (r.fields.map fieldEntry) :=
  ⟨_, rfl, (r.showsEach_fields 2).shows⟩

theorem shows_items (rules : List Rule) :
    ∃ texts, rules.flatMap writeItem = texts.flatMap (fun text => '-' :: ' ' :: text) ∧
      List.Forall₂ (Shows 2) texts (rules.map fun r => r.fields.map fieldEntry) := by
  induction rules with
  | nil => exact ⟨[], rfl, .nil⟩
  | cons r rules ih =>
    obtain ⟨text, hwrite, hshows⟩ := shows_item r
    obtain ⟨texts, hwrites, hmore⟩ := ih
    refine ⟨text :: texts, ?_, .cons hshows hmore⟩
    rw [List.flatMap_cons, List.flatMap_cons, hwrite, hwrites]

def writeRules (rules : List Rule) : List Char :=
  if rules.isEmpty then "rules: []\n".toList else "rules:\n".toList ++ rules.flatMap writeItem

theorem shows_rules (rules : List Rule) :
    Shows 0 (writeRules rules)
      [fieldEntry ("rules", .sequence none (rules.map fun r => recordNode r.fields))] := by
  have hwrite : Scalar.write 2 "rules".toList = "rules".toList := write_name (by decide) 2
  have hkey : Scalar.isSimpleKey "rules".toList = true := by decide
  cases hrules : rules with
  | nil =>
    have hshows := shows_noItems hkey
    rw [hwrite] at hshows
    exact hshows
  | cons r more =>
    rw [← hrules]
    obtain ⟨texts, hwrites, hitems⟩ := shows_items rules
    have hne : texts ≠ [] := by
      rintro rfl
      rw [hrules] at hitems
      cases hitems
    have hshows := Yaml.shows_items hkey hne hitems
    rw [hwrite, ← hwrites, List.map_map] at hshows
    rw [writeRules, hrules, if_neg nofun, ← hrules]
    exact hshows

def lines (g : RuleGroup) : List (List Char) :=
  [Scalar.writeEntry 0 "name".toList g.name.toList] ++
  (if g.interval = "" then [] else [Scalar.writeEntry 0 "interval".toList g.interval.toList]) ++
  [writeRules g.rules]

theorem write_eq_lines (g : RuleGroup) : g.write = String.ofList g.lines.flatten := by
  simp only [write, lines, List.flatten_append, List.flatten_singleton, apply_ite List.flatten,
    List.flatten_nil]
  rfl

theorem showsEach_lines (g : RuleGroup) : ShowsEach 0 g.lines (g.fields.map fieldEntry) := by
  have hname : ShowsEach 0 [Scalar.writeEntry 0 "name".toList g.name.toList]
      [fieldEntry ("name", textNode g.name)] := .cons (shows_text 0 "name" g.name) .nil
  simp only [fields, List.map_append]
  exact (hname.append (showsEach_textUnless _ _ _)).append (.cons (shows_rules g.rules) .nil)

/-- The document of a group is the record of its fields. -/
theorem document?_write (g : RuleGroup) :
    ∃ anchors, Document.read? g.write = some ⟨recordNode g.fields, anchors⟩ := by
  rw [write_eq_lines]
  exact read?_of_shows (g.showsEach_lines.shows_flatten nofun)

theorem read?_write (g : RuleGroup) : read? g.write = some g := by
  obtain ⟨anchors, hdocument⟩ := g.document?_write
  rw [read?, hdocument]
  exact g.ofNode?_recordNode

end RuleGroup

/-! ### Round trip -/

/-- Every rule and every group is read back from its document, which leaves out just the
fields that are empty. -/
theorem documents_round_trip :
    (∀ r : Rule, Rule.read? r.write = some r ∧
      ∃ d fs, Document.read? r.write = some d ∧ d.root.fields? d.anchors = some fs ∧
        fs.map Prod.fst = ["alert", "expr"] ++ (if r.pending = "" then [] else ["for"]) ++
          (if r.labels.isEmpty then [] else ["labels"]) ++
          (if r.annotations.isEmpty then [] else ["annotations"])) ∧
    ∀ g : RuleGroup, RuleGroup.read? g.write = some g ∧
      ∃ d fs, Document.read? g.write = some d ∧ d.root.fields? d.anchors = some fs ∧
        fs.map Prod.fst = ["name"] ++ (if g.interval = "" then [] else ["interval"]) ++
          ["rules"] := by
  refine ⟨fun r => ⟨r.read?_write, ?_⟩, fun g => ⟨g.read?_write, ?_⟩⟩
  · obtain ⟨anchors, hdocument⟩ := r.document?_write
    refine ⟨_, r.fields, hdocument, fields?_recordNode r.fields, ?_⟩
    simp only [Rule.fields, List.map_append, map_fst_fieldUnless, decide_eq_true_eq]
    rfl
  · obtain ⟨anchors, hdocument⟩ := g.document?_write
    refine ⟨_, g.fields, hdocument, fields?_recordNode g.fields, ?_⟩
    simp only [RuleGroup.fields, List.map_append, map_fst_fieldUnless, decide_eq_true_eq]
    rfl

end AlertRules
