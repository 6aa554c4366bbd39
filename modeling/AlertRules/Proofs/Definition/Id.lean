/-
AlertRules/Proofs/Definition/Id.lean

The written form of an identifier.  It is made of hexadecimal digits and hyphens only,
so it is never empty and holds no slash.  It is read as the identifier (`parse?_render`), so
no two identifiers have the same (`render_injective`).
-/
import AlertRules.Definition.Id

namespace AlertRules.DefinitionId

theorem hexChar_ne_hyphen (d : Fin 16) : hexChar d ≠ '-' := by
  revert d; decide

theorem hexChar_ne_slash (d : Fin 16) : hexChar d ≠ '/' := by
  revert d; decide

/-- The parts between which the hyphens are put make up the text. -/
theorem hyphenate_parts {α : Type} (cs : List α) :
    cs.take 8 ++ ((cs.drop 8).take 4 ++ ((cs.drop 12).take 4 ++
      ((cs.drop 16).take 4 ++ cs.drop 20))) = cs := by
  rw [show cs.drop 20 = (cs.drop 16).drop 4 by rw [List.drop_drop], List.take_append_drop,
    show cs.drop 16 = (cs.drop 12).drop 4 by rw [List.drop_drop], List.take_append_drop,
    show cs.drop 12 = (cs.drop 8).drop 4 by rw [List.drop_drop], List.take_append_drop,
    List.take_append_drop]

/-- Taking the hyphens out of a hyphenated text leaves the text without its own. -/
theorem filter_hyphenate (cs : List Char) :
    (hyphenate cs).filter (· ≠ '-') = cs.filter (· ≠ '-') := by
  have hhyphen : ∀ r : List Char, ('-' :: r).filter (· ≠ '-') = r.filter (· ≠ '-') :=
    fun r => List.filter_cons_of_neg (by decide)
  conv => rhs; rw [← hyphenate_parts cs]
  simp only [hyphenate, List.filter_append, List.append_assoc, List.cons_append, hhyphen]

theorem filter_digits (ds : List (Fin 16)) :
    (ds.map hexChar).filter (· ≠ '-') = ds.map hexChar := by
  rw [List.filter_eq_self]
  intro c hc
  obtain ⟨d, -, rfl⟩ := List.mem_map.1 hc
  exact decide_eq_true (hexChar_ne_hyphen d)

theorem toList_render (id : DefinitionId) :
    id.render.toList = hyphenate (id.digits.map hexChar) := String.toList_ofList

theorem render_ne_empty (id : DefinitionId) : id.render ≠ "" := by
  intro h
  have hlist := congrArg String.toList h
  rw [toList_render, hyphenate] at hlist
  simp at hlist

theorem slash_not_mem_render (id : DefinitionId) : '/' ∉ id.render.toList := by
  intro hmem
  -- a slash would be left when the hyphens are taken out, and is no digit
  have hleft : '/' ∈ (hyphenate (id.digits.map hexChar)).filter (· ≠ '-') := by
    rw [toList_render] at hmem
    exact List.mem_filter.2 ⟨hmem, by decide⟩
  rw [filter_hyphenate, filter_digits] at hleft
  obtain ⟨d, -, hd⟩ := List.mem_map.1 hleft
  exact hexChar_ne_slash d hd

/-! ### Reading -/

theorem dehyphenate?_hyphenate {cs : List Char} (h : cs.length = 32) :
    dehyphenate? (hyphenate cs) = some cs := by
  have hlength : (hyphenate cs).length = 36 := by simp [hyphenate, h]
  have hhyphens : [8, 13, 18, 23].all (fun i => (hyphenate cs)[i]? = some '-') = true := by
    simp [hyphenate, List.getElem?_append, h]
  rw [dehyphenate?, if_pos ⟨hlength, hhyphens⟩]
  conv => rhs; rw [← hyphenate_parts cs]
  simp (disch := simp [h]) [hyphenate, List.drop_append, List.drop_of_length_le, h]

theorem mapM_hexValue? (ds : List (Fin 16)) : (ds.map hexChar).mapM hexValue? = some ds := by
  induction ds with
  | nil => rfl
  | cons d ds ih =>
    rw [List.map_cons, List.mapM_cons, hexValue?_hexChar, ih]
    rfl

theorem parse?_render (id : DefinitionId) : parse? id.render = some id := by
  have hlength : (id.digits.map hexChar).length = 32 := by simp [id.length_digits]
  have hhyphenated : (hyphenate (id.digits.map hexChar)).length = 36 := by
    simp [hyphenate, id.length_digits]
  have hread : ofDigits? (id.digits.map hexChar) = some id := by
    unfold ofDigits?
    rw [mapM_hexValue?]
    exact dif_pos id.length_digits
  unfold parse?
  rw [toList_render, if_neg (by omega), if_pos hhyphenated, ofHyphenated?,
    dehyphenate?_hyphenate hlength]
  exact hread

theorem render_injective {id other : DefinitionId} (h : id.render = other.render) :
    id = other := by
  have hread := parse?_render id
  rw [h, parse?_render other] at hread
  exact (Option.some.inj hread).symm

/-! ### The hyphenated form -/

/-- The hexadecimal digits in lower case. -/
def lowerDigits : List Char := "0123456789abcdef".toList

theorem lowerDigits_getD (d : Fin 16) : lowerDigits.getD d.val '0' = hexChar d := by
  revert d; decide

/-- The text is the identifier, hyphenated and in lower case: runs of eight, four, four, four
and twelve digits with hyphens between them, which together are the digits of the identifier. -/
def Spells (id : DefinitionId) (name : String) : Prop :=
  ∃ runs : List (List (Fin 16)), runs.map List.length = [8, 4, 4, 4, 12] ∧
    runs.flatten = id.digits ∧
    name.toList = ['-'].intercalate
      (runs.map fun run => run.map fun d => lowerDigits.getD d.val '0')

theorem spells_render (id : DefinitionId) : id.Spells id.render := by
  refine ⟨[id.digits.take 8, (id.digits.drop 8).take 4, (id.digits.drop 12).take 4,
    (id.digits.drop 16).take 4, id.digits.drop 20], ?_, ?_, ?_⟩
  · simp [id.length_digits]
  · simpa using hyphenate_parts id.digits
  · rw [toList_render]
    simp only [lowerDigits_getD]
    simp [hyphenate, List.intercalate, List.intersperse, List.map_take, List.map_drop]

end AlertRules.DefinitionId
