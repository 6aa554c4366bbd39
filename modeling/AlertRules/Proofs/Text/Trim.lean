/-
AlertRules/Proofs/Text/Trim.lean

Cutting white space off a text.  What is left neither starts nor ends with white
space (`head?_trim`, `getLast?_trim`), and a text of that kind stays as it is
(`trim_eq_self`); hence cutting twice is cutting once (`trim_trim`).

Cutting off just one character, as often as it stands at the end (`stripEnd`), leaves what does
not end with it, and only that (`getLast?_stripEnd`, `stripEnd_append_replicate`).
-/
import AlertRules.Text.Blank

namespace AlertRules.Text

theorem trimEnd_eq_self {cs : List Char} (h : ∀ c ∈ cs.getLast?, isBlank c = false) :
    trimEnd cs = cs := by
  have hrev : trimStart cs.reverse = cs.reverse := trimStart_eq_self (by simpa using h)
  show (trimStart cs.reverse).reverse = cs
  rw [hrev, List.reverse_reverse]

theorem trim_eq_self {cs : List Char} (hhead : ∀ c ∈ cs.head?, isBlank c = false)
    (hlast : ∀ c ∈ cs.getLast?, isBlank c = false) : trim cs = cs := by
  rw [trim, trimStart_eq_self hhead, trimEnd_eq_self hlast]

theorem trimEnd_prefix (cs : List Char) : trimEnd cs <+: cs := by
  have h : cs.reverse.dropWhile isBlank <:+ cs.reverse := List.dropWhile_suffix _
  show (cs.reverse.dropWhile isBlank).reverse <+: cs
  simpa using List.reverse_prefix.2 h

/-! ### White space at the ends -/

theorem trimStart_append {as : List Char} (has : ∀ c ∈ as, isBlank c = true) (cs : List Char) :
    trimStart (as ++ cs) = trimStart cs := List.dropWhile_append_of_pos has

theorem trimEnd_append {bs : List Char} (hbs : ∀ c ∈ bs, isBlank c = true) (cs : List Char) :
    trimEnd (cs ++ bs) = trimEnd cs := by
  have hrev : ∀ c ∈ bs.reverse, isBlank c = true := fun c hc => hbs c (List.mem_reverse.1 hc)
  show (trimStart (cs ++ bs).reverse).reverse = (trimStart cs.reverse).reverse
  rw [List.reverse_append, trimStart_append hrev]

/-- Of a text with white space on both sides, the text is left. -/
theorem trim_surrounded {as cs bs : List Char} (has : ∀ c ∈ as, isBlank c = true)
    (hbs : ∀ c ∈ bs, isBlank c = true) (hne : cs ≠ [])
    (hhead : ∀ c ∈ cs.head?, isBlank c = false) (hlast : ∀ c ∈ cs.getLast?, isBlank c = false) :
    trim (as ++ (cs ++ bs)) = cs := by
  have hstart : trimStart (cs ++ bs) = cs ++ bs := by
    obtain ⟨c, cs, rfl⟩ := List.exists_cons_of_ne_nil hne
    exact trimStart_eq_self hhead
  rw [trim, trimStart_append has, hstart, trimEnd_append hbs, trimEnd_eq_self hlast]

/-! ### What is left -/

theorem head?_trim (cs : List Char) : ∀ c ∈ (trim cs).head?, isBlank c = false := by
  intro c hc
  -- what is cut off at the end does not change how a text starts
  obtain ⟨cut, hcut⟩ := trimEnd_prefix (trimStart cs)
  have hstart : (trimStart cs).head? = some c := by
    rw [← hcut, List.head?_append]
    have : (trim cs).head? = some c := hc
    rw [trim] at this
    simp [this]
  have h := List.head?_dropWhile_not isBlank cs
  rw [show cs.dropWhile isBlank = trimStart cs from rfl, hstart] at h
  simpa using h

theorem getLast?_trim (cs : List Char) : ∀ c ∈ (trim cs).getLast?, isBlank c = false := by
  intro c hc
  have h := List.head?_dropWhile_not isBlank (trimStart cs).reverse
  have hlast : ((trimStart cs).reverse.dropWhile isBlank).head? = some c := by
    simpa [trim, trimEnd] using hc
  rw [hlast] at h
  simpa using h

theorem trim_trim (cs : List Char) : trim (trim cs) = trim cs :=
  trim_eq_self (head?_trim cs) (getLast?_trim cs)

/-- Only white space is cut off. -/
theorem isBlank_or_mem_trim {cs : List Char} {c : Char} (h : c ∈ cs) :
    isBlank c = true ∨ c ∈ trim cs := by
  have hstart : ∀ {as : List Char}, c ∈ as → isBlank c = true ∨ c ∈ trimStart as := by
    intro as has
    rw [← List.takeWhile_append_dropWhile (p := isBlank) (l := as), List.mem_append] at has
    exact has.imp_left (List.all_eq_true.1 List.all_takeWhile c)
  rcases hstart h with hblank | hmem
  · exact .inl hblank
  · have hrev := hstart (List.mem_reverse.2 hmem)
    exact hrev.imp_right List.mem_reverse.2

/-! ### One character at the end -/

/-- The text without a character at its end, however often it stands there. -/
def stripEnd (d : Char) (cs : List Char) : List Char := (cs.reverse.dropWhile (· = d)).reverse

theorem exists_stripEnd_append (d : Char) (cs : List Char) :
    ∃ n, cs = stripEnd d cs ++ List.replicate n d := by
  have hcut : ∀ c ∈ cs.reverse.takeWhile (· = d), c = d := by
    intro c hc
    simpa using List.all_eq_true.1 List.all_takeWhile c hc
  refine ⟨(cs.reverse.takeWhile (· = d)).length, ?_⟩
  calc cs = (cs.reverse.takeWhile (· = d) ++ cs.reverse.dropWhile (· = d)).reverse := by
        rw [List.takeWhile_append_dropWhile, List.reverse_reverse]
    _ = stripEnd d cs ++ (cs.reverse.takeWhile (· = d)).reverse := List.reverse_append
    _ = _ := by
        conv => lhs; rw [List.eq_replicate_of_mem hcut, List.reverse_replicate]

theorem getLast?_stripEnd (d : Char) (cs : List Char) : (stripEnd d cs).getLast? ≠ some d := by
  rw [stripEnd, List.getLast?_reverse]
  intro h
  have hfalse := List.head?_dropWhile_not (p := (· = d)) cs.reverse
  rw [h] at hfalse
  simp at hfalse

theorem stripEnd_append_replicate {d : Char} {cs : List Char} (h : cs.getLast? ≠ some d) (n : Nat) :
    stripEnd d (cs ++ List.replicate n d) = cs := by
  have hcut : ∀ c ∈ List.replicate n d, decide (c = d) = true := by
    intro c hc
    exact decide_eq_true (List.eq_of_mem_replicate hc)
  rw [stripEnd, List.reverse_append, List.reverse_replicate, List.dropWhile_append_of_pos hcut]
  have hkeep : cs.reverse.dropWhile (· = d) = cs.reverse := by
    rw [← List.head?_reverse] at h
    cases hcs : cs.reverse with
    | nil => rfl
    | cons c r =>
      have hc : c ≠ d := fun hc => h (by rw [hcs, hc]; rfl)
      simp [hc]
  rw [hkeep, List.reverse_reverse]

end AlertRules.Text
