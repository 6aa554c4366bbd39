/-
AlertRules/Text/Blank.lean

White space as Unicode defines it (the property White_Space), and the three
ways to cut it off a text.  Lists of characters are the working form of a text
throughout the library; the versions on `String` are for its callers.
-/

namespace AlertRules.Text

/-- The characters with the property White_Space. -/
def isBlank (c : Char) : Bool :=
  let n := c.toNat
  (0x09 ≤ n && n ≤ 0x0D) || n == 0x20 || n == 0x85 || n == 0xA0 || n == 0x1680 ||
    (0x2000 ≤ n && n ≤ 0x200A) || n == 0x2028 || n == 0x2029 || n == 0x202F ||
    n == 0x205F || n == 0x3000

/-! ### Cutting off white space -/

def trimStart (cs : List Char) : List Char := cs.dropWhile isBlank

def trimEnd (cs : List Char) : List Char := (cs.reverse.dropWhile isBlank).reverse

def trim (cs : List Char) : List Char := trimEnd (trimStart cs)

/-- A text without anything but white space. -/
def isBlankText (s : String) : Bool := s.toList.all isBlank

theorem trimStart_eq_self {cs : List Char} (h : ∀ c ∈ cs.head?, isBlank c = false) :
    trimStart cs = cs := by
  cases cs with
  | nil => rfl
  | cons c r => simp [trimStart, h c (by simp)]

theorem dropWhile_eq_nil_iff {p : Char → Bool} {cs : List Char} :
    cs.dropWhile p = [] ↔ ∀ c ∈ cs, p c = true := by
  induction cs with
  | nil => simp
  | cons c r ih => by_cases h : p c = true <;> simp [h, ih]

theorem trim_eq_nil_iff {cs : List Char} : trim cs = [] ↔ cs.all isBlank = true := by
  constructor
  · intro h
    have h1 : (trimStart cs).reverse.dropWhile isBlank = [] := by
      simpa [trim, trimEnd] using h
    rw [dropWhile_eq_nil_iff] at h1
    rw [List.all_eq_true]
    intro c hc
    rw [← List.takeWhile_append_dropWhile (p := isBlank) (l := cs), List.mem_append] at hc
    rcases hc with hc | hc
    · exact List.all_eq_true.1 List.all_takeWhile c hc
    · exact h1 c (by simpa [trimStart] using hc)
  · intro h
    rw [List.all_eq_true] at h
    have : trimStart cs = [] := dropWhile_eq_nil_iff.2 h
    simp [trim, this, trimEnd]

end AlertRules.Text
