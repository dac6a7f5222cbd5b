/-!
# Blank text

White space is the Unicode property `White_Space`: 25 code points. `trim` takes it off both ends of
a text, and a text is blank when nothing is left. A trimmed text neither starts nor ends with white
space (`trimChars_head`, `trimChars_getLast`), and trimming once is enough (`trim_trim`).
-/

namespace Dashboards.Text

/-- The characters with the Unicode property `White_Space`. -/
def isBlank (c : Char) : Bool :=
  let n := c.toNat
  (9 ≤ n && n ≤ 13) || n == 0x20 || n == 0x85 || n == 0xA0 || n == 0x1680 ||
    (0x2000 ≤ n && n ≤ 0x200A) || n == 0x2028 || n == 0x2029 || n == 0x202F || n == 0x205F ||
    n == 0x3000

/-- Takes the white space off both ends. -/
def trimChars (cs : List Char) : List Char :=
  ((cs.dropWhile isBlank).reverse.dropWhile isBlank).reverse

/-- A text without the white space at its two ends. -/
def trim (text : String) : String :=
  String.ofList (trimChars text.toList)

/-- Whether a text holds nothing but white space. -/
def isBlankText (text : String) : Bool :=
  text.toList.all isBlank

/-- The trimmed text, unless nothing is left of it. -/
def nonBlank? (text : String) : Option String :=
  if isBlankText text then none else some (trim text)

/-- What is left after dropping the first blanks does not start with a blank. -/
theorem dropWhile_head {cs : List Char} {c : Char} (h : (cs.dropWhile isBlank).head? = some c) :
    isBlank c = false := by
  induction cs with
  | nil => simp at h
  | cons d rest ih =>
    rw [List.dropWhile_cons] at h
    split at h
    · exact ih h
    · rename_i hd
      simp only [List.head?_cons, Option.some.injEq] at h
      subst h
      simpa using hd

/-- Dropping the last characters of a list keeps its first one, if any is left. -/
theorem reverse_dropWhile_head {cs : List Char} {c : Char}
    (h : (cs.reverse.dropWhile isBlank).reverse.head? = some c) : cs.head? = some c := by
  have hs : cs.reverse.dropWhile isBlank <:+ cs.reverse := List.dropWhile_suffix _
  obtain ⟨t, ht⟩ := hs
  have hr : (cs.reverse.dropWhile isBlank).reverse ++ t.reverse = cs := by
    rw [← List.reverse_append, ht, List.reverse_reverse]
  rw [← hr]
  cases hx : (cs.reverse.dropWhile isBlank).reverse with
  | nil => rw [hx] at h; simp at h
  | cons x xs => rw [hx] at h; simpa using h

/-- A trimmed text does not start with white space. -/
theorem trimChars_head {cs : List Char} {c : Char} (h : (trimChars cs).head? = some c) :
    isBlank c = false :=
  dropWhile_head (reverse_dropWhile_head h)

/-- A trimmed text does not end with white space. -/
theorem trimChars_getLast {cs : List Char} {c : Char} (h : (trimChars cs).getLast? = some c) :
    isBlank c = false := by
  rw [trimChars, List.getLast?_reverse] at h
  exact dropWhile_head h

/-- A list that does not start with a blank loses nothing at its start. -/
theorem dropWhile_eq_self {cs : List Char} (h : ∀ c, cs.head? = some c → isBlank c = false) :
    cs.dropWhile isBlank = cs := by
  cases cs with
  | nil => rfl
  | cons c rest => simp [h c rfl]

/-- Trimming a second time changes nothing. -/
theorem trimChars_trimChars (cs : List Char) : trimChars (trimChars cs) = trimChars cs := by
  have hr : (trimChars cs).reverse.dropWhile isBlank = (trimChars cs).reverse := by
    refine dropWhile_eq_self fun c hc => ?_
    rw [List.head?_reverse] at hc
    exact trimChars_getLast hc
  rw [trimChars, dropWhile_eq_self fun c hc => trimChars_head hc, hr, List.reverse_reverse]

/-- Trimming a second time changes nothing. -/
@[simp]
theorem trim_trim (text : String) : trim (trim text) = trim text := by
  simp [trim, trimChars_trimChars]

end Dashboards.Text
