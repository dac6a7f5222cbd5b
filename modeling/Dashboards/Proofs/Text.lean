import Dashboards.Text.Blank
import Mathlib.Data.List.TakeWhile

/-!
# Trimmed text

A text is blank when trimming leaves nothing of it (`trim_eq_empty_iff`), and what a text that may
be absent comes to is its trimmed form, unless it is blank (`trimmed?`). A text between parentheses
is trimmed as it stands (`nonBlank?_parenthesized`), also when it is a list of such texts with
something between them (`intercalate_parenthesized`).
-/

namespace Dashboards.Text

/-- A text is blank exactly if trimming leaves nothing of it. -/
theorem trim_eq_empty_iff {text : String} : trim text = "" ↔ isBlankText text = true := by
  rw [trim, String.ofList_eq_empty_iff, trimChars, List.reverse_eq_nil_iff,
    List.dropWhile_eq_nil_iff, isBlankText, List.all_eq_true]
  constructor
  · intro h
    cases hd : text.toList.dropWhile isBlank with
    | nil => exact List.dropWhile_eq_nil_iff.1 hd
    | cons c rest =>
      have hc := @dropWhile_head text.toList c (by rw [hd]; rfl)
      rw [h c (by simp [hd])] at hc
      cases hc
  · intro h
    rw [List.dropWhile_eq_nil_iff.2 h]
    simp

/-- A text is blank exactly if it is so when it is trimmed. -/
@[simp]
theorem isBlankText_trim (text : String) : isBlankText (trim text) = isBlankText text := by
  rw [Bool.eq_iff_iff, ← trim_eq_empty_iff, ← trim_eq_empty_iff, trim_trim]

/-- Texts next to each other are blank if each of them is. -/
@[simp]
theorem isBlankText_append (first second : String) :
    isBlankText (first ++ second) = (isBlankText first && isBlankText second) := by
  simp [isBlankText]

/-- The text that is left of one that is not blank is the trimmed one. -/
theorem nonBlank?_eq (text : String) :
    nonBlank? text = if trim text = "" then none else some (trim text) := by
  rw [nonBlank?]
  by_cases h : isBlankText text = true
  · rw [if_pos h, if_pos (trim_eq_empty_iff.2 h)]
  · rw [if_neg h, if_neg fun e => h (trim_eq_empty_iff.1 e)]

/-- The trimmed text, unless it is absent or blank. -/
def trimmed? (text : Option String) : Option String :=
  (text.map trim).filter (· ≠ "")

/-- What is left of an optional text is the trimmed text. -/
theorem bind_nonBlank? (text : Option String) : text.bind nonBlank? = trimmed? text := by
  cases text with
  | none => rfl
  | some text => by_cases h : trim text = "" <;> simp [trimmed?, nonBlank?_eq, Option.filter, h]

/-- A text that neither starts nor ends with white space is trimmed. -/
theorem trimChars_eq_self {cs : List Char} (hhead : ∀ c, cs.head? = some c → isBlank c = false)
    (hlast : ∀ c, cs.getLast? = some c → isBlank c = false) : trimChars cs = cs := by
  have hr : cs.reverse.dropWhile isBlank = cs.reverse := by
    refine dropWhile_eq_self fun c hc => hlast c ?_
    rwa [List.head?_reverse] at hc
  rw [trimChars, dropWhile_eq_self hhead, hr, List.reverse_reverse]

/-- White space around a text that neither starts nor ends with any is what trimming takes off. -/
theorem trimChars_surrounded {before word after : List Char}
    (hbefore : ∀ c ∈ before, isBlank c = true) (hafter : ∀ c ∈ after, isBlank c = true)
    (hhead : ∀ c, word.head? = some c → isBlank c = false)
    (hlast : ∀ c, word.getLast? = some c → isBlank c = false) :
    trimChars (before ++ word ++ after) = word := by
  have hreversed : ∀ c ∈ after.reverse, isBlank c = true := by simpa using hafter
  rw [trimChars, List.append_assoc, List.dropWhile_append_of_pos hbefore]
  cases word with
  | nil => simp [List.dropWhile_eq_nil_iff.2 hafter]
  | cons c rest =>
    have hword : (c :: rest ++ after).dropWhile isBlank = c :: rest ++ after :=
      dropWhile_eq_self fun d hd => hhead d (by simpa using hd)
    rw [hword, List.reverse_append, List.dropWhile_append_of_pos hreversed, dropWhile_eq_self,
      List.reverse_reverse]
    intro d hd
    rw [List.head?_reverse] at hd
    exact hlast d hd

/-- A text is what trimming leaves of it, with white space before and behind. -/
theorem exists_surrounded (cs : List Char) :
    ∃ before after, cs = before ++ trimChars cs ++ after ∧
      (∀ c ∈ before, isBlank c = true) ∧ ∀ c ∈ after, isBlank c = true := by
  have hfront := @List.takeWhile_append_dropWhile _ isBlank cs
  have hback := @List.takeWhile_append_dropWhile _ isBlank (cs.dropWhile isBlank).reverse
  refine ⟨cs.takeWhile isBlank, ((cs.dropWhile isBlank).reverse.takeWhile isBlank).reverse, ?_,
    fun c hc => List.mem_takeWhile_imp hc,
    fun c hc => List.mem_takeWhile_imp (List.mem_reverse.1 hc)⟩
  rw [trimChars, List.append_assoc, ← List.reverse_append, hback, List.reverse_reverse, hfront]

/-- A text between parentheses is trimmed and not blank. -/
theorem nonBlank?_parenthesized (text : String) :
    nonBlank? ("(" ++ text ++ ")") = some ("(" ++ text ++ ")") := by
  have hlist : ("(" ++ text ++ ")").toList = '(' :: (text.toList ++ [')']) := by simp
  have htrim : trim ("(" ++ text ++ ")") = "(" ++ text ++ ")" := by
    rw [trim, trimChars_eq_self, String.ofList_toList]
    · intro c hc
      rw [hlist, List.head?_cons] at hc
      cases hc
      decide
    · intro c hc
      rw [hlist, ← List.cons_append, List.getLast?_append] at hc
      cases hc
      decide
  rw [nonBlank?_eq, htrim, if_neg]
  intro h
  rw [← String.toList_eq_nil_iff, hlist] at h
  cases h

/-- Texts between parentheses, with something between them, are a text between parentheses. -/
theorem intercalate_parenthesized (separator text : String) (rest : List String) :
    ∃ inner, separator.intercalate ((text :: rest).map fun t => "(" ++ t ++ ")") =
      "(" ++ inner ++ ")" := by
  induction rest generalizing text with
  | nil => exact ⟨text, by simp⟩
  | cons other rest ih =>
    obtain ⟨inner, hinner⟩ := ih other
    refine ⟨text ++ ")" ++ separator ++ "(" ++ inner, ?_⟩
    rw [List.map_cons] at hinner
    rw [List.map_cons, List.map_cons, String.intercalate_cons_cons, hinner]
    simp only [String.append_assoc]

end Dashboards.Text
