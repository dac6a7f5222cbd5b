import Dashboards.Proofs.Json.Tokens
import Mathlib.Data.List.TakeWhile

/-!
# The grammar of JSON numbers

The digits of an integer go on as far as there are digits, and they do not begin with a spare zero
(`Whole`). An integer that is not followed by a fraction or a power of ten, and that fits into 64
bits, is read exactly as its number (`readNumber_int_iff`).

A number that nobody asks for may also have a fraction and a power of ten, and be of any size
(`Numeral`). It is checked exactly so (`ignoreNumber_iff`).
-/

namespace Dashboards.Json

/-! ## Grammar -/

/-- Digits up to the next other character. -/
structure Digits (text digits rest : List Char) : Prop where
  text_eq : text = digits ++ rest
  digit : ∀ c ∈ digits, c.isDigit = true
  stop : ∀ c ∈ rest.head?, c.isDigit = false

/-- The digits of an integer, the first of which is zero only if it is the only one. -/
structure Whole (text digits rest : List Char) : Prop where
  all : Digits text digits rest
  nonempty : digits ≠ []
  zero : digits.head? = some '0' → digits = ['0']

/-- A natural number of 64 bits that is written as an integer. -/
def Unsigned (text : List Char) (n : Nat) (rest : List Char) : Prop :=
  ∃ digits, Whole text digits rest ∧ EndsNumber rest ∧ n = Nat.ofDigitChars 10 digits 0 ∧
    n < UInt64.size

/-- A fraction, if there is one. -/
inductive Fraction : List Char → List Char → Prop
  | none {rest : List Char} : rest.head? ≠ some '.' → Fraction rest rest
  | point {text digits rest : List Char} : Digits text digits rest → digits ≠ [] →
      Fraction ('.' :: text) rest

/-- A sign, if there is one. -/
inductive Signed : List Char → List Char → Prop
  | none {rest : List Char} : Signed rest rest
  | plus {rest : List Char} : Signed ('+' :: rest) rest
  | minus {rest : List Char} : Signed ('-' :: rest) rest

/-- A power of ten, if there is one. -/
inductive Power : List Char → List Char → Prop
  | none {rest : List Char} : rest.head? ≠ some 'e' → rest.head? ≠ some 'E' → Power rest rest
  | letter {c : Char} {text behind digits rest : List Char} : c = 'e' ∨ c = 'E' →
      Signed text behind → Digits behind digits rest → digits ≠ [] → Power (c :: text) rest

/-- A number without a sign. -/
inductive Numeral : List Char → List Char → Prop
  | mk {text digits point power rest : List Char} : Whole text digits point →
      Fraction point power → Power power rest → Numeral text rest

variable {cursor : Cursor} {text digits rest : List Char}

/-! ## Digits -/

/-- Digits end at one place only. -/
theorem digits_iff :
    Digits text digits rest ↔
      text.takeWhile Char.isDigit = digits ∧ text.dropWhile Char.isDigit = rest := by
  constructor
  · rintro ⟨rfl, hdigit, hstop⟩
    have hrest : rest.takeWhile Char.isDigit = [] ∧ rest.dropWhile Char.isDigit = rest := by
      cases rest with
      | nil => exact ⟨rfl, rfl⟩
      | cons c rest =>
        rw [List.takeWhile_cons, List.dropWhile_cons, hstop c rfl]
        exact ⟨rfl, rfl⟩
    rw [List.takeWhile_append_of_pos hdigit, List.dropWhile_append_of_pos hdigit, hrest.1, hrest.2,
      List.append_nil]
    exact ⟨rfl, rfl⟩
  · rintro ⟨rfl, rfl⟩
    refine ⟨List.takeWhile_append_dropWhile.symm, fun c hc => List.mem_takeWhile_imp hc, ?_⟩
    intro c hc
    have hstop := List.head?_dropWhile_not Char.isDigit text
    rw [Option.mem_def.1 hc] at hstop
    exact hstop

/-- Digits are gone past exactly. -/
theorem cursor_digits_iff :
    Digits cursor.rest digits rest ↔ cursor.digits.1 = digits ∧ cursor.digits.2.rest = rest := by
  rw [digits_iff, Cursor.digits, Cursor.skipWhile_rest]

/-- Digits end at one place only. -/
theorem Digits.unique {digits' rest' : List Char} (h : Digits text digits rest)
    (h' : Digits text digits' rest') : digits = digits' ∧ rest = rest' := by
  obtain ⟨rfl, rfl⟩ := digits_iff.1 h
  exact digits_iff.1 h'

/-- Where a digit is next, there are digits. -/
theorem Digits.ne_nil {c : Char} {behind : List Char} (h : Digits (c :: behind) digits rest)
    (hc : c.isDigit = true) : digits ≠ [] := by
  rintro rfl
  have hstop := h.stop c (by rw [← List.nil_append rest, ← h.text_eq]; rfl)
  rw [hc] at hstop
  cases hstop

/-- Digits begin with what is next. -/
theorem Digits.head?_eq {c : Char} {behind : List Char} (h : Digits (c :: behind) digits rest)
    (hdigits : digits ≠ []) : digits.head? = some c := by
  cases digits with
  | nil => exact absurd rfl hdigits
  | cons d ds =>
    cases h.text_eq
    rfl

/-- Digits are an integer exactly if there are some, without a spare zero in front. -/
theorem Digits.whole_iff (h : Digits text digits rest) :
    Whole text digits rest ↔ digits ≠ [] ∧ ¬ (digits.head? = some '0' ∧ 1 < digits.length) := by
  constructor
  · rintro ⟨-, hsome, hzero⟩
    refine ⟨hsome, fun hspare => ?_⟩
    rw [hzero hspare.1] at hspare
    exact absurd hspare.2 (by decide)
  · rintro ⟨hsome, hspare⟩
    refine ⟨h, hsome, fun hzero => ?_⟩
    have hone : digits.length = 1 := by
      have hpositive := List.length_pos_iff.2 hsome
      have hmost : ¬ 1 < digits.length := fun hlong => hspare ⟨hzero, hlong⟩
      omega
    obtain ⟨d, rfl⟩ := List.length_eq_one_iff.1 hone
    cases hzero
    rfl

/-- An integer begins with a digit. -/
theorem Whole.exists_cons (h : Whole text digits rest) :
    ∃ c behind, text = c :: behind ∧ c.isDigit = true := by
  obtain ⟨c, ds, rfl⟩ := List.exists_cons_of_ne_nil h.nonempty
  exact ⟨c, ds ++ rest, h.all.text_eq, h.all.digit c (List.mem_cons_self ..)⟩

/-- An integer is not empty. -/
theorem Whole.length_lt (h : Whole text digits rest) : rest.length < text.length := by
  have hpositive := List.length_pos_iff.2 h.nonempty
  rw [h.all.text_eq, List.length_append]
  omega

/-! ## Integers -/

/-- Digits that all fit into 64 bits are a number of 64 bits. -/
theorem eq_of_significand {cs : List Char} {n m : Nat} (hn : n < UInt64.size)
    (h : significand cs n = (m, 0)) : m = Nat.ofDigitChars 10 cs n ∧ m < UInt64.size := by
  induction cs generalizing n with
  | nil =>
    cases h
    exact ⟨rfl, hn⟩
  | cons c cs ih =>
    rw [significand] at h
    split at h
    · next hnext => exact ih hnext h
    · cases h

section
variable {positive : Bool} {n : Nat} {power k : Int}

/-- A number that is put together from a power of ten is no integer. -/
theorem not_ends_assemble :
    ¬ Ends (assemble positive n power cursor) (Read.Is (.int k) rest) := by
  rw [assemble]
  split
  · rw [ends_ok_iff]
    rintro ⟨⟨⟩, -⟩
  · exact not_ends_fail

/-- A number with a power of ten is no integer. -/
theorem not_ends_readPower :
    ¬ Ends (readPower positive n power cursor) (Read.Is (.int k) rest) := by
  simp only [readPower]
  -- Whatever the sign of the power is, the number is a floating-point number.
  generalize (Prod.fst _ : Bool) = negative
  generalize (Prod.snd _ : Cursor) = signed
  split
  · exact not_ends_fail
  · split
    · exact not_ends_error
    · split
      · exact not_ends_assemble
      · split
        · exact not_ends_fail
        · rw [ends_ok_iff]
          rintro ⟨⟨⟩, -⟩

/-- A number with a fraction is no integer. -/
theorem not_ends_readFraction :
    ¬ Ends (readFraction positive n power cursor) (Read.Is (.int k) rest) := by
  simp only [readFraction]
  split
  · exact not_ends_failNext
  · split
    · split
      · exact not_ends_readPower
      · exact not_ends_assemble
    · exact not_ends_assemble

end

/-- A number that is read as an integer is one whose digits fit into 64 bits. One with a sign is
negative. -/
theorem whole_of_readNumber {positive : Bool} {k : Int}
    (h : Ends (readNumber positive cursor) (Read.Is (.int k) rest)) :
    ∃ digits n, Whole cursor.rest digits rest ∧ EndsNumber rest ∧ significand digits 0 = (n, 0) ∧
      if positive = true then k = n else k < 0 := by
  rw [readNumber.eq_def] at h
  split at h
  · exact absurd h not_ends_fail
  next c behind htext =>
  split at h
  · exact absurd h not_ends_error
  next hc =>
  have hdigits : Digits cursor.rest cursor.digits.1 cursor.digits.2.rest :=
    cursor_digits_iff.2 ⟨rfl, rfl⟩
  rw [htext] at hdigits ⊢
  generalize cursor.digits = result at h hdigits
  obtain ⟨digits, found⟩ := result
  dsimp only at h hdigits
  split at h
  · exact absurd h not_ends_failNext
  next hspare =>
  have hsome := hdigits.ne_nil (by simpa using hc)
  have hwhole := hdigits.whole_iff.2 ⟨hsome, by simpa [hdigits.head?_eq hsome] using hspare⟩
  generalize hfits : significand digits 0 = fitting at h
  obtain ⟨n, left⟩ := fitting
  dsimp only at h
  split at h
  · exact absurd h not_ends_readFraction
  next hpoint =>
  split at h
  · exact absurd h not_ends_readPower
  next hpower =>
  have hends : EndsNumber found.rest := by
    intro d hd
    refine ⟨hdigits.stop d hd, ?_, ?_, ?_⟩
    · rintro rfl
      exact hpoint hd
    · rintro rfl
      exact hpower (.inl hd)
    · rintro rfl
      exact hpower (.inr hd)
  split at h
  · exact absurd h not_ends_assemble
  next hleft =>
  cases Nat.eq_zero_of_not_pos hleft
  split at h
  · next hpositive =>
    obtain ⟨⟨⟩, rfl⟩ := ends_ok_iff.1 h
    exact ⟨digits, n, hwhole, hends, hfits, by rw [if_pos hpositive]⟩
  next hnegative =>
  split at h
  · next hrange =>
    obtain ⟨⟨⟩, rfl⟩ := ends_ok_iff.1 h
    exact ⟨digits, n, hwhole, hends, hfits, by rw [if_neg hnegative]; omega⟩
  · exact absurd h not_ends_assemble

/-- An integer without a sign is read if its digits fit into 64 bits. -/
theorem readNumber_of_whole {n : Nat} (hwhole : Whole cursor.rest digits rest)
    (hends : EndsNumber rest) (hfits : significand digits 0 = (n, 0)) :
    Ends (readNumber true cursor) (Read.Is (.int n) rest) := by
  obtain ⟨c, behind, htext, hc⟩ := hwhole.exists_cons
  obtain ⟨rfl, rfl⟩ := cursor_digits_iff.1 hwhole.all
  have hspare : ¬ (c = '0' ∧ 1 < cursor.digits.1.length) := by
    rw [htext] at hwhole
    simpa [hwhole.all.head?_eq hwhole.nonempty] using (hwhole.all.whole_iff.1 hwhole).2
  have hpoint : cursor.digits.2.rest.head? ≠ some '.' := fun h => (hends _ h).2.1 rfl
  have hpower : ¬ (cursor.digits.2.rest.head? = some 'e' ∨
      cursor.digits.2.rest.head? = some 'E') := by
    rintro (h | h)
    · exact (hends _ h).2.2.1 rfl
    · exact (hends _ h).2.2.2 rfl
  simp only [readNumber.eq_def, htext, hc, hfits, Bool.not_true, Bool.false_eq_true, if_false,
    if_neg hspare, if_neg hpoint, if_neg hpower, Nat.lt_irrefl, if_true]
  exact ends_ok_iff.2 ⟨rfl, rfl⟩

/-- An integer of 64 bits is read exactly as its number. -/
theorem readNumber_int_iff {k : Int} :
    Ends (readNumber true cursor) (Read.Is (.int k) rest) ↔
      ∃ n : Nat, k = n ∧ Unsigned cursor.rest n rest := by
  constructor
  · intro h
    obtain ⟨digits, n, hwhole, hends, hfits, rfl⟩ := whole_of_readNumber h
    obtain ⟨hn, hsize⟩ := eq_of_significand (by decide) hfits
    exact ⟨n, rfl, digits, hwhole, hends, hn, hsize⟩
  · rintro ⟨_, rfl, digits, hwhole, hends, rfl, hsize⟩
    exact readNumber_of_whole hwhole hends (significand_eq hsize)

/-- An integer with a sign is read as a negative number. -/
theorem neg_of_readNumber {k : Int}
    (h : Ends (readNumber false cursor) (Read.Is (.int k) rest)) : k < 0 := by
  obtain ⟨_, _, -, -, -, hnegative⟩ := whole_of_readNumber h
  exact hnegative

/-- A value that begins as a number is read as an integer if the number is. -/
theorem readLeaf_int_iff {c : Char} (hc : c = '-' ∨ c.isDigit = true) {k : Int} :
    Ends (readLeaf c cursor) (Read.Is (.int k) rest) ↔
      Ends (readNumber (c ≠ '-') (if c = '-' then cursor.skip else cursor))
        (Read.Is (.int k) rest) := by
  rw [readLeaf.eq_def]
  split
  case h_1 | h_2 | h_3 | h_4 => exact absurd hc (by decide)
  case h_5 =>
    rw [if_pos hc]
    constructor
    · rw [ends_bind_iff]
      rintro ⟨⟨_ | _, found⟩, hnumber, h⟩
      · obtain ⟨⟨⟩, rfl⟩ := ends_pure_iff.1 h
        exact ⟨_, hnumber, rfl, rfl⟩
      · obtain ⟨⟨⟩, -⟩ := ends_pure_iff.1 h
    · rintro ⟨⟨_, found⟩, hnumber, rfl, rfl⟩
      rw [hnumber]
      exact ends_ok_iff.2 ⟨rfl, rfl⟩

/-- An integer of 64 bits begins with a digit. -/
theorem Unsigned.exists_cons {n : Nat} (h : Unsigned text n rest) :
    ∃ c behind, text = c :: behind ∧ c.isDigit = true := by
  obtain ⟨digits, hwhole, -⟩ := h
  exact hwhole.exists_cons

/-- An integer of 64 bits is not empty. -/
theorem Unsigned.length_lt {n : Nat} (h : Unsigned text n rest) : rest.length < text.length := by
  obtain ⟨digits, hwhole, -⟩ := h
  exact hwhole.length_lt

/-! ## Numbers that nobody asks for -/

/-- Behind a sign there are no digits that begin with it. -/
theorem exists_signed_iff :
    (∃ digits begun, Signed text begun ∧ Digits begun digits rest ∧ digits ≠ []) ↔
      ∃ digits, digits ≠ [] ∧
        Digits (if text.head? = some '+' ∨ text.head? = some '-' then text.tail else text)
          digits rest := by
  constructor
  · rintro ⟨digits, begun, hsigned, hdigits, hsome⟩
    refine ⟨digits, hsome, ?_⟩
    cases hsigned with
    | none =>
      obtain ⟨d, ds, rfl⟩ := List.exists_cons_of_ne_nil hsome
      have hd := hdigits.digit d (List.mem_cons_self ..)
      rw [if_neg]
      · exact hdigits
      · rw [hdigits.text_eq]
        rintro (⟨⟨⟩⟩ | ⟨⟨⟩⟩) <;> cases hd
    | plus => exact hdigits
    | minus => exact hdigits
  · rintro ⟨digits, hsome, hdigits⟩
    split at hdigits
    · next hsign =>
      rcases hsign with hsign | hsign
      all_goals
        obtain ⟨text, rfl⟩ := List.head?_eq_some_iff.1 hsign
      · exact ⟨digits, _, .plus, hdigits, hsome⟩
      · exact ⟨digits, _, .minus, hdigits, hsome⟩
    · exact ⟨digits, _, .none, hdigits, hsome⟩

/-- Digits are checked exactly where there are some. -/
theorem ends_digits_iff {fault : Fault} :
    Ends (if cursor.digits.1.isEmpty then .error fault else .ok cursor.digits.2)
        (Cursor.Leaves rest) ↔
      ∃ digits, digits ≠ [] ∧ Digits cursor.rest digits rest := by
  constructor
  · intro h
    split at h
    · exact absurd h not_ends_error
    · next hsome =>
      have hrest : Cursor.Leaves rest cursor.digits.2 := ends_ok_iff.1 h
      exact ⟨_, mt List.isEmpty_iff.2 hsome, cursor_digits_iff.2 ⟨rfl, hrest⟩⟩
  · rintro ⟨digits, hsome, hdigits⟩
    obtain ⟨rfl, rfl⟩ := cursor_digits_iff.1 hdigits
    rw [if_neg (mt List.isEmpty_iff.1 hsome)]
    exact ends_ok_iff.2 rfl

/-- A power of ten is checked exactly behind its letter. -/
theorem ignorePower_iff :
    Ends (ignorePower cursor) (Cursor.Leaves rest) ↔
      ∃ digits begun, Signed cursor.skip.rest begun ∧ Digits begun digits rest ∧ digits ≠ [] := by
  have hskip : ∀ cursor : Cursor, cursor.skip.rest = cursor.rest.tail := by
    rintro ⟨_ | _, _⟩ <;> rfl
  rw [exists_signed_iff, ← hskip, ← apply_ite Cursor.rest]
  exact ends_digits_iff

/-- A power of ten is checked exactly where there is one. -/
theorem ends_power_iff :
    Ends (if cursor.peek? = some 'e' ∨ cursor.peek? = some 'E' then ignorePower cursor
        else pure cursor) (Cursor.Leaves rest) ↔ Power cursor.rest rest := by
  split
  · next hletter =>
    rw [ignorePower_iff]
    obtain ⟨c, behind, htext, hc⟩ :
        ∃ c behind, cursor.rest = c :: behind ∧ (c = 'e' ∨ c = 'E') := by
      rcases hletter with h | h
      · exact ⟨_, _, (List.head?_eq_some_iff.1 h).choose_spec, .inl rfl⟩
      · exact ⟨_, _, (List.head?_eq_some_iff.1 h).choose_spec, .inr rfl⟩
    rw [Cursor.skip_rest htext, htext]
    constructor
    · rintro ⟨digits, begun, hsigned, hdigits, hsome⟩
      exact .letter hc hsigned hdigits hsome
    · rintro (⟨he, hE⟩ | ⟨-, hsigned, hdigits, hsome⟩)
      · rcases hc with rfl | rfl
        · exact absurd rfl he
        · exact absurd rfl hE
      · exact ⟨_, _, hsigned, hdigits, hsome⟩
  · next hnone =>
    rw [ends_pure_iff, Cursor.Leaves]
    constructor
    · rintro rfl
      exact .none (fun h => hnone (.inl h)) fun h => hnone (.inr h)
    · intro h
      generalize htext : cursor.rest = text at h
      cases h with
      | none => rfl
      | letter hc =>
        refine absurd ?_ hnone
        simpa [Cursor.peek?, htext] using hc

/-- A fraction and a power of ten are checked exactly where they are. -/
theorem ends_fraction_iff :
    Ends (if cursor.peek? = some '.' then
        if cursor.skip.digits.1.isEmpty then cursor.skip.digits.2.failNext .numberMalformed
        else if cursor.skip.digits.2.peek? = some 'e' ∨ cursor.skip.digits.2.peek? = some 'E' then
          ignorePower cursor.skip.digits.2
        else pure cursor.skip.digits.2
      else if cursor.peek? = some 'e' ∨ cursor.peek? = some 'E' then ignorePower cursor
      else pure cursor) (Cursor.Leaves rest) ↔
      ∃ power, Fraction cursor.rest power ∧ Power power rest := by
  split
  · next hpoint =>
    obtain ⟨behind, htext⟩ := List.head?_eq_some_iff.1 hpoint
    have hdigits : Digits cursor.skip.rest cursor.skip.digits.1 cursor.skip.digits.2.rest :=
      cursor_digits_iff.2 ⟨rfl, rfl⟩
    rw [Cursor.skip_rest htext] at hdigits
    rw [htext]
    split
    · next hnone =>
      refine iff_of_false not_ends_failNext ?_
      rintro ⟨_, hne | ⟨hdigits', hsome⟩, -⟩
      · exact hne rfl
      · rw [(hdigits'.unique hdigits).1] at hsome
        exact hsome (List.isEmpty_iff.1 hnone)
    · next hsome =>
      rw [ends_power_iff]
      constructor
      · intro hpower
        exact ⟨_, .point hdigits (mt List.isEmpty_iff.2 hsome), hpower⟩
      · rintro ⟨_, hne | ⟨hdigits', -⟩, hpower⟩
        · exact absurd rfl hne
        · rwa [(hdigits'.unique hdigits).2] at hpower
  · next hpoint =>
    rw [ends_power_iff]
    constructor
    · exact fun hpower => ⟨_, .none hpoint, hpower⟩
    · rintro ⟨power, hfraction, hpower⟩
      generalize htext : cursor.rest = text at hfraction
      cases hfraction with
      | none => exact hpower
      | point => exact absurd (by rw [Cursor.peek?, htext]; rfl) hpoint

/-- A number is checked exactly where it is. -/
theorem ignoreNumber_iff :
    Ends (ignoreNumber cursor) (Cursor.Leaves rest) ↔ Numeral cursor.rest rest := by
  have hdigits : Digits cursor.rest cursor.digits.1 cursor.digits.2.rest :=
    cursor_digits_iff.2 ⟨rfl, rfl⟩
  have hnumeral : Numeral cursor.rest rest ↔
      Whole cursor.rest cursor.digits.1 cursor.digits.2.rest ∧
        ∃ power, Fraction cursor.digits.2.rest power ∧ Power power rest := by
    constructor
    · rintro ⟨hwhole, hfraction, hpower⟩
      obtain ⟨rfl, rfl⟩ := hwhole.all.unique hdigits
      exact ⟨hwhole, _, hfraction, hpower⟩
    · rintro ⟨hwhole, _, hfraction, hpower⟩
      exact ⟨hwhole, hfraction, hpower⟩
  rw [hnumeral, hdigits.whole_iff, ignoreNumber]
  dsimp only
  by_cases hnone : cursor.digits.1.isEmpty
  · rw [if_pos hnone]
    exact iff_of_false not_ends_error fun h => h.1.1 (List.isEmpty_iff.1 hnone)
  rw [if_neg hnone]
  split
  · next hspare => exact iff_of_false not_ends_failNext fun h => h.1.2 hspare
  · next hspare =>
    rw [ends_fraction_iff]
    exact (and_iff_right ⟨mt List.isEmpty_iff.2 hnone, hspare⟩).symm

/-- A number begins with a digit. -/
theorem not_numeral {c : Char} (hc : c.isDigit = false) : ¬ Numeral (c :: text) rest := by
  rintro ⟨hwhole, -, -⟩
  obtain ⟨_, _, ⟨⟩, hdigit⟩ := hwhole.exists_cons
  rw [hc] at hdigit
  cases hdigit

/-- A number is not empty. -/
theorem Numeral.length_lt (h : Numeral text rest) : rest.length < text.length := by
  have hdigits : ∀ {text digits rest}, Digits text digits rest → rest.length ≤ text.length := by
    rintro _ digits rest ⟨rfl, -, -⟩
    rw [List.length_append]
    omega
  have hfraction : ∀ {text rest}, Fraction text rest → rest.length ≤ text.length := by
    rintro _ _ (_ | ⟨h, -⟩)
    · exact Nat.le_refl _
    · exact Nat.le_succ_of_le (hdigits h)
  have hpower : ∀ {text rest}, Power text rest → rest.length ≤ text.length := by
    rintro _ _ (_ | ⟨-, _ | _ | _, h, -⟩)
    · exact Nat.le_refl _
    · exact Nat.le_succ_of_le (hdigits h)
    · exact Nat.le_succ_of_le (Nat.le_succ_of_le (hdigits h))
    · exact Nat.le_succ_of_le (Nat.le_succ_of_le (hdigits h))
  obtain ⟨hwhole, hpoint, hletter⟩ := h
  exact Nat.lt_of_le_of_lt (Nat.le_trans (hpower hletter) (hfraction hpoint)) hwhole.length_lt

end Dashboards.Json
