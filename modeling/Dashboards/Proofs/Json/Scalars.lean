import Dashboards.Json.Read
import Mathlib.Data.List.Basic

/-!
# Scalars that are written are read

A text is read as a value if a reader at its beginning gives the value and stops behind it, whatever
follows (`Reads`). A string is read so from what it is escaped to (`reads_string`), and a natural
number of 64 bits from its digits (`reads_digits`), unless what follows could belong to a number.
-/

namespace Dashboards.Json

variable {α : Type}

/-- A reader reads a text as a value and leaves what follows the text. -/
def Reads (read : Cursor → Except Fault (Read α)) (text : List Char) (value : α)
    (tail : List Char) : Prop :=
  ∀ cursor : Cursor, cursor.rest = text ++ tail →
    ∃ behind : Cursor, read cursor = .ok (value, behind) ∧ behind.rest = tail

/-- Fuel that is more than something may be spent. -/
theorem exists_fuel {n fuel : Nat} (h : n < fuel) : ∃ less, fuel = less + 1 :=
  ⟨fuel - 1, by omega⟩

namespace Reads

variable {β : Type} {read : Cursor → Except Fault (Read α)} {next : Read α → Except Fault (Read β)}
  {text rest tail : List Char} {a : α} {b : β}

/-- Two texts in a row are read one after the other. -/
theorem bind (h : Reads read text a (rest ++ tail))
    (hnext : Reads (fun cursor => next (a, cursor)) rest b tail) :
    Reads (fun cursor => read cursor >>= next) (text ++ rest) b tail := by
  intro cursor hcursor
  obtain ⟨middle, hread, hmiddle⟩ := h cursor (by rwa [List.append_assoc] at hcursor)
  obtain ⟨behind, hlast, hbehind⟩ := hnext middle hmiddle
  refine ⟨behind, ?_, hbehind⟩
  simp only [hread]
  exact hlast

/-- What is read may be turned into something else. -/
theorem map (f : α → β) (h : Reads read text a tail) :
    Reads (fun cursor => read cursor >>= fun result => .ok (f result.1, result.2)) text (f a)
      tail := by
  intro cursor hcursor
  obtain ⟨behind, hread, hbehind⟩ := h cursor hcursor
  refine ⟨behind, ?_, hbehind⟩
  simp only [hread]
  rfl

end Reads

/-! ## Cursors -/

namespace Cursor

variable {cursor : Cursor} {rest : List Char}

/-- Behind a character are those after it. -/
theorem skip_rest {c : Char} (h : cursor.rest = c :: rest) : cursor.skip.rest = rest := by
  rw [skip, h]

/-- A result that is there is read from a character that is skipped. -/
theorem reads_skip {c : Char} (a : α) {tail : List Char} :
    Reads (fun cursor => .ok (a, cursor.skip)) [c] a tail :=
  fun cursor hcursor => ⟨cursor.skip, rfl, skip_rest hcursor⟩

/-- Behind a number of characters are those after them. -/
theorem skipMany_rest (cursor : Cursor) (n : Nat) :
    (cursor.skipMany n).rest = cursor.rest.drop n := by
  induction n generalizing cursor with
  | zero => rfl
  | succ n ih =>
    rw [skipMany, ih]
    cases h : cursor.rest with
    | nil => simp [skip, h]
    | cons c rest => rw [skip_rest h, List.drop_succ_cons]

/-- Behind the characters that satisfy a condition are those from the first other one on. -/
theorem skipWhile_rest (p : Char → Bool) (cs : List Char) (place : Place) :
    (skipWhile p cs place).rest = cs.dropWhile p := by
  induction cs generalizing place with
  | nil => rfl
  | cons c rest ih =>
    rw [skipWhile, List.dropWhile_cons]
    split
    · exact ih _
    · rfl

/-- White space is a list of characters between tokens. -/
def IsWhite (cs : List Char) : Prop :=
  ∀ c ∈ cs, isSpace c = true

/-- Behind white space is what follows it. -/
theorem skipSpace_rest {white : List Char} {c : Char} (h : cursor.rest = white ++ c :: rest)
    (hwhite : IsWhite white) (hc : isSpace c = false) : cursor.skipSpace.rest = c :: rest := by
  rw [skipSpace, skipWhile_rest, h, List.dropWhile_append_of_pos hwhite, List.dropWhile_cons, hc]
  rfl

/-- Nothing is white space. -/
theorem isWhite_nil : IsWhite [] :=
  List.forall_mem_nil _

/-- Where there is no white space, none is skipped. -/
theorem skipSpace_rest_of_cons {c : Char} (h : cursor.rest = c :: rest) (hc : isSpace c = false) :
    cursor.skipSpace.rest = c :: rest :=
  skipSpace_rest h isWhite_nil hc

end Cursor

/-! ## Strings -/

section
variable {tail : List Char}

/-- The first characters take no more bytes than all of them. -/
theorem byteCount_le_append (cs ds : List Char) : byteCount cs ≤ byteCount (cs ++ ds) := by
  have hgrows : ∀ (ds : List Char) (n : Nat), n ≤ ds.foldl (fun n c => n + c.utf8Size) n := by
    intro ds
    induction ds with
    | nil => exact fun n => Nat.le_refl n
    | cons d ds ih => exact fun n => Nat.le_trans (Nat.le_add_right n d.utf8Size) (ih _)
  rw [byteCount, byteCount, List.foldl_append]
  exact hgrows ds _

/-- The digits of a control character are four that make its number. -/
theorem hexDigits_control :
    ∀ n < 0x20, (hexDigits 4 n).length = 4 ∧ byteCount (hexDigits 4 n) = 4 ∧
      ∃ digits, (hexDigits 4 n).mapM Text.hexDigit? = some digits ∧
        digits.foldl (fun n d => 16 * n + d) 0 = n := by
  have hdigits : ∀ n < 0x20, (hexDigits 4 n).length = 4 ∧ byteCount (hexDigits 4 n) = 4 ∧
      ((hexDigits 4 n).mapM Text.hexDigit?).map
        (fun digits => digits.foldl (fun n d => 16 * n + d) 0) = some n := by
    decide
  intro n hn
  obtain ⟨hlength, hcount, hvalue⟩ := hdigits n hn
  exact ⟨hlength, hcount, Option.map_eq_some_iff.1 hvalue⟩

/-- The digits of a control character are read as its number. -/
theorem reads_hexDigits {n : Nat} (hn : n < 0x20) : Reads readHex (hexDigits 4 n) n tail := by
  intro cursor hcursor
  obtain ⟨hlength, hcount, digits, hdigits, hvalue⟩ := hexDigits_control n hn
  have henough : ¬ byteCount cursor.rest < 4 := by
    have hle := byteCount_le_append (hexDigits 4 n) tail
    rw [hcursor]
    omega
  have htake : cursor.rest.take 4 = hexDigits 4 n := by
    rw [hcursor, List.take_left' hlength]
  refine ⟨cursor.skipMany 4, ?_, ?_⟩
  · rw [readHex, if_neg henough, htake, hdigits]
    simp only [hvalue]
  · rw [Cursor.skipMany_rest, hcursor, List.drop_left' hlength]

/-- A control character is read from its number. -/
theorem reads_control {c : Char} (hc : c.toNat < 0x20) :
    Reads readEscape ('u' :: hexDigits 4 c.toNat) c tail := by
  have hcode : Reads readEscapedCode (hexDigits 4 c.toNat) c.toNat tail := by
    intro cursor hcursor
    obtain ⟨behind, hread, hbehind⟩ := reads_hexDigits hc cursor hcursor
    refine ⟨behind, ?_, hbehind⟩
    have hlow : ¬ (0xDC00 ≤ c.toNat ∧ c.toNat ≤ 0xDFFF) := by omega
    have hhigh : ¬ (0xD800 ≤ c.toNat ∧ c.toNat ≤ 0xDBFF) := by omega
    rw [readEscapedCode, hread]
    simp only [bind, Except.bind, if_neg hlow, if_neg hhigh]
    rfl
  intro cursor hcursor
  obtain ⟨behind, hread, hbehind⟩ := hcode.map Char.ofNat cursor.skip (Cursor.skip_rest hcursor)
  rw [Char.ofNat_toNat] at hread
  refine ⟨behind, ?_, hbehind⟩
  rw [readEscape, hcursor]
  exact hread

/-- A character is written as itself, or as an escape from which it is read. -/
theorem escape_cases (c : Char) :
    escape c = [c] ∧ c ≠ '"' ∧ c ≠ '\\' ∧ ¬ c.toNat < 0x20 ∨
      ∃ code, escape c = '\\' :: code ∧ ∀ tail, Reads readEscape code c tail := by
  have hletter : ∀ d, escaped? d = some c → ∀ tail, Reads readEscape [d] c tail := by
    intro d hd tail cursor hcursor
    refine ⟨cursor.skip, ?_, Cursor.skip_rest hcursor⟩
    rw [readEscape, hcursor]
    simp only [List.cons_append, hd]
  rw [escape.eq_def]
  split
  · exact .inr ⟨['"'], rfl, hletter '"' rfl⟩
  · exact .inr ⟨['\\'], rfl, hletter '\\' rfl⟩
  · exact .inr ⟨['b'], rfl, hletter 'b' rfl⟩
  · exact .inr ⟨['f'], rfl, hletter 'f' rfl⟩
  · exact .inr ⟨['n'], rfl, hletter 'n' rfl⟩
  · exact .inr ⟨['r'], rfl, hletter 'r' rfl⟩
  · exact .inr ⟨['t'], rfl, hletter 't' rfl⟩
  · split
    · exact .inr ⟨_, rfl, fun tail => reads_control ‹_›⟩
    · exact .inl ⟨rfl, ‹_›, ‹_›, ‹_›⟩

/-- The characters of a string are read one by one up to its quote. -/
theorem reads_stringRest {cs : List Char} {fuel : Nat} (hfuel : cs.length < fuel)
    (reversed : List Char) :
    Reads (readStringRest fuel · reversed) (cs.flatMap escape ++ ['"'])
      (String.ofList (reversed.reverse ++ cs)) tail := by
  induction cs generalizing fuel reversed with
  | nil =>
    intro cursor hcursor
    obtain ⟨fuel, rfl⟩ := exists_fuel hfuel
    refine ⟨cursor.skip, ?_, Cursor.skip_rest hcursor⟩
    simp only [readStringRest, hcursor]
    simp
  | cons c cs ih =>
    intro cursor hcursor
    obtain ⟨fuel, rfl⟩ := exists_fuel hfuel
    have hrest : Reads (readStringRest fuel · (c :: reversed)) (cs.flatMap escape ++ ['"'])
        (String.ofList (reversed.reverse ++ c :: cs)) tail := by
      have h := ih (Nat.lt_of_succ_lt_succ hfuel) (c :: reversed)
      rwa [List.reverse_cons, List.append_assoc] at h
    rcases escape_cases c with ⟨hescape, hquote, hbackslash, hcontrol⟩ | ⟨code, hescape, hcode⟩
    · rw [List.flatMap_cons, hescape] at hcursor
      obtain ⟨behind, hread, hbehind⟩ := hrest cursor.skip
        (Cursor.skip_rest (by simpa using hcursor))
      refine ⟨behind, ?_, hbehind⟩
      simp only [readStringRest, hcursor, List.cons_append, if_neg hquote, if_neg hbackslash,
        if_neg hcontrol]
      exact hread
    · rw [List.flatMap_cons, hescape] at hcursor
      obtain ⟨middle, hread, hmiddle⟩ := hcode _ cursor.skip
        (Cursor.skip_rest (by simpa using hcursor))
      obtain ⟨behind, hread', hbehind⟩ := hrest middle (by simpa using hmiddle)
      refine ⟨behind, ?_, hbehind⟩
      simp only [readStringRest, hcursor, List.cons_append]
      rw [if_neg (by decide), if_pos trivial, hread]
      exact hread'

/-- A string is read from its quotes. -/
theorem reads_string (text : String) : Reads readString (quoted text) text tail := by
  intro cursor hcursor
  have hlength : ∀ cs : List Char, cs.length ≤ (cs.flatMap escape).length := by
    intro cs
    induction cs with
    | nil => exact Nat.le_refl 0
    | cons c cs ih =>
      have hc : 1 ≤ (escape c).length := by
        rcases escape_cases c with ⟨hescape, -⟩ | ⟨code, hescape, -⟩ <;> rw [hescape] <;> simp
      rw [List.flatMap_cons, List.length_append, List.length_cons]
      omega
  have hfuel : text.toList.length < cursor.rest.length + 1 := by
    have htext := hlength text.toList
    rw [hcursor, quoted]
    simp only [List.cons_append, List.length_cons, List.length_append]
    omega
  have hrest : Reads (readStringRest (cursor.rest.length + 1) · [])
      (text.toList.flatMap escape ++ ['"']) (String.ofList ([].reverse ++ text.toList)) tail :=
    reads_stringRest hfuel []
  rw [List.reverse_nil, List.nil_append, String.ofList_toList] at hrest
  exact hrest cursor.skip (Cursor.skip_rest (by simpa [quoted] using hcursor))

/-! ## Numbers -/

/-- A text does not begin with a character that could belong to a number before it. -/
def EndsNumber (tail : List Char) : Prop :=
  ∀ c ∈ tail.head?, c.isDigit = false ∧ c ≠ '.' ∧ c ≠ 'e' ∧ c ≠ 'E'

/-- Digits of a number of 64 bits all fit into it. -/
theorem significand_eq {cs : List Char} {n : Nat} (h : Nat.ofDigitChars 10 cs n < UInt64.size) :
    significand cs n = (Nat.ofDigitChars 10 cs n, 0) := by
  have hgrows : ∀ (cs : List Char) (n : Nat), n ≤ Nat.ofDigitChars 10 cs n := by
    intro cs
    induction cs with
    | nil => exact fun n => Nat.le_refl n
    | cons c cs ih =>
      intro n
      have hcs := ih (10 * n + (c.toNat - '0'.toNat))
      rw [Nat.ofDigitChars, List.foldl_cons, ← Nat.ofDigitChars]
      omega
  induction cs generalizing n with
  | nil => rfl
  | cons c cs ih =>
    rw [Nat.ofDigitChars, List.foldl_cons, ← Nat.ofDigitChars] at h ⊢
    have hnext : 10 * n + (c.toNat - '0'.toNat) < UInt64.size := Nat.lt_of_le_of_lt (hgrows cs _) h
    rw [significand]
    change (if 10 * n + (c.toNat - '0'.toNat) < UInt64.size then _ else _) = _
    rw [if_pos hnext]
    exact ih h

/-- Only zero is written with a zero at the front. -/
theorem head_toDigits_ne_zero {n : Nat} (hn : 0 < n) : (Nat.toDigits 10 n).head? ≠ some '0' := by
  induction n using Nat.strongRecOn with
  | _ n ih =>
    rw [Nat.toDigits_eq_if (by decide)]
    split
    · next hsmall =>
      have hdigit : ∀ n < 10, 0 < n → [Nat.digitChar n].head? ≠ some '0' := by decide
      exact hdigit n hsmall hn
    · next hlarge =>
      have hhead := ih (n / 10) (Nat.div_lt_self hn (by decide)) (by omega)
      cases hdigits : Nat.toDigits 10 (n / 10) with
      | nil => exact absurd hdigits Nat.toDigits_ne_nil
      | cons d ds =>
        rw [hdigits] at hhead
        simpa using hhead

/-- A natural number of 64 bits is read from its digits. -/
theorem reads_digits {n : Nat} (hn : n < UInt64.size) (htail : EndsNumber tail) :
    Reads (readNumber true) (Nat.toDigits 10 n) (.int n) tail := by
  intro cursor hcursor
  have hdigit : ∀ c ∈ Nat.toDigits 10 n, c.isDigit = true := fun c =>
    Nat.isDigit_of_mem_toDigits (by decide) (by decide)
  have hstop : tail.takeWhile Char.isDigit = [] ∧ tail.dropWhile Char.isDigit = tail := by
    cases tail with
    | nil => exact ⟨rfl, rfl⟩
    | cons c tail =>
      have hc : c.isDigit = false := (htail c rfl).1
      rw [List.takeWhile_cons, List.dropWhile_cons, hc]
      exact ⟨rfl, rfl⟩
  obtain ⟨behind, hdigits, hbehind⟩ : ∃ behind, cursor.digits = (Nat.toDigits 10 n, behind) ∧
      behind.rest = tail := by
    refine ⟨_, Prod.ext ?_ rfl, ?_⟩
    · rw [Cursor.digits, hcursor, List.takeWhile_append_of_pos hdigit, hstop.1, List.append_nil]
    · rw [Cursor.digits, Cursor.skipWhile_rest, hcursor, List.dropWhile_append_of_pos hdigit,
        hstop.2]
  have hvalue : significand (Nat.toDigits 10 n) 0 = (n, 0) := by
    have hn' : Nat.ofDigitChars 10 (Nat.toDigits 10 n) 0 = n :=
      Nat.ofDigitChars_toDigits (by decide) (by decide)
    rw [significand_eq (by rwa [hn']), hn']
  obtain ⟨c, ds, hcs⟩ := List.exists_cons_of_ne_nil (Nat.toDigits_ne_nil (n := n) (b := 10))
  have hspare : ¬ (c = '0' ∧ 1 < (Nat.toDigits 10 n).length) := by
    rintro ⟨rfl, hlong⟩
    rcases Nat.eq_zero_or_pos n with rfl | hpos
    · exact absurd hlong (by decide)
    · exact head_toDigits_ne_zero hpos (by rw [hcs]; rfl)
  have hc : c.isDigit = true := hdigit c (by rw [hcs]; exact List.mem_cons_self ..)
  refine ⟨behind, ?_, hbehind⟩
  rw [hcs, List.cons_append] at hcursor
  have hpoint : tail.head? ≠ some '.' := fun h => (htail '.' h).2.1 rfl
  have hpower : ¬ (tail.head? = some 'e' ∨ tail.head? = some 'E') := by
    rintro (h | h)
    · exact (htail 'e' h).2.2.1 rfl
    · exact (htail 'E' h).2.2.2 rfl
  simp only [readNumber, hcursor, hdigits, hc, if_neg hspare, hvalue, hbehind, Bool.not_true,
    Bool.false_eq_true, if_false, if_neg hpoint, if_neg hpower, Nat.lt_irrefl, if_true]

end

end Dashboards.Json
