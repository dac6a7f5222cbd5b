import Dashboards.Proofs.Json.Tokens

/-!
# The grammar of JSON strings

A string is what is between quotes (`Quoted`): characters that stand for themselves, and escapes,
which are letters or the numbers of characters (`Escape`). A character whose number does not fit
into four digits has two, and these do not occur on their own. Strings are read exactly so
(`readString_iff`).

In a string that nobody asks for the numbers of characters are not looked at (`LooseEscape`); it is
checked exactly so (`ignoreString_iff`).
-/

namespace Dashboards.Json

/-! ## Grammar -/

/-- A character is the hexadecimal digit of a value. -/
def HexDigit (c : Char) (n : Nat) : Prop :=
  "0123456789abcdef".toList[n]? = some c ∨ "0123456789ABCDEF".toList[n]? = some c

/-- Four hexadecimal digits of a number. -/
inductive Hex : List Char → Nat → List Char → Prop
  | mk {a b c d : Char} {i j k l : Nat} {rest : List Char} : HexDigit a i → HexDigit b j →
      HexDigit c k → HexDigit d l →
      Hex (a :: b :: c :: d :: rest) (16 * (16 * (16 * i + j) + k) + l) rest

/-- The letters of escapes, and the characters that they stand for. -/
def escapes : List (Char × Char) :=
  [('"', '"'), ('\\', '\\'), ('/', '/'), ('b', '\x08'), ('f', '\x0c'), ('n', '\n'), ('r', '\r'),
    ('t', '\t')]

/-- The number of a character: four digits, or eight for a character that takes two numbers. -/
inductive Code : List Char → Nat → List Char → Prop
  | single {n : Nat} {text rest : List Char} : Hex text n rest → ¬ (0xD800 ≤ n ∧ n ≤ 0xDFFF) →
      Code text n rest
  | pair {n m : Nat} {text behind rest : List Char} : Hex text n ('\\' :: 'u' :: behind) →
      0xD800 ≤ n → n ≤ 0xDBFF → Hex behind m rest → 0xDC00 ≤ m → m ≤ 0xDFFF →
      Code text ((n - 0xD800) * 1024 + (m - 0xDC00) + 0x10000) rest

/-- What is behind a backslash, and the character that it stands for. -/
inductive Escape : List Char → Char → List Char → Prop
  | letter {d c : Char} {rest : List Char} : (d, c) ∈ escapes → Escape (d :: rest) c rest
  | code {n : Nat} {text rest : List Char} : Code text n rest →
      Escape ('u' :: text) (Char.ofNat n) rest

/-- What is behind a backslash where nobody asks for the character: any number will do. -/
inductive LooseEscape : List Char → Char → List Char → Prop
  | letter {d c : Char} {rest : List Char} : (d, c) ∈ escapes → LooseEscape (d :: rest) c rest
  | code {n : Nat} {text rest : List Char} : Hex text n rest →
      LooseEscape ('u' :: text) (Char.ofNat n) rest

/-- The characters of a string up to its closing quote, under a rule for escapes. -/
inductive Characters (escape : List Char → Char → List Char → Prop) :
    List Char → List Char → List Char → Prop
  | close {rest : List Char} : Characters escape ('"' :: rest) [] rest
  | plain {c : Char} {text chars rest : List Char} : c ≠ '"' → c ≠ '\\' → 0x20 ≤ c.toNat →
      Characters escape text chars rest → Characters escape (c :: text) (c :: chars) rest
  | escaped {c : Char} {text behind chars rest : List Char} : escape text c behind →
      Characters escape behind chars rest → Characters escape ('\\' :: text) (c :: chars) rest

/-- A string in quotes, and what it says. -/
inductive Quoted : List Char → String → List Char → Prop
  | mk {text chars rest : List Char} : Characters Escape text chars rest →
      Quoted ('"' :: text) (String.ofList chars) rest

variable {cursor : Cursor} {text rest : List Char}

/-! ## Numbers of characters -/

/-- The letters of escapes stand for these characters. -/
theorem escaped?_eq_some_iff {c d : Char} : escaped? d = some c ↔ (d, c) ∈ escapes := by
  rw [escaped?.eq_def]
  split <;> simp_all [escapes, eq_comm]

/-- A character adds its bytes to those of the others. -/
theorem byteCount_cons (c : Char) (cs : List Char) :
    byteCount (c :: cs) = c.utf8Size + byteCount cs := by
  have hfrom : ∀ (cs : List Char) (n : Nat),
      cs.foldl (fun n c => n + c.utf8Size) n = n + byteCount cs := by
    intro cs
    induction cs with
    | nil => exact fun n => rfl
    | cons d ds ih =>
      intro n
      rw [byteCount, List.foldl_cons, List.foldl_cons, ih, ih, Nat.zero_add, Nat.add_assoc]
  rw [byteCount, List.foldl_cons, hfrom, Nat.zero_add]

/-- The letter f is the last of the hexadecimal digits. -/
theorem le_of_hexDigit? {c : Char} {n : Nat} (h : Text.hexDigit? c = some n) : c ≤ 'f' := by
  rw [Text.hexDigit?] at h
  split at h
  · next hc => exact Char.le_trans hc.2 (by decide)
  · split at h
    · next hc => exact hc.2
    · split at h
      · next hc => exact Char.le_trans hc.2 (by decide)
      · cases h

/-- Hexadecimal digits have these values. -/
theorem hexDigit?_eq_some_iff {c : Char} {n : Nat} :
    Text.hexDigit? c = some n ↔ HexDigit c n := by
  constructor
  · intro h
    have hdigits : ∀ k < 103, ∀ n ∈ Text.hexDigit? (Char.ofNat k),
        "0123456789abcdef".toList[n]? = some (Char.ofNat k) ∨
          "0123456789ABCDEF".toList[n]? = some (Char.ofNat k) := by decide
    have hc : c.toNat ≤ 'f'.toNat := le_of_hexDigit? h
    have hdigit := hdigits c.toNat (Nat.lt_succ_of_le hc) n
    rw [Char.ofNat_toNat] at hdigit
    exact hdigit h
  · have hvalues : ∀ n < 16, ("0123456789abcdef".toList[n]?).bind Text.hexDigit? = some n ∧
        ("0123456789ABCDEF".toList[n]?).bind Text.hexDigit? = some n := by decide
    rintro (h | h)
    · have hvalue := (hvalues n (List.getElem?_eq_some_iff.1 h).1).1
      rwa [h] at hvalue
    · have hvalue := (hvalues n (List.getElem?_eq_some_iff.1 h).1).2
      rwa [h] at hvalue

/-- A hexadecimal digit is one byte. -/
theorem utf8Size_of_hexDigit? {c : Char} {n : Nat} (h : Text.hexDigit? c = some n) :
    c.utf8Size = 1 :=
  Char.utf8Size_eq_one_iff.2 (UInt32.le_trans (le_of_hexDigit? h) (by decide))

/-- Hexadecimal digits are as many bytes as digits. -/
theorem byteCount_of_hexDigits {cs : List Char} {digits : List Nat}
    (h : cs.mapM Text.hexDigit? = some digits) : byteCount cs = cs.length := by
  induction cs generalizing digits with
  | nil => rfl
  | cons c cs ih =>
    simp only [List.mapM_cons, Option.bind_eq_bind, Option.bind_eq_some_iff] at h
    obtain ⟨digit, hdigit, digits, hdigits, -⟩ := h
    rw [byteCount_cons, utf8Size_of_hexDigit? hdigit, ih hdigits, List.length_cons, Nat.add_comm]

/-- Four hexadecimal digits are read exactly where they are. -/
theorem readHex_iff {n : Nat} :
    Ends (readHex cursor) (Read.Is n rest) ↔ Hex cursor.rest n rest := by
  constructor
  · rintro ⟨⟨n, found⟩, h, rfl, rfl⟩
    rw [readHex] at h
    split at h
    · cases h
    · next hbytes =>
      split at h
      · next digits hdigits =>
        cases h
        rw [Cursor.skipMany_rest]
        rcases hrest : cursor.rest with _ | ⟨a, _ | ⟨b, _ | ⟨c, _ | ⟨d, behind⟩⟩⟩⟩
        case cons.cons.cons.cons =>
          rw [hrest] at hdigits
          simp only [List.take, List.mapM_cons, List.mapM_nil, Option.bind_eq_bind,
            Option.bind_eq_some_iff, Option.pure_def, Option.some.injEq,
            hexDigit?_eq_some_iff] at hdigits
          obtain ⟨i, hi, _, ⟨j, hj, _, ⟨k, hk, _, ⟨l, hl, _, rfl, rfl⟩, rfl⟩, rfl⟩, rfl⟩ := hdigits
          simpa using Hex.mk hi hj hk hl
        all_goals
          -- So few digits are as few bytes.
          rw [hrest] at hdigits hbytes
          have hcount := byteCount_of_hexDigits hdigits
          simp only [List.take_succ_cons, List.take_nil, List.length_cons, List.length_nil]
            at hcount
          omega
      · cases h
  · intro h
    generalize hrest : cursor.rest = text at h
    cases h with
    | @mk a b c d i j k l _ hi hj hk hl =>
      rw [← hexDigit?_eq_some_iff] at hi hj hk hl
      have hbytes : ¬ byteCount cursor.rest < 4 := by
        simp only [hrest, byteCount_cons, utf8Size_of_hexDigit? hi, utf8Size_of_hexDigit? hj,
          utf8Size_of_hexDigit? hk, utf8Size_of_hexDigit? hl]
        omega
      refine ⟨⟨_, cursor.skipMany 4⟩, ?_, rfl, by rw [Cursor.skipMany_rest, hrest]; rfl⟩
      rw [readHex, if_neg hbytes, hrest]
      simp [hi, hj, hk, hl]

/-- A character of an escape is read exactly where it is. -/
theorem expectInEscape_iff {c : Char} :
    Ends (expectInEscape c cursor) (Cursor.Leaves rest) ↔ cursor.rest = c :: rest := by
  rw [expectInEscape]
  cases hrest : cursor.rest with
  | nil => simp
  | cons d behind =>
    by_cases hd : d = c
    · simp [hd, Cursor.Leaves, Cursor.skip_rest hrest]
    · simp [hd]

/-- The number of a character is read exactly as it is written. -/
theorem readEscapedCode_iff {n : Nat} :
    Ends (readEscapedCode cursor) (Read.Is n rest) ↔ Code cursor.rest n rest := by
  constructor
  · intro h
    rw [readEscapedCode] at h
    obtain ⟨⟨high, behind⟩, hhigh, h⟩ := ends_bind_iff.1 h
    have hhigh := readHex_iff.1 ⟨_, hhigh, rfl, rfl⟩
    dsimp only at h hhigh
    split at h
    · exact absurd h not_ends_fail
    · split at h
      · obtain ⟨backslash, hbackslash, h⟩ := ends_bind_iff.1 h
        obtain ⟨letter, hletter, h⟩ := ends_bind_iff.1 h
        obtain ⟨⟨low, found⟩, hlow, h⟩ := ends_bind_iff.1 h
        have hbackslash := expectInEscape_iff.1 ⟨_, hbackslash, rfl⟩
        have hletter := expectInEscape_iff.1 ⟨_, hletter, rfl⟩
        have hlow := readHex_iff.1 ⟨_, hlow, rfl, rfl⟩
        rw [hbackslash, hletter] at hhigh
        dsimp only at h hlow
        split at h
        · obtain ⟨rfl, rfl⟩ := ends_pure_iff.1 h
          exact .pair hhigh (by omega) (by omega) hlow (by omega) (by omega)
        · exact absurd h not_ends_fail
      · obtain ⟨rfl, rfl⟩ := ends_pure_iff.1 h
        exact .single hhigh (by omega)
  · intro h
    rw [readEscapedCode, ends_bind_iff]
    generalize hrest : cursor.rest = text at h
    cases h with
    | single hhex hwhole =>
      obtain ⟨⟨_, behind⟩, hread, rfl, rfl⟩ := readHex_iff.2 (hrest ▸ hhex)
      refine ⟨_, hread, ?_⟩
      dsimp only at hwhole ⊢
      rw [if_neg (by omega), if_neg (by omega)]
      exact ends_pure_iff.2 ⟨rfl, rfl⟩
    | pair hhigh hleast hmost hlow hleast' hmost' =>
      obtain ⟨⟨_, behind⟩, hread, rfl, hbehind⟩ := readHex_iff.2 (hrest ▸ hhigh)
      obtain ⟨backslash, hbackslash, hletter⟩ := expectInEscape_iff.2 hbehind
      obtain ⟨letter, hletter, hdigits⟩ := expectInEscape_iff.2 hletter
      obtain ⟨⟨_, found⟩, hfound, rfl, rfl⟩ := readHex_iff.2 (hdigits ▸ hlow)
      refine ⟨_, hread, ?_⟩
      dsimp only at hleast hmost hleast' hmost' ⊢
      rw [if_neg (by omega), if_pos ⟨hleast, hmost⟩]
      simp only [ends_bind_iff]
      refine ⟨_, hbackslash, _, hletter, _, hfound, ?_⟩
      rw [if_pos ⟨hleast', hmost'⟩]
      exact ends_pure_iff.2 ⟨rfl, rfl⟩

/-- An escape is read exactly as it is written. -/
theorem readEscape_iff {c : Char} :
    Ends (readEscape cursor) (Read.Is c rest) ↔ Escape cursor.rest c rest := by
  rw [readEscape]
  cases hrest : cursor.rest with
  | nil =>
    simp only [not_ends_fail, false_iff]
    rintro (_ | _)
  | cons d behind =>
    have hletters : ∀ {c}, (d, c) ∈ escapes ↔ escaped? d = some c := escaped?_eq_some_iff.symm
    cases hletter : escaped? d with
    | some e =>
      simp only [hletter, ends_ok_iff, Read.Is, Cursor.skip_rest hrest]
      constructor
      · rintro ⟨rfl, rfl⟩
        exact .letter (hletters.2 hletter)
      · intro h
        cases h with
        | letter hmem =>
          cases hletter.symm.trans (hletters.1 hmem)
          exact ⟨rfl, rfl⟩
        | code _ => cases hletter
    | none =>
      have hnone : ∀ c, (d, c) ∉ escapes := fun c hmem => by
        cases hletter.symm.trans (hletters.1 hmem)
      by_cases hd : d = 'u'
      · subst hd
        simp only [hletter, if_true]
        rw [ends_bind_of_read (fun _ _ => readEscapedCode_iff)
          (T := fun n left => Char.ofNat n = c ∧ left = rest) fun n found _ => by simp [Read.Is],
          Cursor.skip_rest hrest]
        constructor
        · rintro ⟨n, _, hcode, rfl, rfl⟩
          exact .code hcode
        · intro h
          cases h with
          | letter hmem => exact absurd hmem (hnone c)
          | code hcode => exact ⟨_, _, hcode, rfl, rfl⟩
      · simp only [hletter, if_neg hd, not_ends_error, false_iff]
        intro h
        cases h with
        | letter hmem => exact hnone c hmem
        | code _ => exact hd rfl

/-- Four hexadecimal digits are not empty. -/
theorem Hex.length_lt {n : Nat} (h : Hex text n rest) : rest.length < text.length := by
  cases h
  simp only [List.length_cons]
  omega

/-- The number of a character is not empty. -/
theorem Code.length_lt {n : Nat} (h : Code text n rest) : rest.length < text.length := by
  cases h with
  | single h _ => exact h.length_lt
  | pair hhigh _ _ hlow _ _ =>
    have hfirst := hhigh.length_lt
    have hsecond := hlow.length_lt
    simp only [List.length_cons] at hfirst
    omega

/-- An escape is not empty. -/
theorem Escape.length_lt {c : Char} (h : Escape text c rest) : rest.length < text.length := by
  cases h with
  | letter _ => exact Nat.lt_succ_self _
  | code h => exact Nat.lt_succ_of_lt h.length_lt

/-- What is in a string depends on its next character: the string ends, or an escape or a character
comes in front of the others. -/
theorem exists_characters_iff {escape : List Char → Char → List Char → Prop}
    {P : List Char → Prop} {c : Char} :
    (∃ chars, Characters escape (c :: text) chars rest ∧ P chars) ↔
      if c = '"' then text = rest ∧ P []
      else if c = '\\' then ∃ d behind, escape text d behind ∧
        ∃ chars, Characters escape behind chars rest ∧ P (d :: chars)
      else 0x20 ≤ c.toNat ∧ ∃ chars, Characters escape text chars rest ∧ P (c :: chars) := by
  constructor
  · rintro ⟨_, hchars, hP⟩
    cases hchars with
    | close => exact ⟨rfl, hP⟩
    | plain hquote hbackslash hleast hchars =>
      rw [if_neg hquote, if_neg hbackslash]
      exact ⟨hleast, _, hchars, hP⟩
    | escaped hescape hchars => exact ⟨_, _, hescape, _, hchars, hP⟩
  · intro h
    split at h
    · next hquote =>
      obtain ⟨rfl, hP⟩ := h
      exact ⟨[], hquote ▸ .close, hP⟩
    next hquote =>
    split at h
    · next hbackslash =>
      obtain ⟨d, behind, hescape, chars, hchars, hP⟩ := h
      exact ⟨d :: chars, hbackslash ▸ .escaped hescape hchars, hP⟩
    · next hbackslash =>
      obtain ⟨hleast, chars, hchars, hP⟩ := h
      exact ⟨c :: chars, .plain hquote hbackslash hleast hchars, hP⟩

/-- The characters of a string are read exactly as they are written, behind those that are read. -/
theorem readStringRest_iff {fuel : Nat} {reversed : List Char} {value : String}
    (hfuel : cursor.rest.length < fuel) :
    Ends (readStringRest fuel cursor reversed) (Read.Is value rest) ↔
      ∃ chars, Characters Escape cursor.rest chars rest ∧
        String.ofList (reversed.reverse ++ chars) = value := by
  induction fuel generalizing cursor reversed with
  | zero => exact absurd hfuel (Nat.not_lt_zero _)
  | succ fuel ih =>
    rw [readStringRest]
    cases hrest : cursor.rest with
    | nil =>
      refine iff_of_false not_ends_fail ?_
      rintro ⟨_, ⟨⟩, -⟩
    | cons c behind =>
      have hless : behind.length < fuel := by
        rw [hrest, List.length_cons] at hfuel
        omega
      have hskip : cursor.skip.rest = behind := Cursor.skip_rest hrest
      have hnext : ∀ (found : Cursor) d, found.rest.length < fuel →
          (Ends (readStringRest fuel found (d :: reversed)) (Read.Is value rest) ↔
            ∃ chars, Characters Escape found.rest chars rest ∧
              String.ofList (reversed.reverse ++ d :: chars) = value) := fun found d hfound => by
        rw [ih hfound, List.reverse_cons]
        simp only [List.append_assoc, List.singleton_append]
      dsimp only
      rw [exists_characters_iff]
      split
      · rw [ends_ok_iff, Read.Is, hskip, List.append_nil, and_comm]
      split
      · rw [← hskip]
        refine ends_bind_of_read (fun _ _ => readEscape_iff) fun d found hescape => hnext found d ?_
        have hshorter := hescape.length_lt
        rw [hskip] at hshorter
        omega
      split
      · next hcontrol => exact iff_of_false not_ends_fail fun h => Nat.not_le_of_lt hcontrol h.1
      · next hplain =>
        rw [hnext _ _ (by rwa [hskip]), hskip]
        exact (and_iff_right (Nat.le_of_not_lt hplain)).symm

/-- A string is read exactly as what it says. -/
theorem readString_iff {value : String} {behind : List Char} (h : cursor.rest = '"' :: behind) :
    Ends (readString cursor) (Read.Is value rest) ↔ Quoted cursor.rest value rest := by
  have hskip : cursor.skip.rest = behind := Cursor.skip_rest h
  rw [readString, readStringRest_iff (by rw [hskip, h, List.length_cons]; omega), hskip, h]
  constructor
  · rintro ⟨chars, hchars, rfl⟩
    exact .mk hchars
  · rintro ⟨hchars⟩
    exact ⟨_, hchars, rfl⟩

/-- An escape of a string that is checked only is not empty. -/
theorem LooseEscape.length_lt {c : Char} (h : LooseEscape text c rest) :
    rest.length < text.length := by
  cases h with
  | letter _ => exact Nat.lt_succ_self _
  | code h => exact Nat.lt_succ_of_lt h.length_lt

/-- An escape of a string that is checked only is a letter, or a number of any character. -/
theorem exists_looseEscape_iff {P : List Char → Prop} {d : Char} :
    (∃ c behind, LooseEscape (d :: text) c behind ∧ P behind) ↔
      if (escaped? d).isSome = true then P text
      else d = 'u' ∧ ∃ n behind, Hex text n behind ∧ P behind := by
  constructor
  · rintro ⟨c, behind, hletter | hhex, hP⟩
    · rw [if_pos (Option.isSome_iff_exists.2 ⟨c, escaped?_eq_some_iff.2 hletter⟩)]
      exact hP
    · exact ⟨rfl, _, behind, hhex, hP⟩
  · intro h
    split at h
    · next hletter =>
      obtain ⟨c, hletter⟩ := Option.isSome_iff_exists.1 hletter
      exact ⟨c, text, .letter (escaped?_eq_some_iff.1 hletter), h⟩
    · obtain ⟨rfl, n, behind, hhex, hP⟩ := h
      exact ⟨_, behind, .code hhex, hP⟩

/-- A string is checked exactly where it is. -/
theorem ignoreString_iff {fuel : Nat} (hfuel : cursor.rest.length < fuel) :
    Ends (ignoreString fuel cursor) (Cursor.Leaves rest) ↔
      ∃ chars, Characters LooseEscape cursor.rest chars rest := by
  induction fuel generalizing cursor with
  | zero => exact absurd hfuel (Nat.not_lt_zero _)
  | succ fuel ih =>
    rw [ignoreString]
    cases hrest : cursor.rest with
    | nil =>
      refine iff_of_false not_ends_fail ?_
      rintro ⟨_, ⟨⟩⟩
    | cons c behind =>
      have hless : behind.length < fuel := by
        rw [hrest, List.length_cons] at hfuel
        omega
      have hskip : cursor.skip.rest = behind := Cursor.skip_rest hrest
      have hchars := @exists_characters_iff behind rest LooseEscape (fun _ => True) c
      simp only [and_true] at hchars
      rw [hchars]
      dsimp only
      split
      · rw [ends_ok_iff, Cursor.Leaves, hskip]
      split
      · cases behind with
        | nil =>
          rw [hskip]
          refine iff_of_false not_ends_fail ?_
          rintro ⟨_, _, ⟨⟩, -⟩
        | cons d after =>
          have hafter : cursor.skip.skip.rest = after := Cursor.skip_rest hskip
          rw [List.length_cons] at hless
          rw [hskip, exists_looseEscape_iff]
          dsimp only
          split
          · rw [ih (by rw [hafter]; omega), hafter]
          split
          · next hu =>
            rw [← hafter, and_iff_right hu]
            refine ends_bind_of_read (fun _ _ => readHex_iff) fun n found hhex => @ih found ?_
            have hshorter := hhex.length_lt
            rw [hafter] at hshorter
            omega
          · next hu => exact iff_of_false not_ends_error fun h => hu h.1
      split
      · next hcontrol => exact iff_of_false not_ends_fail fun h => Nat.not_le_of_lt hcontrol h.1
      · next hplain =>
        rw [ih (by rwa [hskip]), hskip]
        exact (and_iff_right (Nat.le_of_not_lt hplain)).symm

/-- The characters of a string end behind a quote. -/
theorem Characters.length_lt {escape : List Char → Char → List Char → Prop} {chars : List Char}
    (hescape : ∀ {text c rest}, escape text c rest → rest.length < text.length)
    (h : Characters escape text chars rest) : rest.length < text.length := by
  induction h with
  | close => exact Nat.lt_succ_self _
  | plain _ _ _ _ ih => exact Nat.lt_succ_of_lt ih
  | escaped h _ ih => exact Nat.lt_succ_of_lt (Nat.lt_trans ih (hescape h))

/-- A string in quotes is not empty. -/
theorem Quoted.length_lt {value : String} (h : Quoted text value rest) :
    rest.length < text.length := by
  obtain ⟨hchars⟩ := h
  exact Nat.lt_succ_of_lt (hchars.length_lt Escape.length_lt)

end Dashboards.Json
