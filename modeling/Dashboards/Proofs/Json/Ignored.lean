import Dashboards.Proofs.Json.Numbers
import Dashboards.Proofs.Json.Strings

/-!
# The grammar of JSON values that nobody asks for

A value that nobody asks for is checked only (`Skipped`). Collections may be nested without a limit
in it, an escape may have any number, and a number may be too great.

The check keeps the collections that are open. What is left of a text for it to succeed is what the
open collections still ask for, one behind the other (`Closes`); so a value is checked exactly where
there is one (`ignore_iff`).
-/

namespace Dashboards.Json

/-! ## Grammar -/

/-- A value that is no collection. -/
inductive Leaf : List Char → List Char → Prop
  | null {rest : List Char} : Leaf ('n' :: 'u' :: 'l' :: 'l' :: rest) rest
  | isTrue {rest : List Char} : Leaf ('t' :: 'r' :: 'u' :: 'e' :: rest) rest
  | isFalse {rest : List Char} : Leaf ('f' :: 'a' :: 'l' :: 's' :: 'e' :: rest) rest
  | string {text chars rest : List Char} : Characters LooseEscape text chars rest →
      Leaf ('"' :: text) rest
  | positive {text rest : List Char} : Numeral text rest → Leaf text rest
  | negative {text rest : List Char} : Numeral text rest → Leaf ('-' :: text) rest

/-- The bracket that closes a collection. -/
def Frame.bracket : Frame → Char
  | array => ']'
  | object => '\x7d'

/-- The way from the beginning of an element to its value: none in an array, a key in an object. -/
inductive Label : Frame → List Char → List Char → Prop
  | array {value : List Char} : Label .array value value
  | object {key chars colon text value : List Char} : Characters LooseEscape key chars colon →
      White colon (':' :: text) → White text value → Label .object ('"' :: key) value

/-- A part of a value: all of it, or what is left of a collection, from its opening bracket or from
an element on. -/
inductive Part where
  | whole
  | inside (frame : Frame) (first : Bool)

/-- A part of a value that is checked only. -/
inductive Skipped : Part → List Char → List Char → Prop
  | leaf {text rest : List Char} : Leaf text rest → Skipped .whole text rest
  | array {text rest : List Char} : Skipped (.inside .array true) text rest →
      Skipped .whole ('[' :: text) rest
  | object {text rest : List Char} : Skipped (.inside .object true) text rest →
      Skipped .whole ('\x7b' :: text) rest
  | close {frame : Frame} {first : Bool} {text rest : List Char} :
      White text (frame.bracket :: rest) → Skipped (.inside frame first) text rest
  | element {frame : Frame} {first : Bool} {text begun value behind rest : List Char} :
      Next first text begun → Label frame begun value → Skipped .whole value behind →
      Skipped (.inside frame false) behind rest → Skipped (.inside frame first) text rest

variable {cursor : Cursor} {text begun rest : List Char}

/-! ## Values that are no collections -/

/-- The rest of a word is read exactly where it is. -/
theorem readWord_iff {word : List Char} :
    Ends (readWord word cursor) (Cursor.Leaves rest) ↔ cursor.rest = word ++ rest := by
  induction word generalizing cursor with
  | nil => exact ends_ok_iff
  | cons expected word ih =>
    rw [readWord]
    cases hrest : cursor.rest with
    | nil => exact iff_of_false not_ends_fail nofun
    | cons c behind =>
      dsimp only
      split
      · next hc => rw [ih, Cursor.skip_rest hrest, hc, List.cons_append, List.cons_inj_right]
      · next hc => exact iff_of_false not_ends_error fun h => hc (List.head_eq_of_cons_eq h)

/-- A value that is no collection is checked exactly where it is. -/
theorem ignoreLeaf_iff {c : Char} {behind : List Char} (h : cursor.rest = c :: behind) :
    Ends (ignoreLeaf c cursor) (Cursor.Leaves rest) ↔ Leaf cursor.rest rest := by
  have hskip : cursor.skip.rest = behind := Cursor.skip_rest h
  rw [h, ignoreLeaf.eq_def]
  split
  case h_1 | h_2 | h_3 =>
    rw [readWord_iff, hskip]
    constructor
    · rintro rfl
      first | exact .null | exact .isTrue | exact .isFalse
    · rintro (_ | _ | _ | _ | hnumeral)
      · rfl
      · exact absurd hnumeral (not_numeral rfl)
  case h_4 =>
    rw [ignoreString_iff (by rw [hskip, h, List.length_cons]; omega), hskip]
    constructor
    · rintro ⟨chars, hchars⟩
      exact .string hchars
    · rintro (_ | _ | _ | hchars | hnumeral)
      · exact ⟨_, hchars⟩
      · exact absurd hnumeral (not_numeral rfl)
  case h_5 hn ht hf hq =>
    by_cases hminus : c = '-'
    · subst hminus
      rw [if_pos rfl, ignoreNumber_iff, hskip]
      constructor
      · exact .negative
      · rintro (_ | _ | _ | _ | hnumeral | hnumeral)
        · exact absurd hnumeral (not_numeral rfl)
        · exact hnumeral
    rw [if_neg hminus]
    have hleaf : Leaf (c :: behind) rest ↔ Numeral (c :: behind) rest := by
      constructor
      · rintro (_ | _ | _ | _ | hnumeral | _)
        · exact absurd rfl hn
        · exact absurd rfl ht
        · exact absurd rfl hf
        · exact absurd rfl hq
        · exact hnumeral
        · exact absurd rfl hminus
      · exact .positive
    rw [hleaf]
    by_cases hc : c.isDigit = true
    · rw [if_pos hc, ignoreNumber_iff, h]
    · rw [if_neg hc]
      exact iff_of_false not_ends_failNext (not_numeral (by simpa using hc))

/-! ## Lengths -/

/-- A value that is no collection is not empty. -/
theorem Leaf.length_lt (h : Leaf text rest) : rest.length < text.length := by
  cases h with
  | null | isTrue | isFalse => simp only [List.length_cons]; omega
  | string h => exact Nat.lt_succ_of_lt (h.length_lt LooseEscape.length_lt)
  | positive h => exact h.length_lt
  | negative h => exact Nat.lt_succ_of_lt h.length_lt

/-- A value that is checked only is not empty, and neither is what is left of a collection. -/
theorem Skipped.length_lt {part : Part} (h : Skipped part text rest) :
    rest.length < text.length := by
  induction h with
  | leaf hleaf => exact hleaf.length_lt
  | array _ ih | object _ ih => exact Nat.lt_succ_of_lt ih
  | close hwhite => exact hwhite.length_le
  | element hnext hlabel _ _ hvalue hothers =>
    refine Nat.lt_of_lt_of_le (Nat.lt_trans hothers hvalue) (Nat.le_trans ?_ hnext.length_le)
    cases hlabel with
    | array => exact Nat.le_refl _
    | object hchars hcolon hbegun =>
      have hwithin := hchars.length_lt LooseEscape.length_lt
      have hbehind := hcolon.length_le
      have hbegun := hbegun.length_le
      simp only [List.length_cons] at hbehind ⊢
      omega

/-! ## Open collections -/

/-- What open collections ask for, innermost first, behind an element of the innermost one or, at
first, behind its bracket. -/
def Closes (rest : List Char) : (first : Bool) → List Frame → List Char → Prop
  | _, [], text => text = rest
  | first, frame :: frames, text =>
    ∃ behind, Skipped (.inside frame first) text behind ∧ Closes rest false frames behind

/-- What a value within open collections asks for. -/
def Enters (rest : List Char) (frames : List Frame) (text : List Char) : Prop :=
  ∃ begun behind, White text begun ∧ Skipped .whole begun behind ∧ Closes rest false frames behind

/-- What an element of the innermost open collection asks for. -/
def Continues (rest : List Char) (frame : Frame) (frames : List Frame) (text : List Char) : Prop :=
  ∃ begun value behind, White text begun ∧ Label frame begun value ∧ Skipped .whole value behind ∧
    Closes rest false (frame :: frames) behind

variable {frame : Frame} {frames : List Frame} {first : Bool}

/-- A bracket does not begin a value that is no collection. -/
theorem Leaf.exists_cons (h : Leaf text rest) :
    ∃ c behind, text = c :: behind ∧ c ∉ ['[', ']', '\x7b', '\x7d'] := by
  have hnumeral : ∀ {text}, Numeral text rest →
      ∃ c behind, text = c :: behind ∧ c ∉ ['[', ']', '\x7b', '\x7d'] := by
    rintro _ ⟨hwhole, -, -⟩
    obtain ⟨c, behind, rfl, hc⟩ := hwhole.exists_cons
    refine ⟨c, behind, rfl, fun hmem => ?_⟩
    have hbrackets : ['[', ']', '\x7b', '\x7d'].all (fun c => !c.isDigit) = true := by decide
    have hnone := List.all_eq_true.1 hbrackets c hmem
    rw [hc] at hnone
    cases hnone
  cases h with
  | positive h => exact hnumeral h
  | _ => exact ⟨_, _, rfl, by decide⟩

/-- An element does not begin with the closing bracket. -/
theorem Continues.exists_cons (h : Continues rest frame frames text) (hwhite : White text begun) :
    ∃ c behind, begun = c :: behind ∧ c ≠ frame.bracket := by
  obtain ⟨_, value, _, hbegun, hlabel, hvalue, -⟩ := h
  cases hwhite.unique hbegun
  cases hlabel with
  | array =>
    cases hvalue with
    | leaf h =>
      obtain ⟨c, behind, rfl, hc⟩ := h.exists_cons
      refine ⟨c, behind, rfl, ?_⟩
      rintro rfl
      exact hc (by decide)
    | array _ => exact ⟨_, _, rfl, by decide⟩
    | object _ => exact ⟨_, _, rfl, by decide⟩
  | object _ _ _ => exact ⟨_, _, rfl, by decide⟩

/-- An open collection ends where its bracket is. -/
theorem closes_bracket_iff {behind : List Char} (hwhite : White text (frame.bracket :: behind)) :
    Closes rest first (frame :: frames) text ↔ Closes rest false frames behind := by
  constructor
  · rintro ⟨left, hskipped, hcloses⟩
    cases hskipped with
    | close hbracket =>
      cases hwhite.unique hbracket
      exact hcloses
    | element hnext hlabel hvalue hothers =>
      cases hnext with
      | first hbegun =>
        have hmore : Continues rest frame frames text :=
          ⟨_, _, _, hbegun, hlabel, hvalue, left, hothers, hcloses⟩
        obtain ⟨_, _, ⟨⟩, hc⟩ := hmore.exists_cons hwhite
        exact absurd rfl hc
      | later hcomma _ =>
        have hbracket := hwhite.unique hcomma
        cases frame <;> cases hbracket
  · exact fun hcloses => ⟨behind, .close hwhite, hcloses⟩

/-- Where its bracket is not, an open collection goes on with an element, behind its opening bracket
or behind a comma. -/
theorem closes_element_iff (hwhite : White text begun)
    (hbracket : begun.head? ≠ some frame.bracket) :
    Closes rest first (frame :: frames) text ↔
      if first = true then Continues rest frame frames begun
      else ∃ behind, begun = ',' :: behind ∧ Continues rest frame frames behind := by
  constructor
  · rintro ⟨left, hskipped, hcloses⟩
    cases hskipped with
    | close hend =>
      cases hwhite.unique hend
      exact absurd rfl hbracket
    | element hnext hlabel hvalue hothers =>
      cases hnext with
      | first hbegun =>
        exact ⟨_, _, _, hwhite.trans_iff.2 hbegun, hlabel, hvalue, left, hothers, hcloses⟩
      | later hcomma hbegun =>
        cases hwhite.unique hcomma
        exact ⟨_, rfl, _, _, _, hbegun, hlabel, hvalue, left, hothers, hcloses⟩
  · intro hmore
    cases first with
    | true =>
      obtain ⟨_, _, _, hbegun, hlabel, hvalue, left, hothers, hcloses⟩ := hmore
      exact ⟨left, .element (.first (hwhite.trans_iff.1 hbegun)) hlabel hvalue hothers, hcloses⟩
    | false =>
      obtain ⟨_, rfl, _, _, _, hbegun, hlabel, hvalue, left, hothers, hcloses⟩ := hmore
      exact ⟨left, .element (.later hwhite hbegun) hlabel hvalue hothers, hcloses⟩

/-- A value is a collection or none, depending on its first character. -/
theorem enters_iff {c : Char} (hwhite : White text (c :: begun)) :
    Enters rest frames text ↔
      if c = '[' then Closes rest true (.array :: frames) begun
      else if c = '\x7b' then Closes rest true (.object :: frames) begun
      else ∃ behind, Leaf (c :: begun) behind ∧ Closes rest false frames behind := by
  constructor
  · rintro ⟨_, behind, hbegun, hvalue, hcloses⟩
    cases hwhite.unique hbegun
    cases hvalue with
    | leaf hleaf =>
      obtain ⟨_, _, ⟨⟩, hc⟩ := hleaf.exists_cons
      have hnone : c ≠ '[' ∧ c ≠ '\x7b' := by
        constructor
        all_goals
          rintro rfl
          exact hc (by decide)
      rw [if_neg hnone.1, if_neg hnone.2]
      exact ⟨behind, hleaf, hcloses⟩
    | array hinside => exact ⟨behind, hinside, hcloses⟩
    | object hinside => exact ⟨behind, hinside, hcloses⟩
  · intro h
    split at h
    · next hc =>
      subst hc
      obtain ⟨behind, hinside, hcloses⟩ := h
      exact ⟨_, behind, hwhite, .array hinside, hcloses⟩
    · split at h
      · next hc =>
        subst hc
        obtain ⟨behind, hinside, hcloses⟩ := h
        exact ⟨_, behind, hwhite, .object hinside, hcloses⟩
      · obtain ⟨behind, hleaf, hcloses⟩ := h
        exact ⟨_, behind, hwhite, .leaf hleaf, hcloses⟩

/-! ## Exactness -/

/-- The key of an object is checked exactly where it is. -/
theorem ignoreKey_iff :
    Ends (ignoreKey cursor) (Cursor.Leaves rest) ↔
      ∃ key chars colon, White cursor.rest ('"' :: key) ∧ Characters LooseEscape key chars colon ∧
        White colon (':' :: rest) := by
  have hkey : ∀ key, White cursor.rest ('"' :: key) ↔ cursor.skipSpace.rest = '"' :: key :=
    fun _ => skipSpace_rest_iff.symm
  simp only [hkey, ignoreKey, Cursor.peek?]
  generalize cursor.skipSpace = begun
  cases hbegun : begun.rest with
  | nil => exact iff_of_false not_ends_failNext (by rintro ⟨_, _, _, ⟨⟩, -⟩)
  | cons c behind =>
    simp only [List.head?_cons]
    split
    · next hc =>
      cases hc
      have hskip : begun.skip.rest = behind := Cursor.skip_rest hbegun
      rw [ends_bind_of_cursor (fun _ => ignoreString_iff (by rw [hskip, List.length_cons]; omega))
        (T := fun colon => White colon (':' :: rest)) fun _ _ => readColon_iff, hskip]
      constructor
      · rintro ⟨colon, ⟨chars, hchars⟩, hcolon⟩
        exact ⟨behind, chars, colon, rfl, hchars, hcolon⟩
      · rintro ⟨_, chars, colon, ⟨⟩, hchars, hcolon⟩
        exact ⟨colon, ⟨chars, hchars⟩, hcolon⟩
    · next hc heq =>
      cases heq
      refine iff_of_false not_ends_failNext ?_
      rintro ⟨_, _, _, ⟨⟩, -⟩
      exact hc rfl
    · next hc => cases hc

/-- The elements of an open collection are checked exactly where they are, if values within it
are. -/
theorem continues_iff {fuel : Nat}
    (hvalue : ∀ found : Cursor, found.rest.length ≤ cursor.rest.length →
      (Ends (ignoreSteps fuel .value (frame :: frames) found) (Cursor.Leaves rest) ↔
        Enters rest (frame :: frames) found.rest)) :
    Ends (do
      let cursor ← if frame = .object then ignoreKey cursor else pure cursor
      ignoreSteps fuel .value (frame :: frames) cursor) (Cursor.Leaves rest) ↔
      Continues rest frame frames cursor.rest := by
  cases frame with
  | array =>
    refine (hvalue cursor (Nat.le_refl _)).trans ?_
    constructor
    · rintro ⟨begun, behind, hbegun, hwhole, hcloses⟩
      exact ⟨begun, begun, behind, hbegun, .array, hwhole, hcloses⟩
    · rintro ⟨begun, _, behind, hbegun, ⟨⟩, hwhole, hcloses⟩
      exact ⟨begun, behind, hbegun, hwhole, hcloses⟩
  | object =>
    rw [if_pos rfl, ends_bind_of_cursor (fun _ => ignoreKey_iff)
      (T := Enters rest (.object :: frames))]
    · constructor
      · rintro ⟨_, ⟨key, chars, colon, hkey, hchars, hcolon⟩, begun, behind, hbegun, hwhole,
          hcloses⟩
        exact ⟨_, begun, behind, hkey, .object hchars hcolon hbegun, hwhole, hcloses⟩
      · rintro ⟨_, begun, behind, hkey, _ | ⟨hchars, hcolon, hbegun⟩, hwhole, hcloses⟩
        exact ⟨_, ⟨_, _, _, hkey, hchars, hcolon⟩, begun, behind, hbegun, hwhole, hcloses⟩
    · rintro found ⟨key, chars, colon, hkey, hchars, hcolon⟩
      refine hvalue found ?_
      have hbefore := hkey.length_le
      have hwithin := hchars.length_lt LooseEscape.length_lt
      have hbehind := hcolon.length_le
      simp only [List.length_cons] at hbefore hbehind
      omega

/-- What is pending asks for. -/
def Pending.Asks (rest : List Char) (frames : List Frame) (text : List Char) : Pending → Prop
  | value => Enters rest frames text
  | close first => Closes rest first frames text

/-- How many steps are enough for what is pending: going on to an element may use up no character,
but the step behind it does. -/
def Pending.steps (length : Nat) : Pending → Nat
  | value => 2 * length + 1
  | close _ => 2 * length + 2

section
variable {fuel : Nat}
  (hless : ∀ {pending : Pending} {frames : List Frame} {found : Cursor},
    pending.steps found.rest.length ≤ fuel →
      (Ends (ignoreSteps fuel pending frames found) (Cursor.Leaves rest) ↔
        pending.Asks rest frames found.rest))
include hless

/-- A value is checked exactly where it is, if what comes behind its first character is. -/
theorem ignoreSteps_value_iff (hfuel : Pending.value.steps cursor.rest.length ≤ fuel + 1) :
    Ends (ignoreSteps (fuel + 1) .value frames cursor) (Cursor.Leaves rest) ↔
      Enters rest frames cursor.rest := by
  have hwhite := white_skipSpace cursor
  have hlength := hwhite.length_le
  rw [Pending.steps] at hfuel
  rw [ignoreSteps.eq_def]
  simp only [Cursor.peek?]
  generalize cursor.skipSpace = begun at hwhite hlength
  cases hbegun : begun.rest with
  | nil =>
    rw [hbegun] at hwhite
    refine iff_of_false not_ends_failNext ?_
    rintro ⟨_, _, hnone, hwhole, -⟩
    cases hwhite.unique hnone
    obtain ⟨hleaf⟩ := hwhole
    obtain ⟨_, _, ⟨⟩, -⟩ := hleaf.exists_cons
  | cons c behind =>
    rw [hbegun] at hwhite hlength
    rw [List.length_cons] at hlength
    have hskip : begun.skip.rest = behind := Cursor.skip_rest hbegun
    rw [enters_iff hwhite, List.head?_cons]
    split
    case h_1 hc => cases hc
    case h_2 hc | h_3 hc =>
      cases hc
      rw [hless (by rw [hskip, Pending.steps]; omega), hskip]
      rfl
    case h_4 hbracket hbrace hc =>
      cases hc
      rw [if_neg hbracket, if_neg hbrace, ← hbegun]
      refine ends_bind_of_cursor (fun _ => ignoreLeaf_iff hbegun) fun found hleaf => hless ?_
      have hshorter := hleaf.length_lt
      rw [hbegun, List.length_cons] at hshorter
      rw [Pending.steps]
      omega

/-- The rest of a collection is checked exactly where it is, if what comes behind its bracket or
behind its next key is. -/
theorem ignoreSteps_close_iff (hfuel : (Pending.close first).steps cursor.rest.length ≤ fuel + 1) :
    Ends (ignoreSteps (fuel + 1) (.close first) (frame :: frames) cursor) (Cursor.Leaves rest) ↔
      Closes rest first (frame :: frames) cursor.rest := by
  have hwhite := white_skipSpace cursor
  have hlength := hwhite.length_le
  rw [Pending.steps] at hfuel
  rw [ignoreSteps.eq_def]
  simp only [Cursor.peek?]
  generalize cursor.skipSpace = begun at hwhite hlength
  by_cases hbracket : begun.rest.head? = some frame.bracket
  · obtain ⟨behind, hbegun⟩ := List.head?_eq_some_iff.1 hbracket
    have hskip : begun.skip.rest = behind := Cursor.skip_rest hbegun
    rw [hbegun] at hwhite hlength
    rw [List.length_cons] at hlength
    have hrest := @hless (.close false) frames begun.skip (by rw [hskip, Pending.steps]; omega)
    rw [hskip] at hrest
    rw [closes_bracket_iff hwhite, hbracket]
    cases frame <;> exact hrest
  rw [closes_element_iff hwhite hbracket]
  have hvalue : ∀ found : Cursor, found.rest.length ≤ begun.rest.length →
      (Ends (ignoreSteps fuel .value (frame :: frames) found) (Cursor.Leaves rest) ↔
        Enters rest (frame :: frames) found.rest) := fun found hfound =>
    hless (by rw [Pending.steps]; omega)
  cases hbegun : begun.rest with
  | nil =>
    have hnone : ¬ if first = true then Continues rest frame frames []
        else ∃ behind, [] = ',' :: behind ∧ Continues rest frame frames behind := by
      rw [hbegun] at hwhite
      split
      · intro hmore
        obtain ⟨_, _, ⟨⟩, -⟩ := hmore.exists_cons hwhite.stopped
      · rintro ⟨_, ⟨⟩, -⟩
    cases frame <;> exact iff_of_false not_ends_failNext hnone
  | cons c behind =>
    have hskip : begun.skip.rest = behind := Cursor.skip_rest hbegun
    rw [hbegun] at hbracket
    rw [List.head?_cons]
    split
    case h_1 hc | h_2 hc => cases hc
    case h_3 hc | h_4 hc => exact absurd hc hbracket
    case h_5 hc _ _ =>
      cases hc
      cases first with
      | true =>
        rw [← hbegun]
        exact continues_iff hvalue
      | false =>
        simp only [Bool.false_eq_true, if_false]
        by_cases hcomma : c = ','
        · subst hcomma
          rw [if_pos rfl, continues_iff, hskip]
          · constructor
            · exact fun hmore => ⟨behind, rfl, hmore⟩
            · rintro ⟨_, ⟨⟩, hmore⟩
              exact hmore
          · intro found hfound
            rw [hskip] at hfound
            refine hvalue found ?_
            rw [hbegun, List.length_cons]
            omega
        · rw [if_neg hcomma]
          refine iff_of_false not_ends_failNext ?_
          rintro ⟨_, ⟨⟩, -⟩
          exact hcomma rfl

end

/-- What is pending is checked exactly where it is. -/
theorem ignoreSteps_iff {fuel : Nat} {pending : Pending}
    (hfuel : pending.steps cursor.rest.length ≤ fuel) :
    Ends (ignoreSteps fuel pending frames cursor) (Cursor.Leaves rest) ↔
      pending.Asks rest frames cursor.rest := by
  -- The fuel is what grows less: the open collections may become more or fewer in a step.
  induction fuel generalizing pending frames cursor with
  | zero => cases pending <;> exact absurd hfuel (Nat.not_succ_le_zero _)
  | succ fuel ih =>
    cases pending with
    | value => exact ignoreSteps_value_iff ih hfuel
    | close first =>
      cases frames with
      | nil =>
        rw [ignoreSteps]
        exact ends_ok_iff
      | cons frame frames => exact ignoreSteps_close_iff ih hfuel

/-- A value that nobody asks for is checked exactly where there is one. -/
theorem ignore_iff :
    Ends (ignore cursor) (Cursor.Leaves rest) ↔
      ∃ begun, White cursor.rest begun ∧ Skipped .whole begun rest := by
  rw [ignore, ignoreSteps_iff (by rw [Pending.steps]; omega)]
  constructor
  · rintro ⟨begun, _, hbegun, hwhole, rfl⟩
    exact ⟨begun, hbegun, hwhole⟩
  · rintro ⟨begun, hbegun, hwhole⟩
    exact ⟨begun, rest, hbegun, hwhole, rfl⟩

end Dashboards.Json
