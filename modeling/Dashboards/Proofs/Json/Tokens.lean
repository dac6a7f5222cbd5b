import Dashboards.Proofs.Json.Scalars
import Dashboards.Proofs.Sequence

/-!
# The grammar of JSON tokens

A part of a text is described by a relation of what there is from its beginning on and what is left
behind it: `White` for white space, `Next` for the way to the next element of a collection, `Quoted`
for a string with what it says, `Whole` for the digits of an integer. White space and numbers go on
as far as they can, so what is left behind them does not begin with more of the same.

The relations do not mention readers. A reader is exact for one of them if it succeeds just where
the relation holds, with the same result and the same rest (`Ends`), and readers after each other
are exact for the relations after each other (`ends_bind_of_read`, `ends_bind_of_cursor`).
-/

namespace Dashboards.Json

/-! ## Grammar -/

/-- A character is white space between tokens. -/
def IsSpace (c : Char) : Prop :=
  c = ' ' ∨ c = '\n' ∨ c = '\t' ∨ c = '\r'

/-- White space up to the next other character. -/
inductive White : List Char → List Char → Prop
  | stop {rest : List Char} : (∀ c ∈ rest.head?, ¬ IsSpace c) → White rest rest
  | space {c : Char} {text rest : List Char} : IsSpace c → White text rest → White (c :: text) rest

/-- The way to the next element of a collection, from its opening bracket or from the element
before. -/
inductive Next : (first : Bool) → List Char → List Char → Prop
  | first {text rest : List Char} : White text rest → Next true text rest
  | later {text behind rest : List Char} : White text (',' :: behind) → White behind rest →
      Next false text rest

/-! ## Exact readers -/

variable {α β γ : Type} {first : Bool} {a : α} {cursor : Cursor} {text rest : List Char}

/-- A reader succeeds, with a result of which something is known. -/
def Ends (x : Except Fault γ) (P : γ → Prop) : Prop :=
  ∃ result, x = .ok result ∧ P result

/-- A result is this value, with this rest behind it. -/
def Read.Is (a : α) (rest : List Char) (result : Read α) : Prop :=
  result.1 = a ∧ result.2.rest = rest

/-- A cursor has this rest behind it. -/
def Cursor.Leaves (rest : List Char) (cursor : Cursor) : Prop :=
  cursor.rest = rest

section
variable {P : γ → Prop}

/-- A fault is no success. -/
@[simp]
theorem not_ends_error {fault : Fault} : ¬ Ends (.error fault : Except Fault γ) P := by
  rintro ⟨_, ⟨⟩, -⟩

@[simp]
theorem not_ends_fail {cursor : Cursor} {problem : Problem} :
    ¬ Ends (cursor.fail problem : Except Fault γ) P :=
  not_ends_error

@[simp]
theorem not_ends_failNext {cursor : Cursor} {problem : Problem} :
    ¬ Ends (cursor.failNext problem : Except Fault γ) P :=
  not_ends_error

/-- A result is known as it is. -/
@[simp]
theorem ends_ok_iff {result : γ} : Ends (.ok result : Except Fault γ) P ↔ P result := by
  constructor
  · rintro ⟨_, ⟨⟩, h⟩
    exact h
  · exact fun h => ⟨result, rfl, h⟩

@[simp]
theorem ends_pure_iff {result : γ} : Ends (pure result : Except Fault γ) P ↔ P result :=
  ends_ok_iff

/-- Two readers after each other succeed if the first does and the second on its result. -/
theorem ends_bind_iff {δ : Type} {x : Except Fault δ} {f : δ → Except Fault γ} :
    Ends (x >>= f) P ↔ ∃ result, x = .ok result ∧ Ends (f result) P := by
  simp only [Ends, bind_eq_ok_iff]
  constructor
  · rintro ⟨last, ⟨result, hfirst, hsecond⟩, hP⟩
    exact ⟨result, hfirst, last, hsecond, hP⟩
  · rintro ⟨result, hfirst, last, hsecond, hP⟩
    exact ⟨last, ⟨result, hfirst, hsecond⟩, hP⟩

/-- Behind an exact reader of a value comes one that is exact where the first one ends. -/
theorem ends_bind_of_read {x : Except Fault (Read α)} {f : Read α → Except Fault γ}
    {S T : α → List Char → Prop} (hx : ∀ a rest, Ends x (Read.Is a rest) ↔ S a rest)
    (hf : ∀ a cursor, S a cursor.rest → (Ends (f (a, cursor)) P ↔ T a cursor.rest)) :
    Ends (x >>= f) P ↔ ∃ a rest, S a rest ∧ T a rest := by
  constructor
  · rintro ⟨result, hresult, hP⟩
    obtain ⟨⟨a, cursor⟩, hfirst, hsecond⟩ := bind_eq_ok_iff.1 hresult
    have hS := (hx a cursor.rest).1 ⟨_, hfirst, rfl, rfl⟩
    exact ⟨a, cursor.rest, hS, (hf a cursor hS).1 ⟨result, hsecond, hP⟩⟩
  · rintro ⟨a, rest, hS, hT⟩
    obtain ⟨⟨_, cursor⟩, hfirst, rfl, rfl⟩ := (hx a rest).2 hS
    obtain ⟨result, hsecond, hP⟩ := (hf _ cursor hS).2 hT
    exact ⟨result, bind_eq_ok_iff.2 ⟨_, hfirst, hsecond⟩, hP⟩

/-- Behind an exact reader of no value comes one that is exact where the first one ends. -/
theorem ends_bind_of_cursor {x : Except Fault Cursor} {f : Cursor → Except Fault γ}
    {S T : List Char → Prop} (hx : ∀ rest, Ends x (Cursor.Leaves rest) ↔ S rest)
    (hf : ∀ cursor, S cursor.rest → (Ends (f cursor) P ↔ T cursor.rest)) :
    Ends (x >>= f) P ↔ ∃ rest, S rest ∧ T rest := by
  constructor
  · rintro ⟨result, hresult, hP⟩
    obtain ⟨cursor, hfirst, hsecond⟩ := bind_eq_ok_iff.1 hresult
    have hS := (hx cursor.rest).1 ⟨_, hfirst, rfl⟩
    exact ⟨cursor.rest, hS, (hf cursor hS).1 ⟨result, hsecond, hP⟩⟩
  · rintro ⟨rest, hS, hT⟩
    obtain ⟨cursor, hfirst, rfl⟩ := (hx rest).2 hS
    obtain ⟨result, hsecond, hP⟩ := (hf cursor hS).2 hT
    exact ⟨result, bind_eq_ok_iff.2 ⟨_, hfirst, hsecond⟩, hP⟩

end

/-! ## White space -/

theorem isSpace_iff {c : Char} : Cursor.isSpace c = true ↔ IsSpace c := by
  simp [Cursor.isSpace, IsSpace, or_assoc]

/-- Behind white space is what is left when it is dropped. -/
theorem white_iff : White text rest ↔ text.dropWhile Cursor.isSpace = rest := by
  induction text with
  | nil =>
    constructor
    · rintro (_ | _)
      rfl
    · rintro rfl
      exact .stop nofun
  | cons c text ih =>
    rw [List.dropWhile_cons]
    by_cases hc : IsSpace c
    · rw [if_pos (isSpace_iff.2 hc), ← ih]
      constructor
      · rintro (hstop | ⟨-, h⟩)
        · exact absurd hc (hstop c rfl)
        · exact h
      · exact .space hc
    · rw [if_neg (mt isSpace_iff.1 hc)]
      constructor
      · rintro (_ | ⟨hspace, -⟩)
        · rfl
        · exact absurd hspace hc
      · rintro rfl
        refine .stop fun d hd => ?_
        cases hd
        exact hc

/-- White space is gone past exactly. -/
theorem skipSpace_rest_iff : cursor.skipSpace.rest = rest ↔ White cursor.rest rest := by
  rw [white_iff, Cursor.skipSpace, Cursor.skipWhile_rest]

/-- Where white space is gone past, there is white space. -/
theorem white_skipSpace (cursor : Cursor) : White cursor.rest cursor.skipSpace.rest :=
  skipSpace_rest_iff.1 rfl

/-- White space ends at one place only. -/
theorem White.unique {rest' : List Char} (h : White text rest) (h' : White text rest') :
    rest = rest' :=
  (white_iff.1 h).symm.trans (white_iff.1 h')

/-- Behind white space is no more of it. -/
theorem White.stopped (h : White text rest) : White rest rest := by
  induction h with
  | stop hstop => exact .stop hstop
  | space _ _ ih => exact ih

/-- White space ends where it does from any place in it on. -/
theorem White.trans_iff {behind : List Char} (h : White text behind) :
    White behind rest ↔ White text rest := by
  constructor
  · intro hrest
    cases h.stopped.unique hrest
    exact h
  · intro hrest
    cases h.unique hrest
    exact h.stopped

/-- Where no white space is, what is behind it is there at once. -/
theorem White.exists_iff {S : List Char → Prop} (h : White text text) :
    (∃ begun, White text begun ∧ S begun) ↔ S text := by
  constructor
  · rintro ⟨begun, hbegun, hS⟩
    cases h.unique hbegun
    exact hS
  · exact fun hS => ⟨text, h, hS⟩

/-- White space is not longer than what there is. -/
theorem White.length_le (h : White text rest) : rest.length ≤ text.length := by
  induction h with
  | stop _ => exact Nat.le_refl _
  | space _ _ ih => exact Nat.le_succ_of_le ih

/-- The way to the next element is not longer than what there is. -/
theorem Next.length_le (h : Next first text rest) : rest.length ≤ text.length := by
  cases h with
  | first h => exact h.length_le
  | later hcomma hrest =>
    have hbefore := hcomma.length_le
    have hbehind := hrest.length_le
    rw [List.length_cons] at hbefore
    omega

/-- The way to the next element ends where no white space is. -/
theorem Next.stopped (h : Next first text rest) : White rest rest := by
  cases h with
  | first h => exact h.stopped
  | later _ h => exact h.stopped

/-! ## Ways to elements -/

/-- An element or the end of an array is found exactly where it is next: an element where the way to
it leads to something else than the closing bracket. -/
theorem nextItem_iff {more : Bool} :
    Ends (nextItem first cursor) (Read.Is more rest) ↔
      if more = true then Next first cursor.rest rest ∧ ∃ c behind, rest = c :: behind ∧ c ≠ ']'
      else White cursor.rest rest ∧ ∃ behind, rest = ']' :: behind := by
  constructor
  · rintro ⟨⟨more, found⟩, h, rfl, rfl⟩
    have hbegun := white_skipSpace cursor
    simp only [nextItem, Cursor.peek?] at h
    generalize cursor.skipSpace = begun at h hbegun
    split at h
    · cases h
    · next hclose =>
      cases h
      exact ⟨hbegun, List.head?_eq_some_iff.1 hclose⟩
    · next c hopen hc =>
      obtain ⟨text, htext⟩ := List.head?_eq_some_iff.1 hc
      have element : ∀ {cursor : Cursor} {d : Char}, cursor.rest.head? = some d → d ≠ ']' →
          ∃ c behind, cursor.rest = c :: behind ∧ c ≠ ']' := fun hd hne =>
        ⟨_, _, (List.head?_eq_some_iff.1 hd).choose_spec, hne⟩
      cases first with
      | true =>
        cases h
        exact ⟨.first hbegun, element hc hopen⟩
      | false =>
        simp only [Bool.false_eq_true, if_false] at h
        split at h
        · next hcomma =>
          subst hcomma
          have hlater := white_skipSpace begun.skip
          rw [Cursor.skip_rest htext] at hlater
          generalize begun.skip.skipSpace = later at h hlater
          split at h
          · cases h
          · next d hopen hd =>
            cases h
            exact ⟨.later (htext ▸ hbegun) hlater, element hd hopen⟩
          · cases h
        · cases h
  · cases more with
    | false =>
      rintro ⟨hwhite, behind, rfl⟩
      have hrest := skipSpace_rest_iff.2 hwhite
      refine ⟨⟨false, cursor.skipSpace⟩, ?_, rfl, hrest⟩
      simp only [nextItem, Cursor.peek?, hrest, List.head?_cons]
    | true =>
      rintro ⟨hnext, c, behind, rfl, hc⟩
      cases hnext with
      | first hwhite =>
        have hrest := skipSpace_rest_iff.2 hwhite
        refine ⟨⟨true, cursor.skipSpace⟩, ?_, rfl, hrest⟩
        simp [nextItem, Cursor.peek?, hrest]
      | later hcomma hwhite =>
        have hrest := skipSpace_rest_iff.2 hcomma
        have hlater : cursor.skipSpace.skip.skipSpace.rest = c :: behind :=
          skipSpace_rest_iff.2 (by rwa [Cursor.skip_rest hrest])
        refine ⟨⟨true, cursor.skipSpace.skip.skipSpace⟩, ?_, rfl, hlater⟩
        simp [nextItem, Cursor.peek?, hrest, hlater]

/-- A key or the end of an object is found exactly where it is next: a key where the way to it leads
to a quote. -/
theorem nextKey_iff {more : Bool} :
    Ends (nextKey first cursor) (Read.Is more rest) ↔
      if more = true then Next first cursor.rest rest ∧ ∃ behind, rest = '"' :: behind
      else White cursor.rest rest ∧ ∃ behind, rest = '\x7d' :: behind := by
  constructor
  · rintro ⟨⟨more, found⟩, h, rfl, rfl⟩
    have hbegun := white_skipSpace cursor
    simp only [nextKey, Cursor.peek?] at h
    generalize cursor.skipSpace = begun at h hbegun
    split at h
    · cases h
    · next hclose =>
      cases h
      exact ⟨hbegun, List.head?_eq_some_iff.1 hclose⟩
    · next c _ hc =>
      cases first with
      | true =>
        simp only [if_true] at h
        split at h
        · next hquote =>
          cases h
          exact ⟨.first hbegun, List.head?_eq_some_iff.1 (hquote ▸ hc)⟩
        · cases h
      | false =>
        simp only [Bool.false_eq_true, if_false] at h
        split at h
        · next hcomma =>
          subst hcomma
          obtain ⟨text, htext⟩ := List.head?_eq_some_iff.1 hc
          have hlater := white_skipSpace begun.skip
          rw [Cursor.skip_rest htext] at hlater
          generalize begun.skip.skipSpace = later at h hlater
          split at h
          · next hquote =>
            cases h
            exact ⟨.later (htext ▸ hbegun) hlater, List.head?_eq_some_iff.1 hquote⟩
          all_goals cases h
        · cases h
  · cases more with
    | false =>
      rintro ⟨hwhite, behind, rfl⟩
      have hrest := skipSpace_rest_iff.2 hwhite
      refine ⟨⟨false, cursor.skipSpace⟩, ?_, rfl, hrest⟩
      simp only [nextKey, Cursor.peek?, hrest, List.head?_cons]
    | true =>
      rintro ⟨hnext, behind, rfl⟩
      cases hnext with
      | first hwhite =>
        have hrest := skipSpace_rest_iff.2 hwhite
        refine ⟨⟨true, cursor.skipSpace⟩, ?_, rfl, hrest⟩
        simp [nextKey, Cursor.peek?, hrest]
      | later hcomma hwhite =>
        have hrest := skipSpace_rest_iff.2 hcomma
        have hlater : cursor.skipSpace.skip.skipSpace.rest = '"' :: behind :=
          skipSpace_rest_iff.2 (by rwa [Cursor.skip_rest hrest])
        refine ⟨⟨true, cursor.skipSpace.skip.skipSpace⟩, ?_, rfl, hlater⟩
        simp [nextKey, Cursor.peek?, hrest, hlater]

/-- A colon is read exactly where it is next. -/
theorem readColon_iff :
    Ends (readColon cursor) (Cursor.Leaves rest) ↔ White cursor.rest (':' :: rest) := by
  rw [← skipSpace_rest_iff, readColon]
  simp only [Cursor.peek?]
  generalize cursor.skipSpace = cursor
  cases hrest : cursor.rest with
  | nil => simp
  | cons c behind =>
    simp only [List.head?_cons]
    split
    · next hc =>
      cases hc
      simp [Cursor.Leaves, Cursor.skip_rest hrest]
    · next hc => simp_all
    · next hc => cases hc

/-- A value is read exactly where it is next, if it is from its first character on. -/
theorem toValue_iff {read : Char → Cursor → Except Fault (Read α)} {S : List Char → Prop}
    (hread : ∀ c (cursor : Cursor) behind, cursor.rest = c :: behind →
      (Ends (read c cursor) (Read.Is a rest) ↔ S (c :: behind))) (hend : ¬ S []) :
    Ends (toValue cursor read) (Read.Is a rest) ↔ ∃ begun, White cursor.rest begun ∧ S begun := by
  simp only [← skipSpace_rest_iff, exists_eq_left', toValue, Cursor.peek?]
  generalize cursor.skipSpace = begun
  cases hbegun : begun.rest with
  | nil => simp [hend]
  | cons c behind => exact hread c begun behind hbegun

end Dashboards.Json
