import Dashboards.Api.Listing
import Dashboards.Proofs.Json.Ignored

/-!
# The grammar of listings

A listing is an object with at most one entry `dashboards`, an array of summaries; a summary is an
object with one entry `id`, a natural number of 64 bits, and one entry `title`, a string. Other
entries may have any values. Records may also be arrays of their fields in order
(`Summary.Spelled`, `Spelled`).

The grammar does not mention the reader of listings. The reader is exact for it: a text is read
exactly as the summaries that are written in it (`ofText_eq_ok_iff`).
-/

namespace Dashboards.Api

open Json (Cursor Fault Read White Next Quoted Unsigned Skipped Ends)

/-! ## Grammar -/

/-- The elements of a collection up to its closing bracket, from its opening bracket or from an
element on. -/
inductive Row {α : Type} (bracket : Char) (Element : List Char → α → List Char → Prop) :
    (first : Bool) → List Char → List α → List Char → Prop
  | close {first : Bool} {text rest : List Char} : White text (bracket :: rest) →
      Row bracket Element first text [] rest
  | element {first : Bool} {text begun behind rest : List Char} {a : α} {as : List α} :
      Next first text begun → Element begun a behind → Row bracket Element false behind as rest →
      Row bracket Element first text (a :: as) rest

/-- An entry of an object, whose key decides what its value may be. -/
inductive Entry {α : Type} (Value : String → List Char → α → List Char → Prop) :
    List Char → α → List Char → Prop
  | mk {key : String} {text colon value begun rest : List Char} {a : α} : Quoted text key colon →
      White colon (':' :: value) → White value begun → Value key begun a rest →
      Entry Value text a rest

/-- What an entry of a summary says. -/
inductive SummaryEntry where
  | id (id : Nat)
  | title (title : String)
  | other

namespace SummaryEntry

/-- The number that an entry says. -/
def id? : SummaryEntry → Option Nat
  | .id n => some n
  | _ => none

/-- The title that an entry says. -/
def title? : SummaryEntry → Option String
  | .title text => some text
  | _ => none

/-- The value of an entry, by its key. -/
inductive Value : String → List Char → SummaryEntry → List Char → Prop
  | id {key : String} {text rest : List Char} {n : Nat} : key = "id" → Unsigned text n rest →
      Value key text (.id n) rest
  | title {key : String} {text rest : List Char} {title : String} : key = "title" →
      Quoted text title rest → Value key text (.title title) rest
  | other {key : String} {text rest : List Char} : key ≠ "id" → key ≠ "title" →
      Skipped .whole text rest → Value key text .other rest

end SummaryEntry

/-- A summary: an object that says its number and its title once, or an array of them. -/
inductive Summary.Spelled : List Char → Summary → List Char → Prop
  | object {text rest : List Char} {entries : List SummaryEntry} {id : Nat} {title : String} :
      Row '\x7d' (Entry SummaryEntry.Value) true text entries rest →
      entries.filterMap SummaryEntry.id? = [id] → entries.filterMap SummaryEntry.title? = [title] →
      Spelled ('\x7b' :: text) ⟨id, title⟩ rest
  | array {text first comma second behind rest : List Char} {id : Nat} {title : String} :
      Next true text first → Unsigned first id comma → Next false comma second →
      Quoted second title behind → White behind (']' :: rest) →
      Spelled ('[' :: text) ⟨id, title⟩ rest

namespace Listing

/-- An array of summaries. -/
inductive Summaries : List Char → List Summary → List Char → Prop
  | mk {text rest : List Char} {summaries : List Summary} :
      Row ']' Summary.Spelled true text summaries rest → Summaries ('[' :: text) summaries rest

/-- The value of an entry of a listing, by its key, and the summaries that it says, if any. -/
inductive Value : String → List Char → Option (List Summary) → List Char → Prop
  | dashboards {key : String} {text rest : List Char} {summaries : List Summary} :
      key = "dashboards" → Summaries text summaries rest → Value key text (some summaries) rest
  | other {key : String} {text rest : List Char} : key ≠ "dashboards" →
      Skipped .whole text rest → Value key text none rest

/-- A listing: an object that says its summaries at most once, or an array of them, if any. -/
inductive Spelled : List Char → List Summary → List Char → Prop
  | object {text rest : List Char} {entries : List (Option (List Summary))}
      {summaries : Option (List Summary)} :
      Row '\x7d' (Entry Value) true text entries rest →
      entries.filterMap id = summaries.toList → Spelled ('\x7b' :: text) (summaries.getD []) rest
  | array {text begun behind rest : List Char} {summaries : List Summary} : Next true text begun →
      Summaries begun summaries behind → White behind (']' :: rest) →
      Spelled ('[' :: text) summaries rest
  | empty {text rest : List Char} : White text (']' :: rest) → Spelled ('[' :: text) [] rest

/-- A text that is a listing of these summaries, and nothing else. -/
def Written (text : String) (summaries : List Summary) : Prop :=
  ∃ begun behind, White text.toList begun ∧ Spelled begun summaries behind ∧ White behind []

end Listing

section
variable {α : Type} {text rest : List Char}

/-! ## Lengths -/

/-- The elements of a collection and its closing bracket are not empty. -/
theorem Row.length_lt {bracket : Char} {Element : List Char → α → List Char → Prop} {first : Bool}
    {as : List α}
    (hlength : ∀ {text a rest}, Element text a rest → rest.length < text.length)
    (h : Row bracket Element first text as rest) : rest.length < text.length := by
  induction h with
  | close hwhite => exact hwhite.length_le
  | element hnext helement _ ih =>
    exact Nat.lt_of_lt_of_le (Nat.lt_trans ih (hlength helement)) hnext.length_le

/-- An entry is not empty. -/
theorem Entry.length_lt {Value : String → List Char → α → List Char → Prop} {a : α}
    (hlength : ∀ {key text a rest}, Value key text a rest → rest.length < text.length)
    (h : Entry Value text a rest) : rest.length < text.length := by
  obtain ⟨hkey, hcolon, hbegun, hvalue⟩ := h
  have hkey := hkey.length_lt
  have hcolon := hcolon.length_le
  have hbegun := hbegun.length_le
  have hvalue := hlength hvalue
  rw [List.length_cons] at hcolon
  omega

/-- The value of an entry of a summary is not empty. -/
theorem SummaryEntry.Value.length_lt {key : String} {entry : SummaryEntry}
    (h : SummaryEntry.Value key text entry rest) : rest.length < text.length := by
  cases h with
  | id _ h => exact h.length_lt
  | title _ h => exact h.length_lt
  | other _ _ h => exact h.length_lt

/-- A summary is not empty. -/
theorem Summary.Spelled.length_lt {summary : Summary} (h : summary.Spelled text rest) :
    rest.length < text.length := by
  cases h with
  | object hrow _ _ =>
    exact Nat.lt_succ_of_lt (hrow.length_lt (Entry.length_lt SummaryEntry.Value.length_lt))
  | array hfirst hid hsecond htitle hend =>
    have hfirst := hfirst.length_le
    have hid := hid.length_lt
    have hsecond := hsecond.length_le
    have htitle := htitle.length_lt
    have hend := hend.length_le
    rw [List.length_cons] at hend ⊢
    omega

end

namespace Listing

variable {α ρ : Type} {cursor : Cursor} {text rest : List Char}

/-! ## Values -/

/-- What is of another type than expected is not read. -/
theorem not_ends_refuse {expected : String} {c : Char} {P : α → Prop} :
    ¬ Ends (refuse expected c cursor : Except Fault α) P := by
  rw [refuse.eq_def]
  split
  · exact Json.not_ends_fail
  · exact Json.not_ends_fail
  · rw [Json.ends_bind_iff]
    rintro ⟨_, -, h⟩
    exact Json.not_ends_fail h

/-- A natural number is read exactly as it is written. -/
theorem readUnsigned_iff {n : Nat} :
    Ends (readUnsigned cursor) (Read.Is n rest) ↔
      ∃ begun, White cursor.rest begun ∧ Unsigned begun n rest := by
  refine Json.toValue_iff (fun c cursor behind htext => ?_) fun h => by
    obtain ⟨_, _, ⟨⟩, -⟩ := h.exists_cons
  by_cases hc : c = '-' ∨ c.isDigit = true
  · rw [if_pos hc]
    have hleaf : Ends (Json.readLeaf c cursor) (Read.Is (.int n) rest) ↔
        Unsigned (c :: behind) n rest := by
      rw [Json.readLeaf_int_iff hc]
      by_cases hminus : c = '-'
      · subst hminus
        refine iff_of_false (fun h => ?_) fun h => ?_
        · exact absurd (Json.neg_of_readNumber h) (by omega)
        · obtain ⟨_, _, ⟨⟩, hdigit⟩ := h.exists_cons
          cases hdigit
      · rw [if_neg hminus, decide_eq_true hminus, Json.readNumber_int_iff, htext]
        constructor
        · rintro ⟨m, hm, hunsigned⟩
          cases Int.ofNat.inj hm
          exact hunsigned
        · exact fun hunsigned => ⟨n, rfl, hunsigned⟩
    rw [← hleaf, Json.ends_bind_iff]
    constructor
    · rintro ⟨⟨value, found⟩, hvalue, h⟩
      dsimp only at h
      split at h
      · obtain ⟨rfl, rfl⟩ := Json.ends_pure_iff.1 h
        exact ⟨_, hvalue, rfl, rfl⟩
      · exact absurd h Json.not_ends_fail
      · exact absurd h Json.not_ends_fail
    · rintro ⟨⟨_, found⟩, hvalue, rfl, rfl⟩
      exact ⟨_, hvalue, Json.ends_ok_iff.2 ⟨rfl, rfl⟩⟩
  · rw [if_neg hc]
    refine iff_of_false not_ends_refuse fun h => ?_
    obtain ⟨_, _, ⟨⟩, hdigit⟩ := h.exists_cons
    exact hc (.inr hdigit)

/-- A text is read exactly as it is written. -/
theorem readText_iff {value : String} :
    Ends (readText cursor) (Read.Is value rest) ↔
      ∃ begun, White cursor.rest begun ∧ Quoted begun value rest := by
  refine Json.toValue_iff (fun c cursor behind htext => ?_) nofun
  by_cases hc : c = '"'
  · subst hc
    rw [if_pos rfl, Json.readString_iff htext, htext]
  · rw [if_neg hc]
    refine iff_of_false not_ends_refuse ?_
    rintro ⟨-⟩
    exact hc rfl

/-- The end of an array is read exactly where it is. -/
theorem closeArray_iff :
    Ends (closeArray cursor) (Cursor.Leaves rest) ↔ White cursor.rest (']' :: rest) := by
  rw [← Json.skipSpace_rest_iff, closeArray]
  dsimp only
  generalize cursor.skipSpace = begun
  cases hbegun : begun.rest with
  | nil =>
    have hpeek : begun.peek? = none := by rw [Cursor.peek?, hbegun]; rfl
    rw [hpeek]
    exact iff_of_false Json.not_ends_failNext (by rintro ⟨⟩)
  | cons c behind =>
    have hpeek : begun.peek? = some c := by rw [Cursor.peek?, hbegun]; rfl
    rw [hpeek]
    split
    case h_1 hc =>
      cases hc
      simp [Cursor.Leaves, Cursor.skip_rest hbegun]
    case h_2 hc =>
      cases hc
      refine iff_of_false ?_ (by rintro ⟨⟩)
      split <;> exact Json.not_ends_failNext
    case h_3 hc _ heq =>
      cases heq
      refine iff_of_false Json.not_ends_failNext ?_
      rintro ⟨⟩
      exact hc rfl
    case h_4 hc => cases hc

/-! ## Collections -/

/-- Behind the opening bracket of a collection is less than there is before it. -/
theorem length_skip_lt (cursor : Cursor) : cursor.skip.rest.length < cursor.rest.length + 1 := by
  obtain ⟨_ | ⟨c, text⟩, place⟩ := cursor
  · exact Nat.lt_succ_self _
  · exact Nat.lt_succ_of_lt (Nat.lt_succ_self _)

/-- Where the next character is the closing bracket of a collection, the collection ends behind
it. -/
theorem ends_skip_iff {a b : α} {bracket : Char} {behind : List Char}
    (h : cursor.rest = bracket :: behind) :
    Ends (pure (a, cursor.skip)) (Read.Is b rest) ↔ cursor.rest = bracket :: rest ∧ a = b := by
  rw [Json.ends_pure_iff, Read.Is, Cursor.skip_rest h, h, List.cons_inj_right, and_comm]

/-- The elements of an array are read exactly as they are written, if each of them is. -/
theorem readItems_iff {read : Cursor → Except Fault (Read α)}
    {Element : List Char → α → List Char → Prop}
    (hread : ∀ {cursor a rest}, Ends (read cursor) (Read.Is a rest) ↔
      ∃ begun, White cursor.rest begun ∧ Element begun a rest)
    (hlength : ∀ {text a rest}, Element text a rest → rest.length < text.length)
    (hbracket : ∀ {text a rest}, ¬ Element (']' :: text) a rest)
    {fuel : Nat} {first : Bool} {items : List α} (hfuel : cursor.rest.length < fuel) :
    Ends (readItems read fuel first cursor) (Read.Is items rest) ↔
      Row ']' Element first cursor.rest items rest := by
  -- An element shortens what is left, so the fuel is enough for the others.
  induction fuel generalizing first cursor items rest with
  | zero => exact absurd hfuel (Nat.not_lt_zero _)
  | succ fuel ih =>
    rw [readItems, Json.ends_bind_of_read (fun _ _ => Json.nextItem_iff)
      (T := fun more left => if more = true then ∃ a behind,
          (∃ begun, White left begun ∧ Element begun a behind) ∧
            ∃ as, Row ']' Element false behind as rest ∧ a :: as = items
        else left = ']' :: rest ∧ [] = items)]
    · constructor
      · rintro ⟨_ | _, left, hway, h⟩
        · obtain ⟨rfl, rfl⟩ := h
          exact .close hway.1
        · obtain ⟨a, behind, ⟨begun, hwhite, helement⟩, as, hrow, rfl⟩ := h
          cases hwhite.unique hway.1.stopped
          exact .element hway.1 helement hrow
      · rintro (hclose | @⟨_, _, begun, _, _, _, _, hnext, helement, hrow⟩)
        · exact ⟨false, _, ⟨hclose, _, rfl⟩, rfl, rfl⟩
        · refine ⟨true, begun, ⟨hnext, ?_⟩, _, _, ⟨begun, hnext.stopped, helement⟩, _, hrow, rfl⟩
          cases begun with
          | nil => exact absurd (hlength helement) (Nat.not_lt_zero _)
          | cons c _ =>
            refine ⟨c, _, rfl, ?_⟩
            rintro rfl
            exact hbracket helement
    · rintro (_ | _) found hway
      · obtain ⟨-, behind, hbehind⟩ := hway
        exact ends_skip_iff hbehind
      · have hfound := hway.1.length_le
        refine Json.ends_bind_of_read (fun _ _ => hread) fun a behind => ?_
        rintro ⟨begun, hwhite, helement⟩
        have hbegun := hwhite.length_le
        have hbehind := hlength helement
        have hothers : ∀ as rest, Ends (readItems read fuel false behind) (Read.Is as rest) ↔
            Row ']' Element false behind.rest as rest := fun _ _ => ih (by omega)
        refine (Json.ends_bind_of_read hothers (T := fun as left => left = rest ∧ a :: as = items)
          fun as left _ => by exact Json.ends_ok_iff.trans and_comm).trans ?_
        constructor
        · rintro ⟨as, _, hrow, rfl, rfl⟩
          exact ⟨as, hrow, rfl⟩
        · rintro ⟨as, hrow, rfl⟩
          exact ⟨as, rest, hrow, rfl, rfl⟩

section
variable {field : String → ρ → Cursor → Except Fault (Read ρ)}
  {Value : String → List Char → α → List Char → Prop} (Adds : ρ → List α → ρ → Prop)

/-- The entries of an object are read exactly as they are written, into what they add to a record,
if each of them is. -/
theorem readEntries_iff
    (hfield : ∀ key old new (cursor : Cursor) rest,
      Ends (field key old cursor) (Read.Is new rest) ↔
        ∃ a value begun, White cursor.rest (':' :: value) ∧ White value begun ∧
          Value key begun a rest ∧ Adds old [a] new)
    (hlength : ∀ {key text a rest}, Value key text a rest → rest.length < text.length)
    (hnil : ∀ {old new}, Adds old [] new ↔ old = new)
    (hcons : ∀ {old a as new},
      Adds old (a :: as) new ↔ ∃ middle, Adds old [a] middle ∧ Adds middle as new)
    {fuel : Nat} {first : Bool} {old new : ρ} (hfuel : cursor.rest.length < fuel) :
    Ends (readEntries field fuel first cursor old) (Read.Is new rest) ↔
      ∃ entries, Row '\x7d' (Entry Value) first cursor.rest entries rest ∧
        Adds old entries new := by
  induction fuel generalizing first cursor old with
  | zero => exact absurd hfuel (Nat.not_lt_zero _)
  | succ fuel ih =>
    rw [readEntries, Json.ends_bind_of_read (fun _ _ => Json.nextKey_iff)
      (T := fun more left => if more = true then ∃ a behind, Entry Value left a behind ∧
          ∃ middle, Adds old [a] middle ∧
            ∃ as, Row '\x7d' (Entry Value) false behind as rest ∧ Adds middle as new
        else left = '\x7d' :: rest ∧ old = new)]
    · constructor
      · rintro ⟨_ | _, left, hway, h⟩
        · obtain ⟨rfl, hsame⟩ := h
          exact ⟨[], .close hway.1, hnil.2 hsame⟩
        · obtain ⟨a, behind, hentry, middle, hone, as, hrow, hothers⟩ := h
          exact ⟨a :: as, .element hway.1 hentry hrow, hcons.2 ⟨middle, hone, hothers⟩⟩
      · rintro ⟨_, hclose | ⟨hnext, hentry, hrow⟩, hadds⟩
        · exact ⟨false, _, ⟨hclose, _, rfl⟩, rfl, hnil.1 hadds⟩
        · obtain ⟨middle, hone, hothers⟩ := hcons.1 hadds
          refine ⟨true, _, ⟨hnext, ?_⟩, _, _, hentry, middle, hone, _, hrow, hothers⟩
          obtain ⟨⟨-⟩, -, -, -⟩ := hentry
          exact ⟨_, rfl⟩
    · rintro (_ | _) found hway
      · obtain ⟨-, behind, hbehind⟩ := hway
        exact ends_skip_iff hbehind
      · have hfound := hway.1.length_le
        obtain ⟨-, _, hquote⟩ := hway
        refine (Json.ends_bind_of_read (fun _ _ => Json.readString_iff hquote)
          (T := fun key colon => ∃ middle behind, (∃ a value begun, White colon (':' :: value) ∧
            White value begun ∧ Value key begun a behind ∧ Adds old [a] middle) ∧
              ∃ as, Row '\x7d' (Entry Value) false behind as rest ∧ Adds middle as new)
          fun key colon hkey => ?_).trans ?_
        · refine Json.ends_bind_of_read (fun _ _ => hfield ..) fun middle behind => ?_
          rintro ⟨a, value, begun, hcolon, hbegun, hvalue, -⟩
          have hkey := hkey.length_lt
          have hcolon := hcolon.length_le
          have hbegun := hbegun.length_le
          have hvalue := hlength hvalue
          rw [List.length_cons] at hcolon
          exact ih (by omega)
        · constructor
          · rintro ⟨key, colon, hkey, middle, behind,
              ⟨a, value, begun, hcolon, hbegun, hvalue, hone⟩, hothers⟩
            exact ⟨a, behind, .mk hkey hcolon hbegun hvalue, middle, hone, hothers⟩
          · rintro ⟨a, behind, ⟨hkey, hcolon, hbegun, hvalue⟩, middle, hone, hothers⟩
            exact ⟨_, _, hkey, middle, behind, ⟨a, _, _, hcolon, hbegun, hvalue, hone⟩, hothers⟩

end

/-! ## Fields -/

/-- What is said of a field that may be known already, at most once in all. -/
def Merges (old : Option α) (said : List α) (new : Option α) : Prop :=
  new.toList = old.toList ++ said

section
variable {old new : Option α} {a : α}

/-- A field of which nothing is said stays as it is. -/
theorem merges_nil : Merges old [] new ↔ old = new := by
  rw [Merges, List.append_nil]
  cases old <;> cases new <;> simp [eq_comm]

/-- A field of which something is said was not known before. -/
theorem merges_singleton : Merges old [a] new ↔ old = none ∧ new = some a := by
  rw [Merges]
  cases old <;> cases new <;> simp

/-- What is said of a field in two parts is said in one part after the other. -/
theorem merges_append {said others : List α} :
    Merges old (said ++ others) new ↔
      ∃ middle, Merges old said middle ∧ Merges middle others new := by
  simp only [Merges]
  constructor
  · intro h
    rw [← List.append_assoc] at h
    have hone : (old.toList ++ said).length ≤ 1 := by
      have hlength := congrArg List.length h
      have hnew := new.length_toList_le
      rw [List.length_append] at hlength
      omega
    obtain ⟨middle, hmiddle⟩ : ∃ middle : Option α, middle.toList = old.toList ++ said := by
      match old.toList ++ said, hone with
      | [], _ => exact ⟨none, rfl⟩
      | [b], _ => exact ⟨some b, rfl⟩
    exact ⟨middle, hmiddle, hmiddle ▸ h⟩
  · rintro ⟨middle, hsaid, hothers⟩
    rw [hothers, hsaid, List.append_assoc]

end

/-- What is said by several entries is said by the first one and by the others. -/
theorem filterMap_cons {β : Type} (f : α → Option β) (a : α) (as : List α) :
    (a :: as).filterMap f = [a].filterMap f ++ as.filterMap f :=
  List.filterMap_append (l := [a])

/-- A field is read exactly as its value is written, unless it is known already. -/
theorem readField_iff {read : Cursor → Except Fault (Read α)}
    {Element : List Char → α → List Char → Prop}
    (hread : ∀ {cursor a rest}, Ends (read cursor) (Read.Is a rest) ↔
      ∃ begun, White cursor.rest begun ∧ Element begun a rest)
    {name : String} {old new : Option α} :
    Ends (readField name old read cursor) (Read.Is new rest) ↔
      ∃ a value begun, White cursor.rest (':' :: value) ∧ White value begun ∧
        Element begun a rest ∧ Merges old [a] new := by
  simp only [merges_singleton]
  cases old with
  | some known =>
    refine iff_of_false Json.not_ends_fail ?_
    rintro ⟨_, _, _, -, -, -, ⟨⟩, -⟩
  | none =>
    refine (Json.ends_bind_of_cursor (fun _ => Json.readColon_iff)
      (T := fun value => ∃ a behind, (∃ begun, White value begun ∧ Element begun a behind) ∧
        behind = rest ∧ new = some a) fun value _ => ?_).trans ?_
    · exact Json.ends_bind_of_read (fun _ _ => hread) fun a behind _ => by
        rw [Json.ends_pure_iff, Read.Is, and_comm, eq_comm (a := some a)]
    · constructor
      · rintro ⟨value, hcolon, a, _, ⟨begun, hbegun, helement⟩, rfl, rfl⟩
        exact ⟨a, value, begun, hcolon, hbegun, helement, rfl, rfl⟩
      · rintro ⟨a, value, begun, hcolon, hbegun, helement, -, rfl⟩
        exact ⟨value, hcolon, a, rest, ⟨begun, hbegun, helement⟩, rfl, rfl⟩

/-- A field that nobody asks for is checked exactly as its value is written. -/
theorem ignoreField_iff {old new : ρ} :
    Ends (ignoreField old cursor) (Read.Is new rest) ↔
      ∃ value begun, White cursor.rest (':' :: value) ∧ White value begun ∧
        Skipped .whole begun rest ∧ old = new := by
  refine (Json.ends_bind_of_cursor (fun _ => Json.readColon_iff)
    (T := fun value => ∃ behind, (∃ begun, White value begun ∧ Skipped .whole begun behind) ∧
      behind = rest ∧ old = new) fun value _ => ?_).trans ?_
  · exact Json.ends_bind_of_cursor (fun _ => Json.ignore_iff) fun behind _ => by
      rw [Json.ends_pure_iff, Read.Is, and_comm]
  · constructor
    · rintro ⟨value, hcolon, _, ⟨begun, hbegun, hskipped⟩, rfl, rfl⟩
      exact ⟨value, begun, hcolon, hbegun, hskipped, rfl⟩
    · rintro ⟨value, begun, hcolon, hbegun, hskipped, rfl⟩
      exact ⟨value, hcolon, rest, ⟨begun, hbegun, hskipped⟩, rfl, rfl⟩

/-! ## Summaries -/

/-- What entries of a summary say, beside the fields that are known already. -/
structure Adds (old : SummaryFields) (entries : List SummaryEntry) (new : SummaryFields) :
    Prop where
  id : Merges old.id (entries.filterMap SummaryEntry.id?) new.id
  title : Merges old.title (entries.filterMap SummaryEntry.title?) new.title

/-- No entries say nothing. -/
theorem adds_nil {old new : SummaryFields} : Adds old [] new ↔ old = new := by
  constructor
  · intro h
    have hid := merges_nil.1 h.id
    have htitle := merges_nil.1 h.title
    cases old
    cases new
    cases hid
    cases htitle
    rfl
  · rintro rfl
    exact ⟨merges_nil.2 rfl, merges_nil.2 rfl⟩

/-- Entries say what the first one says, and then what the others say. -/
theorem adds_cons {old new : SummaryFields} {entry : SummaryEntry} {entries : List SummaryEntry} :
    Adds old (entry :: entries) new ↔
      ∃ middle, Adds old [entry] middle ∧ Adds middle entries new := by
  constructor
  · rintro ⟨hid, htitle⟩
    rw [filterMap_cons] at hid htitle
    obtain ⟨id, hid, hids⟩ := merges_append.1 hid
    obtain ⟨title, htitle, htitles⟩ := merges_append.1 htitle
    exact ⟨⟨id, title⟩, ⟨hid, htitle⟩, hids, htitles⟩
  · rintro ⟨middle, ⟨hid, htitle⟩, hids, htitles⟩
    refine ⟨?_, ?_⟩
    · rw [filterMap_cons]
      exact merges_append.2 ⟨middle.id, hid, hids⟩
    · rw [filterMap_cons]
      exact merges_append.2 ⟨middle.title, htitle, htitles⟩

/-- A field of a summary is read exactly as it is written. -/
theorem readSummaryField_iff {key : String} {old new : SummaryFields} :
    Ends (SummaryFields.readField key old cursor) (Read.Is new rest) ↔
      ∃ entry value begun, White cursor.rest (':' :: value) ∧ White value begun ∧
        SummaryEntry.Value key begun entry rest ∧ Adds old [entry] new := by
  rw [SummaryFields.readField]
  by_cases hid : key = "id"
  · rw [if_pos hid]
    refine (Json.ends_bind_of_read (fun _ _ => readField_iff readUnsigned_iff)
      (T := fun id left => { old with id } = new ∧ left = rest)
      fun _ _ _ => Json.ends_ok_iff).trans ?_
    constructor
    · rintro ⟨_, _, ⟨n, value, begun, hcolon, hbegun, hn, hmerges⟩, rfl, rfl⟩
      exact ⟨.id n, value, begun, hcolon, hbegun, .id hid hn, hmerges, merges_nil.2 rfl⟩
    · rintro ⟨_, value, begun, hcolon, hbegun, ⟨-, hn⟩ | ⟨htitle, -⟩ | ⟨hother, -⟩, hadds⟩
      · refine ⟨new.id, rest, ⟨_, value, begun, hcolon, hbegun, hn, hadds.id⟩, ?_, rfl⟩
        rw [merges_nil.1 hadds.title]
      · exact absurd (hid.symm.trans htitle) (by decide)
      · exact absurd hid hother
  rw [if_neg hid]
  by_cases htitle : key = "title"
  · rw [if_pos htitle]
    refine (Json.ends_bind_of_read (fun _ _ => readField_iff readText_iff)
      (T := fun title left => { old with title } = new ∧ left = rest)
      fun _ _ _ => Json.ends_ok_iff).trans ?_
    constructor
    · rintro ⟨_, _, ⟨text, value, begun, hcolon, hbegun, htext, hmerges⟩, rfl, rfl⟩
      exact ⟨.title text, value, begun, hcolon, hbegun, .title htitle htext, merges_nil.2 rfl,
        hmerges⟩
    · rintro ⟨_, value, begun, hcolon, hbegun, ⟨hnumber, -⟩ | ⟨-, htext⟩ | ⟨-, hother, -⟩, hadds⟩
      · exact absurd hnumber hid
      · refine ⟨new.title, rest, ⟨_, value, begun, hcolon, hbegun, htext, hadds.title⟩, ?_, rfl⟩
        rw [merges_nil.1 hadds.id]
      · exact absurd htitle hother
  rw [if_neg htitle, ignoreField_iff]
  constructor
  · rintro ⟨value, begun, hcolon, hbegun, hskipped, rfl⟩
    exact ⟨.other, value, begun, hcolon, hbegun, .other hid htitle hskipped, merges_nil.2 rfl,
      merges_nil.2 rfl⟩
  · rintro ⟨_, value, begun, hcolon, hbegun, ⟨hnumber, -⟩ | ⟨htext, -⟩ | ⟨-, -, hskipped⟩, hadds⟩
    · exact absurd hnumber hid
    · exact absurd htext htitle
    · exact ⟨value, begun, hcolon, hbegun, hskipped, adds_nil.1 ⟨hadds.id, hadds.title⟩⟩

/-- Behind the way to an element that has to be there comes a reader that is exact for it. -/
theorem ends_bind_nextItem_iff {γ : Type} {first : Bool} {f : Read Bool → Except Fault γ}
    {P : γ → Prop} {T : List Char → Prop} (hnone : ∀ {cursor}, ¬ Ends (f (false, cursor)) P)
    (hsome : ∀ {cursor : Cursor}, White cursor.rest cursor.rest →
      (Ends (f (true, cursor)) P ↔ T cursor.rest))
    (hT : ∀ {text}, T text → ∃ c behind, text = c :: behind ∧ c ≠ ']') :
    Ends (Json.nextItem first cursor >>= f) P ↔
      ∃ begun, Next first cursor.rest begun ∧ T begun := by
  refine (Json.ends_bind_of_read (fun _ _ => Json.nextItem_iff)
    (T := fun more begun => more = true ∧ T begun) ?_).trans ?_
  · rintro (_ | _) found hway
    · exact iff_of_false hnone fun h => Bool.false_ne_true h.1
    · exact (hsome hway.1.stopped).trans (and_iff_right rfl).symm
  · constructor
    · rintro ⟨_, begun, hway, rfl, hbegun⟩
      exact ⟨begun, hway.1, hbegun⟩
    · rintro ⟨begun, hnext, hbegun⟩
      exact ⟨true, begun, ⟨hnext, hT hbegun⟩, rfl, hbegun⟩

/-- The end of an array is read behind a value that is kept. -/
theorem ends_closeArray_iff {a b : α} :
    Ends (do return (a, ← closeArray cursor)) (Read.Is b rest) ↔
      White cursor.rest (']' :: rest) ∧ a = b := by
  refine (Json.ends_bind_of_cursor (fun _ => closeArray_iff) (T := fun left => a = b ∧ left = rest)
    fun _ _ => by exact Json.ends_ok_iff).trans ?_
  constructor
  · rintro ⟨_, hend, rfl, rfl⟩
    exact ⟨hend, rfl⟩
  · rintro ⟨hend, rfl⟩
    exact ⟨rest, hend, rfl, rfl⟩

/-- A summary that is an array is read exactly as it is written. -/
theorem readSummaryItems_iff {id : Nat} {title : String} :
    Ends (readSummaryItems cursor) (Read.Is ⟨id, title⟩ rest) ↔
      ∃ first, Next true cursor.rest first ∧ ∃ comma, Unsigned first id comma ∧
        ∃ second, Next false comma second ∧ ∃ behind, Quoted second title behind ∧
          White behind (']' :: rest) := by
  rw [readSummaryItems]
  refine ends_bind_nextItem_iff Json.not_ends_fail (fun hfirst => ?_) ?_
  · refine (Json.ends_bind_of_read (fun _ _ => readUnsigned_iff.trans hfirst.exists_iff)
      (T := fun n comma => ∃ second, Next false comma second ∧ ∃ behind,
        Quoted second title behind ∧ White behind (']' :: rest) ∧ n = id)
      fun n comma _ => ?_).trans ?_
    · refine ends_bind_nextItem_iff Json.not_ends_fail (fun hsecond => ?_) ?_
      · refine (Json.ends_bind_of_read (fun _ _ => readText_iff.trans hsecond.exists_iff)
          (T := fun text behind => White behind (']' :: rest) ∧ n = id ∧ text = title)
          fun text behind _ => ?_).trans ?_
        · exact ends_closeArray_iff.trans (and_congr_right fun _ => by rw [Summary.mk.injEq])
        · constructor
          · rintro ⟨_, behind, htitle, hend, hid, rfl⟩
            exact ⟨behind, htitle, hend, hid⟩
          · rintro ⟨behind, htitle, hend, hid⟩
            exact ⟨title, behind, htitle, hend, hid, rfl⟩
      · rintro _ ⟨_, ⟨-⟩, -⟩
        exact ⟨_, _, rfl, by decide⟩
    · constructor
      · rintro ⟨_, comma, hid, second, hsecond, behind, htitle, hend, rfl⟩
        exact ⟨comma, hid, second, hsecond, behind, htitle, hend⟩
      · rintro ⟨comma, hid, second, hsecond, behind, htitle, hend⟩
        exact ⟨id, comma, hid, second, hsecond, behind, htitle, hend, rfl⟩
  · rintro _ ⟨comma, hid, -⟩
    obtain ⟨c, behind, rfl, hc⟩ := hid.exists_cons
    refine ⟨c, behind, rfl, ?_⟩
    rintro rfl
    cases hc

/-- A summary is read exactly as it is written. -/
theorem readSummary_iff {summary : Summary} :
    Ends (readSummary cursor) (Read.Is summary rest) ↔
      ∃ begun, White cursor.rest begun ∧ summary.Spelled begun rest := by
  refine Json.toValue_iff (fun c cursor behind htext => ?_) nofun
  have hskip : cursor.skip.rest = behind := Cursor.skip_rest htext
  split
  · rw [readSummaryItems_iff, hskip]
    constructor
    · rintro ⟨first, hfirst, comma, hid, second, hsecond, behind, htitle, hend⟩
      exact .array hfirst hid hsecond htitle hend
    · rintro (_ | ⟨hfirst, hid, hsecond, htitle, hend⟩)
      exact ⟨_, hfirst, _, hid, _, hsecond, _, htitle, hend⟩
  · have hentries : ∀ new rest, Ends (readEntries SummaryFields.readField
        (cursor.rest.length + 1) true cursor.skip {}) (Read.Is new rest) ↔
          ∃ entries, Row '\x7d' (Entry SummaryEntry.Value) true behind entries rest ∧
            Adds {} entries new := fun new rest => by
      rw [← hskip]
      refine readEntries_iff Adds ?_ SummaryEntry.Value.length_lt adds_nil adds_cons
        (length_skip_lt cursor)
      exact fun _ _ _ _ _ => readSummaryField_iff
    refine (Json.ends_bind_of_read hentries (T := fun new left =>
      (new.id = some summary.id ∧ new.title = some summary.title) ∧ left = rest) ?_).trans ?_
    · rintro ⟨_ | id, _ | title⟩ found -
      · exact iff_of_false Json.not_ends_fail (by simp)
      · exact iff_of_false Json.not_ends_fail (by simp)
      · exact iff_of_false Json.not_ends_fail (by simp)
      · refine Json.ends_ok_iff.trans ?_
        constructor
        · rintro ⟨rfl, rfl⟩
          exact ⟨⟨rfl, rfl⟩, rfl⟩
        · rintro ⟨⟨⟨⟩, ⟨⟩⟩, rfl⟩
          exact ⟨rfl, rfl⟩
    · constructor
      · rintro ⟨⟨_, _⟩, _, ⟨entries, hrow, hid, htitle⟩, ⟨rfl, rfl⟩, rfl⟩
        exact .object hrow hid.symm htitle.symm
      · rintro (⟨hrow, hid, htitle⟩ | _)
        exact ⟨⟨some _, some _⟩, rest, ⟨_, hrow, hid.symm, htitle.symm⟩, ⟨rfl, rfl⟩, rfl⟩
  · next harray hobject =>
    refine iff_of_false not_ends_refuse ?_
    rintro (_ | _)
    · exact hobject rfl
    · exact harray rfl

/-! ## Listings -/

/-- An array of summaries is read exactly as it is written. -/
theorem readSummaries_iff {summaries : List Summary} :
    Ends (readSummaries cursor) (Read.Is summaries rest) ↔
      ∃ begun, White cursor.rest begun ∧ Summaries begun summaries rest := by
  refine Json.toValue_iff (fun c cursor behind htext => ?_) nofun
  by_cases hc : c = '['
  · subst hc
    have hskip : cursor.skip.rest = behind := Cursor.skip_rest htext
    rw [if_pos rfl, readItems_iff readSummary_iff Summary.Spelled.length_lt nofun
      (length_skip_lt cursor), hskip]
    constructor
    · exact .mk
    · rintro ⟨hrow⟩
      exact hrow
  · rw [if_neg hc]
    refine iff_of_false not_ends_refuse ?_
    rintro ⟨-⟩
    exact hc rfl

/-- A field of a listing is read exactly as it is written. -/
theorem readListingField_iff {key : String} {old new : Option (List Summary)} :
    Ends (readListingField key old cursor) (Read.Is new rest) ↔
      ∃ entry value begun, White cursor.rest (':' :: value) ∧ White value begun ∧
        Value key begun entry rest ∧ Merges old ([entry].filterMap id) new := by
  rw [readListingField]
  by_cases hdashboards : key = "dashboards"
  · rw [if_pos hdashboards, readField_iff readSummaries_iff]
    constructor
    · rintro ⟨summaries, value, begun, hcolon, hbegun, hsummaries, hmerges⟩
      exact ⟨some summaries, value, begun, hcolon, hbegun, .dashboards hdashboards hsummaries,
        hmerges⟩
    · rintro ⟨_, value, begun, hcolon, hbegun, ⟨-, hsummaries⟩ | ⟨hother, -⟩, hmerges⟩
      · exact ⟨_, value, begun, hcolon, hbegun, hsummaries, hmerges⟩
      · exact absurd hdashboards hother
  · rw [if_neg hdashboards, ignoreField_iff]
    constructor
    · rintro ⟨value, begun, hcolon, hbegun, hskipped, rfl⟩
      exact ⟨none, value, begun, hcolon, hbegun, .other hdashboards hskipped, merges_nil.2 rfl⟩
    · rintro ⟨_, value, begun, hcolon, hbegun, ⟨hkey, -⟩ | ⟨-, hskipped⟩, hmerges⟩
      · exact absurd hkey hdashboards
      · exact ⟨value, begun, hcolon, hbegun, hskipped, merges_nil.1 hmerges⟩

/-- The value of an entry of a listing is not empty. -/
theorem Value.length_lt {key : String} {entry : Option (List Summary)}
    (h : Value key text entry rest) : rest.length < text.length := by
  cases h with
  | dashboards _ h =>
    obtain ⟨hrow⟩ := h
    exact Nat.lt_succ_of_lt (hrow.length_lt Summary.Spelled.length_lt)
  | other _ h => exact h.length_lt

/-- A listing that is an array is read exactly as it is written. -/
theorem readListingItems_iff {summaries : List Summary} :
    Ends (readListingItems cursor) (Read.Is summaries rest) ↔
      (∃ begun, Next true cursor.rest begun ∧ ∃ behind, Summaries begun summaries behind ∧
        White behind (']' :: rest)) ∨ White cursor.rest (']' :: rest) ∧ [] = summaries := by
  rw [readListingItems]
  refine (Json.ends_bind_of_read (fun _ _ => Json.nextItem_iff)
    (T := fun more left => if more = true then ∃ behind, Summaries left summaries behind ∧
        White behind (']' :: rest)
      else left = ']' :: rest ∧ [] = summaries) ?_).trans ?_
  · rintro (_ | _) found hway
    · obtain ⟨-, behind, hbehind⟩ := hway
      exact ends_skip_iff hbehind
    · refine (Json.ends_bind_of_read
        (fun _ _ => readSummaries_iff.trans hway.1.stopped.exists_iff)
        (T := fun found behind => White behind (']' :: rest) ∧ found = summaries)
        fun _ _ _ => by exact ends_closeArray_iff).trans ?_
      constructor
      · rintro ⟨_, behind, hsummaries, hend, rfl⟩
        exact ⟨behind, hsummaries, hend⟩
      · rintro ⟨behind, hsummaries, hend⟩
        exact ⟨summaries, behind, hsummaries, hend, rfl⟩
  · constructor
    · rintro ⟨_ | _, left, hway, h⟩
      · obtain ⟨rfl, hnone⟩ := h
        exact .inr ⟨hway.1, hnone⟩
      · obtain ⟨behind, hsummaries, hend⟩ := h
        exact .inl ⟨left, hway.1, behind, hsummaries, hend⟩
    · rintro (⟨_, hnext, behind, ⟨hrow⟩, hend⟩ | ⟨hend, rfl⟩)
      · exact ⟨true, _, ⟨hnext, _, _, rfl, by decide⟩, behind, ⟨hrow⟩, hend⟩
      · exact ⟨false, _, ⟨hend, _, rfl⟩, rfl, rfl⟩

/-- A listing is read exactly as it is written. -/
theorem read_iff {summaries : List Summary} :
    Ends (read cursor) (Read.Is summaries rest) ↔
      ∃ begun, White cursor.rest begun ∧ Spelled begun summaries rest := by
  refine Json.toValue_iff (fun c cursor behind htext => ?_) nofun
  have hskip : cursor.skip.rest = behind := Cursor.skip_rest htext
  split
  · rw [readListingItems_iff, hskip]
    constructor
    · rintro (⟨begun, hbegun, behind, hsummaries, hend⟩ | ⟨hend, rfl⟩)
      · exact .array hbegun hsummaries hend
      · exact .empty hend
    · rintro (_ | ⟨hbegun, hsummaries, hend⟩ | hend)
      · exact .inl ⟨_, hbegun, _, hsummaries, hend⟩
      · exact .inr ⟨hend, rfl⟩
  · have hentries : ∀ new rest, Ends (readEntries readListingField (cursor.rest.length + 1) true
        cursor.skip none) (Read.Is new rest) ↔
          ∃ entries, Row '\x7d' (Entry Value) true behind entries rest ∧
            Merges none (entries.filterMap id) new := fun new rest => by
      rw [← hskip]
      refine readEntries_iff (fun old entries new => Merges old (entries.filterMap id) new) ?_
        Value.length_lt merges_nil ?_ (length_skip_lt cursor)
      · exact fun _ _ _ _ _ => readListingField_iff
      · intro old entry entries new
        rw [filterMap_cons, merges_append]
    refine (Json.ends_bind_of_read hentries (T := fun new left => new.getD [] = summaries ∧
      left = rest) fun _ _ _ => Json.ends_ok_iff).trans ?_
    constructor
    · rintro ⟨new, _, ⟨entries, hrow, hmerges⟩, rfl, rfl⟩
      exact .object hrow hmerges.symm
    · rintro (⟨hrow, hentries⟩ | _ | _)
      exact ⟨_, rest, ⟨_, hrow, hentries.symm⟩, rfl, rfl⟩
  · next harray hobject =>
    refine iff_of_false not_ends_refuse ?_
    rintro (_ | _ | _)
    · exact hobject rfl
    · exact harray rfl
    · exact harray rfl

/-- A text is over exactly where only white space is left. -/
theorem finish_eq_ok_iff {a b : α} :
    Json.finish (a, cursor) = .ok b ↔ White cursor.rest [] ∧ a = b := by
  rw [← Json.skipSpace_rest_iff, Json.finish]
  dsimp only
  split
  · next hend => simp [List.isEmpty_iff.1 hend]
  · next hend =>
    refine iff_of_false nofun fun h => hend ?_
    rw [h.1]
    rfl

/-- A text is read exactly as the summaries that are written in it. -/
theorem ofText_eq_ok_iff {text : String} {summaries : List Summary} :
    ofText text = .ok summaries ↔ Written text summaries := by
  rw [ofText, bind_eq_ok_iff]
  constructor
  · rintro ⟨⟨found, cursor⟩, hread, hfinish⟩
    obtain ⟨hend, rfl⟩ := finish_eq_ok_iff.1 hfinish
    obtain ⟨begun, hbegun, hspelled⟩ := read_iff.1 ⟨_, hread, rfl, rfl⟩
    exact ⟨begun, cursor.rest, hbegun, hspelled, hend⟩
  · rintro ⟨begun, behind, hbegun, hspelled, hend⟩
    have hread : Ends (read ⟨text.toList, {}⟩) (Read.Is summaries behind) :=
      read_iff.2 ⟨begun, hbegun, hspelled⟩
    obtain ⟨⟨found, cursor⟩, hread, rfl, rfl⟩ := hread
    exact ⟨_, hread, finish_eq_ok_iff.2 ⟨hend, rfl⟩⟩

/-- A text is a listing of nothing but the summaries that are written in it. -/
theorem Written.unique {text : String} {summaries others : List Summary}
    (h : Written text summaries) (hothers : Written text others) : summaries = others :=
  Except.ok.inj ((ofText_eq_ok_iff.2 h).symm.trans (ofText_eq_ok_iff.2 hothers))

end Listing

end Dashboards.Api
