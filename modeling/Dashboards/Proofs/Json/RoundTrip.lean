import Dashboards.Proofs.Json.Scalars
import Mathlib.Data.List.Forall2

/-!
# Values that are written are read

A value without floating-point numbers whose objects do not repeat a key (`IsPlain`) is read from
its text, whether it is compact or pretty (`ofText_compact`, `ofText_pretty`). A text spells a value
if it is read as that value wherever it stands, with white space before it (`Spells`). The two
writers differ in the white space inside brackets only, so they share the lemmas on lists of
elements (`reads_row`) and of entries (`reads_entryRow`).
-/

namespace Dashboards.Json

open Cursor (IsWhite isSpace)

/-- A value in which collections are nested at most a number of times, all numbers are natural
numbers of 64 bits, and no object repeats a key. -/
inductive IsPlain : (levels : Nat) → Json → Prop
  | null {levels : Nat} : IsPlain levels .null
  | bool {levels : Nat} {value : Bool} : IsPlain levels (.bool value)
  | nat {levels n : Nat} : n < UInt64.size → IsPlain levels (.nat n)
  | string {levels : Nat} {text : String} : IsPlain levels (.string text)
  | array {levels : Nat} {items : List Json} : (∀ item ∈ items, IsPlain levels item) →
      IsPlain (levels + 1) (.array items)
  | object {levels : Nat} {entries : List (String × Json)} : (entries.map Prod.fst).Nodup →
      (∀ entry ∈ entries, IsPlain levels entry.2) → IsPlain (levels + 1) (.object entries)

/-- A text spells a value: a reader that may go so many levels deep reads it as that value, also
with white space before it, unless what follows could belong to a number. -/
structure Spells (levels : Nat) (text : List Char) (value : Json) : Prop where
  begins : ∃ c rest, text = c :: rest ∧ isSpace c = false ∧ c ≠ ']'
  reads : ∀ {fuel depth : Nat} {white tail : List Char}, text.length < fuel → levels < depth →
    IsWhite white → EndsNumber tail → Reads (readValue fuel depth) (white ++ text) value tail

variable {levels fuel depth : Nat} {inner outer tail text : List Char} {value : Json}

/-- A value is read where its text begins. -/
theorem Spells.reads_here (h : Spells levels text value) (hfuel : text.length < fuel)
    (hdepth : levels < depth) (htail : EndsNumber tail) :
    Reads (readValue fuel depth) text value tail :=
  h.reads hfuel hdepth Cursor.isWhite_nil htail

/-! ## Values that are no collections -/

/-- Behind white space the next value begins. -/
theorem toValue_eq {α : Type} {white rest : List Char} {c : Char} {cursor : Cursor}
    (hcursor : cursor.rest = white ++ c :: rest) (hwhite : IsWhite white) (hc : isSpace c = false)
    (read : Char → Cursor → Except Fault (Read α)) :
    ∃ behind : Cursor, behind.rest = c :: rest ∧ toValue cursor read = read c behind := by
  have hbehind := Cursor.skipSpace_rest hcursor hwhite hc
  refine ⟨cursor.skipSpace, hbehind, ?_⟩
  simp only [toValue, Cursor.peek?, hbehind, List.head?_cons]

/-- A text that is read as a value that is no collection spells it. -/
theorem spells_of_readLeaf {c : Char} {rest : List Char}
    (hc : isSpace c = false ∧ c ≠ '[' ∧ c ≠ '\x7b' ∧ c ≠ ']')
    (h : ∀ tail, EndsNumber tail → Reads (readLeaf c) (c :: rest) value tail) :
    Spells levels (c :: rest) value where
  begins := ⟨c, rest, rfl, hc.1, hc.2.2.2⟩
  reads {fuel depth white tail} hfuel hdepth hwhite htail cursor hcursor := by
    obtain ⟨fuel, rfl⟩ := exists_fuel hfuel
    obtain ⟨begun, hbegun, hvalue⟩ := toValue_eq (by simpa using hcursor) hwhite hc.1 _
    obtain ⟨behind, hread, hbehind⟩ := h tail htail begun hbegun
    refine ⟨behind, ?_, hbehind⟩
    rw [readValue, hvalue]
    split
    · exact absurd rfl hc.2.1
    · exact absurd rfl hc.2.2.1
    · exact hread

/-- A word is read letter by letter. -/
theorem readWord_eq {word : List Char} {cursor : Cursor} (h : cursor.rest = word ++ tail) :
    ∃ behind : Cursor, readWord word cursor = .ok behind ∧ behind.rest = tail := by
  induction word generalizing cursor with
  | nil => exact ⟨cursor, rfl, h⟩
  | cons c word ih =>
    obtain ⟨behind, hread, hbehind⟩ := ih (Cursor.skip_rest h)
    refine ⟨behind, ?_, hbehind⟩
    simpa [readWord, h] using hread

/-- A value that is read as a word is spelled by it. -/
theorem spells_word {c : Char} {word : List Char}
    (hc : isSpace c = false ∧ c ≠ '[' ∧ c ≠ '\x7b' ∧ c ≠ ']')
    (h : ∀ cursor, readLeaf c cursor = do return (value, ← readWord word cursor.skip)) :
    Spells levels (c :: word) value := by
  refine spells_of_readLeaf hc fun tail _ cursor hcursor => ?_
  obtain ⟨behind, hread, hbehind⟩ := readWord_eq (Cursor.skip_rest hcursor)
  refine ⟨behind, ?_, hbehind⟩
  rw [h, hread]
  rfl

/-- A natural number of 64 bits is spelled by its digits. -/
theorem spells_nat {n : Nat} (hn : n < UInt64.size) : Spells levels (leaf (.nat n)) (.nat n) := by
  have hdigits : leaf (.nat n) = Nat.toDigits 10 n := by
    change (toString n).toList = _
    rw [Nat.toString_eq_ofList_toDigits, String.toList_ofList]
  obtain ⟨c, rest, hcs⟩ := List.exists_cons_of_ne_nil (Nat.toDigits_ne_nil (n := n) (b := 10))
  have hc : c.isDigit = true :=
    Nat.isDigit_of_mem_toDigits (by decide) (by decide) (hcs ▸ List.mem_cons_self ..)
  have hother : ∀ d : Char, d.isDigit = false → c ≠ d := by
    rintro d hd rfl
    rw [hd] at hc
    cases hc
  rw [hdigits, hcs]
  refine spells_of_readLeaf ⟨?_, hother '[' (by decide), hother '\x7b' (by decide),
    hother ']' (by decide)⟩ fun tail htail cursor hcursor => ?_
  · simp [isSpace, hother ' ' (by decide), hother '\n' (by decide), hother '\t' (by decide),
      hother '\r' (by decide)]
  · obtain ⟨behind, hread, hbehind⟩ := reads_digits hn htail cursor (by rwa [hcs])
    refine ⟨behind, ?_, hbehind⟩
    have hminus : c ≠ '-' := hother '-' (by decide)
    rw [readLeaf]
    · rw [if_pos (.inr hc), if_neg hminus, decide_eq_true hminus, hread]
      rfl
    · exact hother 'n' (by decide)
    · exact hother 't' (by decide)
    · exact hother 'f' (by decide)
    · exact hother '"' (by decide)

/-- A string is spelled by itself in quotes. -/
theorem spells_string (string : String) :
    Spells levels (leaf (.string string)) (.string string) := by
  refine spells_of_readLeaf (by decide) fun tail _ cursor hcursor => ?_
  obtain ⟨behind, hread, hbehind⟩ := reads_string string cursor hcursor
  refine ⟨behind, ?_, hbehind⟩
  simp only [readLeaf, hread]
  rfl

/-! ## Rows -/

/-- Texts in a row with commas between them, each behind white space. -/
def row (inner : List Char) : (first : Bool) → List (List Char) → List Char
  | _, [] => []
  | first, text :: texts =>
    (if first then inner else ',' :: inner) ++ text ++ row inner false texts

/-- What follows an element of a row does not belong to a number. -/
theorem endsNumber_row {close : Char} (hclose : close = ']' ∨ close = '\x7d')
    (houter : IsWhite outer) (texts : List (List Char)) :
    EndsNumber (row inner false texts ++ (outer ++ [close]) ++ tail) := by
  cases texts with
  | cons text texts =>
    rintro c ⟨⟩
    decide
  | nil =>
    cases outer with
    | nil =>
      rintro c ⟨⟩
      rcases hclose with rfl | rfl <;> decide
    | cons c outer =>
      have hc : isSpace c = true := houter c (List.mem_cons_self ..)
      simp only [isSpace, Bool.or_eq_true, beq_iff_eq] at hc
      rintro _ ⟨⟩
      rcases hc with ((rfl | rfl) | rfl) | rfl <;> decide

/-- White space, behind a comma unless it is the first, leads to the next element. -/
theorem reads_nextItem {first : Bool} {c : Char} {rest : List Char} (hinner : IsWhite inner)
    (hc : isSpace c = false) (hclose : c ≠ ']') :
    Reads (nextItem first) (if first then inner else ',' :: inner) true (c :: rest) := by
  intro cursor hcursor
  cases first with
  | true =>
    have hbehind := Cursor.skipSpace_rest hcursor hinner hc
    refine ⟨cursor.skipSpace, ?_, hbehind⟩
    simp only [nextItem, Cursor.peek?, hbehind, List.head?_cons, if_true]
  | false =>
    have hcomma := Cursor.skipSpace_rest_of_cons hcursor rfl
    have hbehind := Cursor.skipSpace_rest (Cursor.skip_rest hcomma) hinner hc
    refine ⟨cursor.skipSpace.skip.skipSpace, ?_, hbehind⟩
    simp only [nextItem, Cursor.peek?, hcomma, hbehind, List.head?_cons, Bool.false_eq_true,
      if_false]
    rfl

/-- White space in front of the closing bracket leads to no element. -/
theorem reads_nextItem_end {first : Bool} (houter : IsWhite outer) :
    Reads (nextItem first) outer false (']' :: tail) := by
  intro cursor hcursor
  have hbehind := Cursor.skipSpace_rest hcursor houter (by decide)
  refine ⟨cursor.skipSpace, ?_, hbehind⟩
  simp only [nextItem, Cursor.peek?, hbehind, List.head?_cons]

/-- White space, behind a comma unless it is the first, leads to the next key. -/
theorem reads_nextKey {first : Bool} {rest : List Char} (hinner : IsWhite inner) :
    Reads (nextKey first) (if first then inner else ',' :: inner) true ('"' :: rest) := by
  intro cursor hcursor
  cases first with
  | true =>
    have hbehind := Cursor.skipSpace_rest hcursor hinner (by decide)
    refine ⟨cursor.skipSpace, ?_, hbehind⟩
    simp only [nextKey, Cursor.peek?, hbehind, List.head?_cons]
    rfl
  | false =>
    have hcomma := Cursor.skipSpace_rest_of_cons hcursor rfl
    have hbehind := Cursor.skipSpace_rest (Cursor.skip_rest hcomma) hinner (by decide)
    refine ⟨cursor.skipSpace.skip.skipSpace, ?_, hbehind⟩
    simp only [nextKey, Cursor.peek?, hcomma, hbehind, List.head?_cons, Bool.false_eq_true,
      if_false]
    rfl

/-- White space in front of the closing brace leads to no key. -/
theorem reads_nextKey_end {first : Bool} (houter : IsWhite outer) :
    Reads (nextKey first) outer false ('\x7d' :: tail) := by
  intro cursor hcursor
  have hbehind := Cursor.skipSpace_rest hcursor houter (by decide)
  refine ⟨cursor.skipSpace, ?_, hbehind⟩
  simp only [nextKey, Cursor.peek?, hbehind, List.head?_cons]

/-- Elements are read from the row of what spells them, up to the closing bracket. -/
theorem reads_row {texts : List (List Char)} {items : List Json} (hinner : IsWhite inner)
    (houter : IsWhite outer) (hdepth : levels < depth)
    (h : List.Forall₂ (Spells levels) texts items) {first : Bool}
    (hfuel : (row inner first texts).length + 1 < fuel) :
    Reads (readItems fuel depth first) (row inner first texts ++ (outer ++ [']'])) items tail := by
  induction h generalizing fuel first with
  | nil =>
    obtain ⟨fuel, rfl⟩ := exists_fuel hfuel
    rw [row, List.nil_append]
    refine .bind (reads_nextItem_end houter) ?_
    exact Cursor.reads_skip []
  | @cons text item texts items hitem _ ih =>
    obtain ⟨fuel, rfl⟩ := exists_fuel hfuel
    obtain ⟨c, rest, rfl, hc, hclose⟩ := hitem.begins
    -- An element has a character at least, so one less is enough for it and for the others.
    simp only [row, List.length_append, List.length_cons] at hfuel
    have hvalue : Reads (readValue fuel depth) (c :: rest) item
        (row inner false texts ++ (outer ++ [']']) ++ tail) :=
      hitem.reads_here (by rw [List.length_cons]; omega) hdepth
        (endsNumber_row (.inl rfl) houter texts)
    rw [row, List.append_assoc, List.append_assoc]
    refine .bind (reads_nextItem hinner hc hclose) ?_
    refine .bind hvalue ?_
    exact .map (item :: ·) (ih (by omega))

/-- A text spells an entry of an object: its key in quotes, and behind a colon, and perhaps white
space, its value. -/
def SpellsEntry (levels : Nat) (text : List Char) (entry : String × Json) : Prop :=
  ∃ gap spelled, IsWhite gap ∧ text = quoted entry.1 ++ ':' :: (gap ++ spelled) ∧
    Spells levels spelled entry.2

/-- A new key is put behind the others. -/
theorem putEntry_of_not_mem {key : String} (value : Json) {entries : List (String × Json)}
    (h : key ∉ entries.map Prod.fst) : putEntry key value entries = entries ++ [(key, value)] := by
  induction entries with
  | nil => rfl
  | cons entry entries ih =>
    rw [List.map_cons, List.mem_cons, not_or] at h
    rw [putEntry, if_neg (Ne.symm h.1), ih h.2, List.cons_append]

/-- A colon is read. -/
theorem reads_colon {β : Type} {next : Cursor → Except Fault (Read β)} {b : β}
    (h : Reads next text b tail) :
    Reads (fun cursor => readColon cursor >>= next) (':' :: text) b tail := by
  intro cursor hcursor
  have hcolon := Cursor.skipSpace_rest_of_cons hcursor rfl
  obtain ⟨behind, hnext, hbehind⟩ := h cursor.skipSpace.skip (Cursor.skip_rest hcolon)
  refine ⟨behind, ?_, hbehind⟩
  simp only [readColon, Cursor.peek?, hcolon, List.head?_cons]
  exact hnext

/-- Entries of different keys are read from the row of what spells them, up to the closing brace,
and are put behind those that are there. -/
theorem reads_entryRow {texts : List (List Char)} {before entries : List (String × Json)}
    (hinner : IsWhite inner) (houter : IsWhite outer) (hdepth : levels < depth)
    (h : List.Forall₂ (SpellsEntry levels) texts entries) {first : Bool}
    (hfuel : (row inner first texts).length + 1 < fuel)
    (hkeys : ((before ++ entries).map Prod.fst).Nodup) :
    Reads (readEntries fuel depth first · before) (row inner first texts ++ (outer ++ ['\x7d']))
      (before ++ entries) tail := by
  induction h generalizing fuel first before with
  | nil =>
    obtain ⟨fuel, rfl⟩ := exists_fuel hfuel
    rw [row, List.nil_append, List.append_nil]
    refine .bind (reads_nextKey_end houter) ?_
    exact Cursor.reads_skip before
  | @cons text entry texts entries hentry _ ih =>
    obtain ⟨fuel, rfl⟩ := exists_fuel hfuel
    obtain ⟨gap, spelled, hgap, rfl, hspells⟩ := hentry
    obtain ⟨key, value⟩ := entry
    have hnew : key ∉ before.map Prod.fst := by
      rw [List.map_append, List.nodup_append] at hkeys
      exact fun hmem => hkeys.2.2 key hmem key (by simp) rfl
    simp only [row, List.length_append, List.length_cons] at hfuel
    have hvalue : Reads (readValue fuel depth) (gap ++ spelled) value
        (row inner false texts ++ (outer ++ ['\x7d']) ++ tail) :=
      hspells.reads (by omega) hdepth hgap (endsNumber_row (.inr rfl) houter texts)
    have hothers : Reads (readEntries fuel depth false · (before ++ [(key, value)]))
        (row inner false texts ++ (outer ++ ['\x7d'])) ((before ++ [(key, value)]) ++ entries)
        tail :=
      ih (by omega) (by simpa using hkeys)
    -- The key is new, so its entry goes behind those before it.
    have hbehind : before ++ (key, value) :: entries = putEntry key value before ++ entries := by
      rw [putEntry_of_not_mem value hnew, List.append_assoc, List.singleton_append]
    rw [← putEntry_of_not_mem value hnew] at hothers
    rw [hbehind, row, List.append_assoc, List.append_assoc, List.append_assoc]
    refine .bind (reads_nextKey hinner) ?_
    refine .bind (reads_string key) ?_
    refine reads_colon ?_
    refine .bind hvalue ?_
    exact hothers

/-! ## Collections -/

/-- A collection is entered if that is not too deep. -/
theorem reads_enter {α : Type} {read : Nat → Cursor → Except Fault (Read α)} {c : Char} {a : α}
    (hdepth : levels + 1 < depth) (h : ∀ depth, levels < depth → Reads (read depth) text a tail) :
    Reads (fun cursor => enter depth cursor read) (c :: text) a tail := by
  intro cursor hcursor
  obtain ⟨depth, rfl⟩ : ∃ less, depth = less + 2 := ⟨depth - 2, by omega⟩
  exact h (depth + 1) (by omega) cursor.skip (Cursor.skip_rest hcursor)

/-- Brackets around a row of what spells elements spell their array. -/
theorem spells_array {texts : List (List Char)} {items : List Json} (hinner : IsWhite inner)
    (houter : IsWhite outer) (h : List.Forall₂ (Spells levels) texts items) :
    Spells (levels + 1) ('[' :: (row inner true texts ++ (outer ++ [']']))) (.array items) where
  begins := ⟨'[', _, rfl, rfl, by decide⟩
  reads {fuel depth white tail} hfuel hdepth hwhite _ cursor hcursor := by
    obtain ⟨fuel, rfl⟩ := exists_fuel hfuel
    simp only [List.length_cons, List.length_append] at hfuel
    rw [List.append_assoc] at hcursor
    obtain ⟨begun, hbegun, hvalue⟩ := toValue_eq hcursor hwhite rfl _
    rw [readValue, hvalue]
    refine reads_enter hdepth (fun depth hdepth => ?_) begun hbegun
    have hitems : Reads (readItems fuel depth true) (row inner true texts ++ (outer ++ [']'])) items
        tail :=
      reads_row hinner houter hdepth h (by omega)
    exact .map Json.array hitems

/-- Braces around a row of what spells entries spell their object, if no key is repeated. -/
theorem spells_object {texts : List (List Char)} {entries : List (String × Json)}
    (hinner : IsWhite inner) (houter : IsWhite outer)
    (h : List.Forall₂ (SpellsEntry levels) texts entries)
    (hkeys : (entries.map Prod.fst).Nodup) :
    Spells (levels + 1) ('\x7b' :: (row inner true texts ++ (outer ++ ['\x7d'])))
      (.object entries) where
  begins := ⟨'\x7b', _, rfl, rfl, by decide⟩
  reads {fuel depth white tail} hfuel hdepth hwhite _ cursor hcursor := by
    obtain ⟨fuel, rfl⟩ := exists_fuel hfuel
    simp only [List.length_cons, List.length_append] at hfuel
    rw [List.append_assoc] at hcursor
    obtain ⟨begun, hbegun, hvalue⟩ := toValue_eq hcursor hwhite rfl _
    rw [readValue, hvalue]
    refine reads_enter hdepth (fun depth hdepth => ?_) begun hbegun
    have hentries : Reads (readEntries fuel depth true · [])
        (row inner true texts ++ (outer ++ ['\x7d'])) ([] ++ entries) tail :=
      reads_entryRow hinner houter hdepth h (by omega) hkeys
    exact .map Json.object hentries

/-! ## Writers -/

/-- Texts with commas and white space between them are the first one and a row of the others. -/
theorem intercalate_cons_eq (text : List Char) (texts : List (List Char)) :
    (',' :: inner).intercalate (text :: texts) = text ++ row inner false texts := by
  induction texts generalizing text with
  | nil => rw [List.intercalate_singleton, row, List.append_nil]
  | cons next texts ih =>
    rw [List.intercalate_cons_cons, ih, row, if_neg Bool.false_ne_true, List.append_assoc,
      List.append_assoc]

/-- Texts with commas between them are a row. -/
theorem intercalate_eq_row (texts : List (List Char)) :
    [','].intercalate texts = row [] true texts := by
  cases texts with
  | nil => rfl
  | cons text texts => exact intercalate_cons_eq text texts

/-- A new line is white space. -/
theorem isWhite_newLine (level : Nat) : IsWhite (newLine level) := by
  rintro c hc
  rcases List.mem_cons.1 hc with rfl | hc
  · decide
  · rw [List.eq_of_mem_replicate hc]
    decide

/-- Brackets around texts on lines of their own are brackets around a row. -/
theorem bracketed_eq_row (left right : Char) (level : Nat) (texts : List (List Char)) :
    ∃ inner outer, IsWhite inner ∧ IsWhite outer ∧
      bracketed left right level texts = left :: (row inner true texts ++ (outer ++ [right])) := by
  cases texts with
  | nil => exact ⟨[], [], Cursor.isWhite_nil, Cursor.isWhite_nil, rfl⟩
  | cons text texts =>
    refine ⟨newLine (level + 1), newLine level, isWhite_newLine _, isWhite_newLine _, ?_⟩
    rw [bracketed, List.isEmpty_cons, if_neg Bool.false_ne_true, intercalate_cons_eq, row,
      if_pos rfl]
    simp only [List.append_assoc]

/-- The compact texts of elements are those of each. -/
theorem compactItems_eq_map (items : List Json) : compactItems items = items.map compactChars := by
  induction items with
  | nil => rfl
  | cons item items ih => rw [compactItems, ih, List.map_cons]

/-- The compact texts of entries are those of each. -/
theorem compactEntries_eq_map (entries : List (String × Json)) :
    compactEntries entries =
      entries.map fun entry => quoted entry.1 ++ ':' :: compactChars entry.2 := by
  induction entries with
  | nil => rfl
  | cons entry entries ih => rw [compactEntries, ih, List.map_cons]

/-- The pretty texts of elements are those of each. -/
theorem prettyItems_eq_map (level : Nat) (items : List Json) :
    prettyItems level items = items.map (prettyChars level) := by
  induction items with
  | nil => rfl
  | cons item items ih => rw [prettyItems, ih, List.map_cons]

/-- The pretty texts of entries are those of each. -/
theorem prettyEntries_eq_map (level : Nat) (entries : List (String × Json)) :
    prettyEntries level entries =
      entries.map fun entry => quoted entry.1 ++ ':' :: ' ' :: prettyChars level entry.2 := by
  induction entries with
  | nil => rfl
  | cons entry entries ih => rw [prettyEntries, ih, List.map_cons]

/-- A plain value is spelled by its compact text. -/
theorem spells_compactChars (h : IsPlain levels value) :
    Spells levels (compactChars value) value := by
  induction h with
  | null => exact spells_word (by decide) fun _ => rfl
  | @bool _ b => cases b <;> exact spells_word (by decide) fun _ => rfl
  | nat hn => exact spells_nat hn
  | string => exact spells_string _
  | @array levels items _ ih =>
    rw [compactChars, intercalate_eq_row, compactItems_eq_map]
    refine spells_array Cursor.isWhite_nil Cursor.isWhite_nil ?_
    exact List.forall₂_map_left_iff.2 (List.forall₂_same.2 ih)
  | @object levels entries hkeys _ ih =>
    rw [compactChars, intercalate_eq_row, compactEntries_eq_map]
    refine spells_object Cursor.isWhite_nil Cursor.isWhite_nil ?_ hkeys
    refine List.forall₂_map_left_iff.2 (List.forall₂_same.2 fun entry hentry => ?_)
    exact ⟨[], _, Cursor.isWhite_nil, rfl, ih entry hentry⟩

/-- A plain value is spelled by its pretty text at any level. -/
theorem spells_prettyChars (h : IsPlain levels value) (level : Nat) :
    Spells levels (prettyChars level value) value := by
  induction h generalizing level with
  | null => exact spells_word (by decide) fun _ => rfl
  | @bool _ b => cases b <;> exact spells_word (by decide) fun _ => rfl
  | nat hn => exact spells_nat hn
  | string => exact spells_string _
  | @array levels items _ ih =>
    obtain ⟨inner, outer, hinner, houter, hrow⟩ :=
      bracketed_eq_row '[' ']' level (prettyItems (level + 1) items)
    rw [prettyChars, hrow, prettyItems_eq_map]
    refine spells_array hinner houter ?_
    exact List.forall₂_map_left_iff.2 (List.forall₂_same.2 fun item hitem => ih item hitem _)
  | @object levels entries hkeys _ ih =>
    obtain ⟨inner, outer, hinner, houter, hrow⟩ :=
      bracketed_eq_row '\x7b' '\x7d' level (prettyEntries (level + 1) entries)
    rw [prettyChars, hrow, prettyEntries_eq_map]
    refine spells_object hinner houter ?_ hkeys
    refine List.forall₂_map_left_iff.2 (List.forall₂_same.2 fun entry hentry => ?_)
    exact ⟨[' '], _, List.forall_mem_singleton.2 rfl, rfl, ih entry hentry _⟩

/-! ## Texts -/

/-- A text that spells a value is that value. -/
theorem ofText_of_spells (h : Spells levels text value) (hlevels : levels < depthLimit) :
    ofText (String.ofList text) = .ok value := by
  have hreads : Reads (readValue (2 * (String.ofList text).length + 2) depthLimit) text value [] :=
    h.reads_here (by rw [String.length_ofList]; omega) hlevels nofun
  obtain ⟨behind, hread, hbehind⟩ := hreads ⟨(String.ofList text).toList, {}⟩ (by simp)
  have hend : behind.skipSpace.rest = [] := by
    rw [Cursor.skipSpace, Cursor.skipWhile_rest, hbehind]
    rfl
  rw [ofText, hread]
  change finish (value, behind) = _
  simp only [finish, hend, List.isEmpty_nil, if_true]

/-- A plain value that is not nested too deep is read from its compact text. -/
theorem ofText_compact (h : IsPlain levels value) (hlevels : levels < depthLimit) :
    ofText value.compact = .ok value :=
  ofText_of_spells (spells_compactChars h) hlevels

/-- A plain value that is not nested too deep is read from its pretty text. -/
theorem ofText_pretty (h : IsPlain levels value) (hlevels : levels < depthLimit) :
    ofText value.pretty = .ok value :=
  ofText_of_spells (spells_prettyChars h 0) hlevels

end Dashboards.Json
