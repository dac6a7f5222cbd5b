import Dashboards.Proofs.Text
import Mathlib.Data.List.Infix
import Mathlib.Data.List.SplitBy

/-!
# Parentheses

Characters are balanced if no start of them has more closing than opening parentheses, and there
are as many of both in all (`Balanced`). A reader that counts the parentheses that are open cuts a
text into stretches, inside and outside of all parentheses (`stretches`). Balanced texts that stand
between parentheses, with a separator between each two, are cut into just these units and
separators (`stretches_intercalate`), so they can be read back (`units_intercalate`).
-/

namespace Dashboards.Text

/-! ## Balance -/

/-- No start of the characters has more closing than opening parentheses, and there are as many of
both in all. -/
structure Balanced (cs : List Char) : Prop where
  opened : ∀ start, start <+: cs → start.count ')' ≤ start.count '('
  closed : cs.count ')' = cs.count '('

instance (cs : List Char) : Decidable (Balanced cs) :=
  decidable_of_iff ((∀ start ∈ cs.inits, start.count ')' ≤ start.count '(') ∧
      cs.count ')' = cs.count '(')
    ⟨fun h => ⟨fun start hstart => h.1 start ((List.mem_inits _ _).2 hstart), h.2⟩,
      fun h => ⟨fun start hstart => h.opened start ((List.mem_inits _ _).1 hstart), h.closed⟩⟩

/-- Characters without parentheses. -/
def Plain (cs : List Char) : Prop :=
  '(' ∉ cs ∧ ')' ∉ cs

instance (cs : List Char) : Decidable (Plain cs) :=
  inferInstanceAs (Decidable (_ ∧ _))

variable {before cs after : List Char}

/-- Balanced characters stay balanced without plain ones in front. -/
theorem Balanced.of_append_left (h : Balanced (before ++ cs)) (hplain : Plain before) :
    Balanced cs where
  opened start hstart := by
    have := h.opened (before ++ start) ((List.prefix_append_right_inj before).2 hstart)
    simpa [List.count_eq_zero.2 hplain.1, List.count_eq_zero.2 hplain.2] using this
  closed := by
    have := h.closed
    simpa [List.count_eq_zero.2 hplain.1, List.count_eq_zero.2 hplain.2] using this

/-- Balanced characters stay balanced without plain ones behind. -/
theorem Balanced.of_append_right (h : Balanced (cs ++ after)) (hplain : Plain after) :
    Balanced cs where
  opened start hstart := h.opened start (hstart.trans (List.prefix_append ..))
  closed := by
    have := h.closed
    simpa [List.count_eq_zero.2 hplain.1, List.count_eq_zero.2 hplain.2] using this

/-- Plain characters are balanced. -/
theorem Plain.balanced (h : Plain cs) : Balanced cs where
  opened start hstart := by
    have hclose : ')' ∉ start := fun hmem => h.2 (hstart.subset hmem)
    rw [List.count_eq_zero.2 hclose]
    exact Nat.zero_le _
  closed := by rw [List.count_eq_zero.2 h.1, List.count_eq_zero.2 h.2]

/-- Balanced characters behind others are balanced together. -/
theorem Balanced.append {cs' : List Char} (h : Balanced cs) (h' : Balanced cs') :
    Balanced (cs ++ cs') where
  opened start hstart := by
    obtain ⟨rest, hrest⟩ := hstart
    rcases List.append_eq_append_iff.1 hrest with ⟨inner, hcs, -⟩ | ⟨inner, rfl, hcs'⟩
    · exact h.opened start ⟨inner, hcs.symm⟩
    · have hinner := h'.opened inner ⟨rest, hcs'.symm⟩
      have hcs := h.closed
      simp only [List.count_append]
      omega
  closed := by simp only [List.count_append, h.closed, h'.closed]

/-- Balanced characters between parentheses are balanced. -/
theorem Balanced.parenthesized (h : Balanced cs) : Balanced ('(' :: (cs ++ [')'])) where
  opened start hstart := by
    cases start with
    | nil => simp
    | cons c start =>
      obtain ⟨rfl, hrest⟩ := List.cons_prefix_cons.1 hstart
      rcases List.prefix_concat_iff.1 hrest with rfl | hrest
      · simp [h.closed]
      · have := h.opened start hrest
        simp only [List.count_cons]
        simp
        omega
  closed := by
    simp only [List.count_cons, List.count_append, h.closed]
    simp

/-- White space is plain. -/
theorem plain_of_blank (h : ∀ c ∈ cs, isBlank c = true) : Plain cs := by
  constructor <;> intro hmem <;> exact absurd (h _ hmem) (by decide)

/-- Balanced characters stay balanced when they are trimmed. -/
theorem Balanced.trimChars (h : Balanced cs) : Balanced (trimChars cs) := by
  have hfront : Balanced (cs.dropWhile isBlank) := by
    rw [← List.takeWhile_append_dropWhile (p := isBlank) (l := cs)] at h
    exact h.of_append_left (plain_of_blank fun c hc => List.mem_takeWhile_imp hc)
  have hback : cs.dropWhile isBlank = Text.trimChars cs ++
      ((cs.dropWhile isBlank).reverse.takeWhile isBlank).reverse := by
    rw [Text.trimChars, ← List.reverse_append, List.takeWhile_append_dropWhile,
      List.reverse_reverse]
  rw [hback] at hfront
  refine hfront.of_append_right (plain_of_blank fun c hc => ?_)
  exact List.mem_takeWhile_imp (List.mem_reverse.1 hc)

/-! ## Scanning -/

/-- How many parentheses are open behind a character, given how many are open before it. -/
def depthAfter (depth : Nat) (c : Char) : Nat :=
  if c = '(' then depth + 1 else if c = ')' then depth - 1 else depth

/-- The characters of a text, each with whether it is inside of parentheses: some are open before
it or behind it. -/
def scan : Nat → List Char → List (Char × Bool)
  | _, [] => []
  | depth, c :: rest =>
    (c, decide (0 < depth ∨ 0 < depthAfter depth c)) :: scan (depthAfter depth c) rest

/-- Characters behind others are scanned at the depth that these leave. -/
theorem scan_append (depth : Nat) (cs cs' : List Char) :
    scan depth (cs ++ cs') = scan depth cs ++ scan (cs.foldl depthAfter depth) cs' := by
  induction cs generalizing depth with
  | nil => rfl
  | cons c rest ih => simp only [List.cons_append, scan, ih, List.foldl_cons]

/-- Plain characters are inside exactly if parentheses are open before them, and leave as many
open. -/
theorem scan_plain (depth : Nat) (h : Plain cs) :
    scan depth cs = cs.map (·, decide (0 < depth)) ∧ cs.foldl depthAfter depth = depth := by
  induction cs with
  | nil => exact ⟨rfl, rfl⟩
  | cons c rest ih =>
    simp only [Plain, List.mem_cons, not_or] at h
    have hc : depthAfter depth c = depth := by
      rw [depthAfter, if_neg fun e => h.1.1 e.symm, if_neg fun e => h.2.1 e.symm]
    obtain ⟨hscan, hdepth⟩ := ih ⟨h.1.2, h.2.2⟩
    rw [scan, List.foldl_cons, hc, hscan, hdepth]
    simp

/-- Where more parentheses are open than a text closes, all of it is inside. -/
theorem scan_open {depth : Nat}
    (h : ∀ start, start <+: cs → start.count ')' ≤ depth + start.count '(') :
    scan (depth + 1) cs = cs.map (·, true) ∧
      cs.foldl depthAfter (depth + 1) + cs.count ')' = depth + 1 + cs.count '(' := by
  induction cs generalizing depth with
  | nil => simp [scan]
  | cons c rest ih =>
    -- What a start of the rest closes and opens, it does behind `c`.
    have hrest : ∀ start, start <+: rest →
        (c :: start).count ')' ≤ depth + (c :: start).count '(' :=
      fun start hstart => h (c :: start) (List.cons_prefix_cons.2 ⟨rfl, hstart⟩)
    simp only [List.count_cons] at hrest
    rw [scan, List.foldl_cons, List.count_cons, List.count_cons]
    by_cases hopen : c = '('
    · subst hopen
      obtain ⟨hscan, hdepth⟩ := @ih (depth + 1) fun start hstart => by
        have := hrest start hstart
        simp at this
        omega
      simp [depthAfter, hscan] at *
      omega
    · by_cases hclose : c = ')'
      · subst hclose
        obtain ⟨outer, rfl⟩ : ∃ outer, depth = outer + 1 := by
          have := hrest [] List.nil_prefix
          simp at this
          exact ⟨depth - 1, by omega⟩
        obtain ⟨hscan, hdepth⟩ := @ih outer fun start hstart => by
          have := hrest start hstart
          simp at this
          omega
        simp [depthAfter, hscan] at *
        omega
      · obtain ⟨hscan, hdepth⟩ := @ih depth fun start hstart => by
          have := hrest start hstart
          simp [hopen, hclose] at this
          exact this
        simp [depthAfter, hopen, hclose, hscan] at *
        omega

/-- A balanced text between parentheses is inside as a whole, and leaves none open. -/
theorem scan_parenthesized (h : Balanced cs) :
    scan 0 ('(' :: (cs ++ [')'])) = ('(' :: (cs ++ [')'])).map (·, true) ∧
      ('(' :: (cs ++ [')'])).foldl depthAfter 0 = 0 := by
  obtain ⟨hscan, hdepth⟩ := @scan_open cs 0 fun start hstart => by
    rw [Nat.zero_add]
    exact h.opened start hstart
  have hdepth : cs.foldl depthAfter 1 = 1 := by
    have := h.closed
    simp only [Nat.zero_add] at hdepth
    omega
  have hopen : depthAfter 0 '(' = 1 := rfl
  have hclose : depthAfter 1 ')' = 0 := rfl
  rw [scan, List.foldl_cons, hopen, scan_append, hscan, List.foldl_append, hdepth]
  simp [scan, hclose]

/-! ## Stretches -/

/-- A stretch of a text, inside of parentheses or outside of all. -/
inductive Stretch where
  | inside (text : String)
  | outside (text : String)
deriving DecidableEq

/-- The stretch of scanned characters all of which are inside or all of which are outside. -/
def Stretch.ofRun (run : List (Char × Bool)) : Stretch :=
  if run.any Prod.snd then .inside (String.ofList (run.map Prod.fst))
  else .outside (String.ofList (run.map Prod.fst))

/-- The scanned characters in runs that are as long as possible, inside or outside. -/
def runs (scanned : List (Char × Bool)) : List (List (Char × Bool)) :=
  scanned.splitBy fun c d => c.2 == d.2

/-- The stretches of a text, each as long as possible. -/
def stretches (text : String) : List Stretch :=
  (runs (scan 0 text.toList)).map Stretch.ofRun

/-- Characters that are all inside or all outside are one run, if what follows is not so. -/
theorem runs_append {inside : Bool} {scanned : List (Char × Bool)} (hne : cs ≠ [])
    (hnext : ∀ c ∈ scanned.head?, c.2 ≠ inside) :
    runs (cs.map (·, inside) ++ scanned) = cs.map (·, inside) :: runs scanned := by
  have hone : runs (cs.map (·, inside)) = [cs.map (·, inside)] := by
    refine List.splitBy_of_isChain (by simpa using hne) (List.Pairwise.isChain ?_)
    rw [List.pairwise_map]
    exact List.pairwise_of_forall fun _ _ => beq_self_eq_true inside
  rw [← List.singleton_append, ← hone]
  refine List.splitBy_append fun c hc d hd => ?_
  obtain ⟨c', -, rfl⟩ := List.mem_map.1 (List.mem_of_mem_getLast? hc)
  simpa using fun e : inside = d.2 => hnext d hd e.symm

/-- The stretch of characters that are all inside. -/
theorem Stretch.ofRun_inside (hne : cs ≠ []) :
    ofRun (cs.map (·, true)) = .inside (String.ofList cs) := by
  have hany : (cs.map (·, true)).any Prod.snd = true := by
    simpa using List.exists_mem_of_ne_nil cs hne
  simp [ofRun, hany, Function.comp_def]

/-- The stretch of characters that are all outside. -/
theorem Stretch.ofRun_outside : ofRun (cs.map (·, false)) = .outside (String.ofList cs) := by
  simp [ofRun, Function.comp_def]

/-- The characters of a text between parentheses. -/
theorem toList_parenthesized (text : String) :
    ("(" ++ text ++ ")").toList = '(' :: (text.toList ++ [')']) := by
  simp

/-- A balanced text between parentheses is one stretch. -/
theorem stretches_parenthesized {text : String} (h : Balanced text.toList) :
    stretches ("(" ++ text ++ ")") = [.inside ("(" ++ text ++ ")")] := by
  have hruns := @runs_append ("(" ++ text ++ ")").toList true [] (by simp) (by simp)
  rw [List.append_nil] at hruns
  rw [stretches, toList_parenthesized, (scan_parenthesized h).1, ← toList_parenthesized, hruns,
    List.map_cons, Stretch.ofRun_inside (by simp), String.ofList_toList]
  rfl

/-- A balanced text between parentheses with a plain separator behind it are two stretches, if
another parenthesis opens behind them. -/
theorem stretches_parenthesized_append {text separator rest : String} (h : Balanced text.toList)
    (hne : separator ≠ "") (hplain : Plain separator.toList)
    (hrest : rest.toList.head? = some '(') :
    stretches ("(" ++ text ++ ")" ++ separator ++ rest) =
      .inside ("(" ++ text ++ ")") :: .outside separator :: stretches rest := by
  obtain ⟨hinside, hdepth⟩ := scan_parenthesized h
  obtain ⟨hseparator, hdepth'⟩ := scan_plain 0 hplain
  rw [← toList_parenthesized] at hinside hdepth
  have hscan : scan 0 ("(" ++ text ++ ")" ++ separator ++ rest).toList =
      ("(" ++ text ++ ")").toList.map (·, true) ++
        (separator.toList.map (·, false) ++ scan 0 rest.toList) := by
    rw [String.toList_append, String.toList_append, List.append_assoc, scan_append, scan_append,
      hinside, hdepth, hseparator, hdepth']
    rfl
  have hne' : separator.toList ≠ [] := by simpa using hne
  rw [stretches, hscan, runs_append (by simp), runs_append hne', List.map_cons, List.map_cons,
    Stretch.ofRun_inside (by simp), Stretch.ofRun_outside, String.ofList_toList,
    String.ofList_toList, stretches]
  · intro c hc
    obtain ⟨rest', hrest'⟩ := List.head?_eq_some_iff.1 hrest
    rw [hrest', scan, List.head?_cons, Option.mem_some_iff] at hc
    subst hc
    decide
  · intro c hc
    obtain ⟨d, others, hcons⟩ := List.exists_cons_of_ne_nil hne'
    rw [hcons, List.map_cons, List.cons_append, List.head?_cons, Option.mem_some_iff] at hc
    subst hc
    exact Bool.false_ne_true

/-- The first of several texts between parentheses has a separator behind it. -/
theorem intercalate_parenthesized_cons (separator text other : String) (rest : List String) :
    separator.intercalate ((text :: other :: rest).map fun text => "(" ++ text ++ ")") =
      "(" ++ text ++ ")" ++ separator ++
        separator.intercalate ((other :: rest).map fun text => "(" ++ text ++ ")") := by
  rw [List.map_cons, List.map_cons, String.intercalate_cons_cons]

/-- Balanced texts that stand between parentheses, with a plain separator between each two, are cut
into these units and separators. -/
theorem stretches_intercalate {separator : String} (hne : separator ≠ "")
    (hplain : Plain separator.toList) {texts : List String}
    (h : ∀ text ∈ texts, Balanced text.toList) :
    stretches (separator.intercalate (texts.map fun text => "(" ++ text ++ ")")) =
      (texts.map fun text => Stretch.inside ("(" ++ text ++ ")")).intersperse
        (.outside separator) := by
  induction texts with
  | nil => rfl
  | cons text rest ih =>
    cases rest with
    | nil => simpa using stretches_parenthesized (h text (by simp))
    | cons other rest =>
      have hrest := ih fun text htext => h text (List.mem_cons_of_mem _ htext)
      obtain ⟨inner, hinner⟩ := intercalate_parenthesized separator other rest
      have hhead : (separator.intercalate
          ((other :: rest).map fun text => "(" ++ text ++ ")")).toList.head? = some '(' := by
        rw [hinner, toList_parenthesized, List.head?_cons]
      rw [intercalate_parenthesized_cons, stretches_parenthesized_append (h text (by simp)) hne
        hplain hhead, hrest]
      rfl

/-- A list of texts between parentheses with a plain separator between each two is balanced. -/
theorem balanced_intercalate {separator : String} (hplain : Plain separator.toList)
    {texts : List String} (h : ∀ text ∈ texts, Balanced text.toList) :
    Balanced (separator.intercalate (texts.map fun text => "(" ++ text ++ ")")).toList := by
  induction texts with
  | nil => exact Plain.balanced ⟨List.not_mem_nil, List.not_mem_nil⟩
  | cons text rest ih =>
    have hunit : Balanced ("(" ++ text ++ ")").toList := by
      rw [toList_parenthesized]
      exact (h text (by simp)).parenthesized
    cases rest with
    | nil => simpa using hunit
    | cons other rest =>
      have hrest := ih fun text htext => h text (List.mem_cons_of_mem _ htext)
      rw [intercalate_parenthesized_cons, String.toList_append, String.toList_append]
      exact (hunit.append hplain.balanced).append hrest

/-! ## Reading units back -/

/-- The texts between the outermost parentheses of a text, in order. -/
def units (text : String) : List String :=
  (stretches text).filterMap fun
    | .inside inner => some (String.ofList inner.toList.tail.dropLast)
    | .outside _ => none

/-- What stands between the first two units of a text. -/
def separator? (text : String) : Option String :=
  (stretches text).findSome? fun
    | .inside _ => none
    | .outside between => some between

section
variable {separator : String} (hne : separator ≠ "") (hplain : Plain separator.toList)
include hne hplain

/-- Balanced texts that stand between parentheses can be read back. -/
theorem units_intercalate {texts : List String} (h : ∀ text ∈ texts, Balanced text.toList) :
    units (separator.intercalate (texts.map fun text => "(" ++ text ++ ")")) = texts := by
  rw [units, stretches_intercalate hne hplain h]
  clear h
  induction texts with
  | nil => rfl
  | cons text rest ih =>
    cases rest with
    | nil => simp
    | cons other rest =>
      simp only [List.map_cons, List.intersperse_cons_cons, List.filterMap_cons] at ih ⊢
      rw [ih]
      simp

/-- What stands between balanced texts can be read back if there are several of them. -/
theorem separator?_intercalate {texts : List String} (h : ∀ text ∈ texts, Balanced text.toList)
    (hseveral : 2 ≤ texts.length) :
    separator? (separator.intercalate (texts.map fun text => "(" ++ text ++ ")")) =
      some separator := by
  rw [separator?, stretches_intercalate hne hplain h]
  match texts, hseveral with
  | text :: other :: rest, _ => rfl

end

end Dashboards.Text
