import Dashboards.Proofs.Sequence
import Dashboards.Proofs.Text
import Dashboards.Proofs.Yaml.Reading
import Mathlib.Data.List.Infix

/-!
# Documents of white space

What a text of Unicode white space is as a document. Spaces and line breaks separate tokens
(`isPadding`); any other white space, if a token can begin with it at all, begins a plain scalar,
and so does not begin a record. So nothing but such a text of separators is read as an optional
record, and as an absent one (`Document.read_eq_ok_iff_of_isBlankText`).

A state before white space (`TokenReader.AmongBlanks`) stays one with each step, and each step adds
one token at the end (`TokenReader.BlankStep`); so the first token of the text remains the first.
-/

namespace Dashboards.Yaml

/-! ## Readers go forward -/

/-- Behind a gap the text goes on. -/
theorem suffix_of_readGap {limit : Nat} {cs : List Char} {mark : Mark} {gap gap' : Gap}
    {next : Cursor} (h : readGap limit cs mark gap = .ok (gap', next)) : next.rest <:+ cs := by
  fun_induction readGap limit cs mark gap with
  | case1 | case7 =>
    cases h
    exact List.suffix_rfl
  | case2 rest mark gap ih =>
    exact (ih h).trans ((List.suffix_cons _ _).trans (List.suffix_cons _ _))
  | case3 | case5 | case6 =>
    rename_i ih
    exact (ih h).trans (List.suffix_cons _ _)
  | case4 => cases h

/-- Behind a word the text goes on. The word is added to what is read before it. -/
theorem suffix_of_readPlainWord {flow : Bool} {cs reversed word : List Char} {mark : Mark}
    {next : Cursor} (h : readPlainWord flow cs mark reversed = .ok (word, next)) :
    next.rest <:+ cs ∧ reversed <:+ word := by
  fun_induction readPlainWord flow cs mark reversed with
  | case1 | case2 | case4 =>
    cases h
    exact ⟨List.suffix_rfl, List.suffix_rfl⟩
  | case3 => cases h
  | case5 c rest mark reversed _ _ _ ih =>
    obtain ⟨hrest, hword⟩ := ih h
    exact ⟨hrest.trans (List.suffix_cons _ _), (List.suffix_cons _ _).trans hword⟩

/-- Behind a plain scalar the text goes on. Its words are added to what is read before them. -/
theorem suffix_of_readPlainWords {flow : Bool} {limit fuel : Nat} {start stop : Mark}
    {cursor : Cursor} {reversed : List Char} {gap : Gap} {scalar : PlainScalar}
    (h : readPlainWords flow limit start fuel cursor reversed gap stop = .ok scalar) :
    scalar.next.rest <:+ cursor.rest ∧ reversed.reverse <+: scalar.text := by
  fun_induction readPlainWords flow limit start fuel cursor reversed gap stop with
  | case1 | case2 | case4 =>
    obtain rfl := Except.ok.inj h
    exact ⟨List.suffix_rfl, List.prefix_rfl⟩
  | case3 | case6 => cases h
  | case5 _ cursor reversed gap _ _ word next _ hword =>
    cases h
    refine ⟨(suffix_of_readPlainWord hword).1, ?_⟩
    exact List.reverse_prefix.2 (List.suffix_append _ _)
  | case7 _ cursor reversed gap _ _ word next _ hword _ _ _ behind hgap =>
    cases h
    refine ⟨(suffix_of_readGap hgap).trans (suffix_of_readPlainWord hword).1, ?_⟩
    exact List.reverse_prefix.2 (List.suffix_append _ _)
  | case8 _ cursor reversed gap _ _ word next _ hword _ _ _ behind hgap _ ih =>
    obtain ⟨hrest, htext⟩ := ih h
    refine ⟨hrest.trans ((suffix_of_readGap hgap).trans (suffix_of_readPlainWord hword).1), ?_⟩
    exact (List.reverse_prefix.2 (List.suffix_append _ _)).trans htext

/-- A plain scalar begins with its first word. -/
theorem prefix_of_readPlain {flow : Bool} {indent : Int} {size : Nat} {cursor : Cursor}
    {scalar : PlainScalar}
    (hstart : (cursor.atDocumentIndicator || cursor.rest.head? == some '#') = false)
    (h : readPlain flow indent size cursor = .ok scalar) :
    ∃ word next, readPlainWord flow cursor.rest cursor.mark [] = .ok (word, next) ∧
      word.reverse <+: scalar.text := by
  rw [readPlain, readPlainWords, if_neg (by simp [hstart])] at h
  split at h
  · cases h
  · rename_i next hword
    exact ⟨[], next, hword, List.nil_prefix⟩
  · rename_i word next _ hword
    refine ⟨word, next, hword, ?_⟩
    simp only [Gap.text, List.append_nil] at h
    -- Whether the scalar ends behind its first word or goes on, its text begins with the word.
    split at h
    · cases h
      exact List.prefix_rfl
    split at h
    · cases h
    split at h
    · cases h
      exact List.prefix_rfl
    exact (suffix_of_readPlainWords h).2

/-- Behind skipped white space the text goes on. -/
theorem suffix_skipSpace (flow keyAllowed comment : Bool) (cs : List Char) (mark : Mark) :
    (TokenReader.skipSpace flow keyAllowed comment cs mark).2.rest <:+ cs := by
  fun_induction TokenReader.skipSpace flow keyAllowed comment cs mark with
  | case1 | case6 => exact List.suffix_rfl
  | case2 keyAllowed comment rest mark ih =>
    exact ih.trans ((List.suffix_cons _ _).trans (List.suffix_cons _ _))
  | case3 | case4 | case5 =>
    rename_i ih
    exact ih.trans (List.suffix_cons _ _)

/-! ## White space has no meaning of its own -/

section
variable {c d : Char} {rest : List Char}

/-- White space is no other character. -/
theorem beq_of_isBlank (hc : Text.isBlank c = true) (hd : Text.isBlank d = false) :
    (c == d) = false := by
  rw [beq_eq_false_iff_ne]
  rintro rfl
  rw [hc] at hd
  cases hd

/-- White space begins no line of three other characters. -/
theorem atIndicator_of_isBlank {cursor : Cursor} (hc : Text.isBlank c = true)
    (hrest : cursor.rest = c :: rest) (hd : Text.isBlank d = false) :
    cursor.atIndicator d = false := by
  rw [Cursor.atIndicator, hrest]
  split
  · rename_i heq
    cases heq
    simp [beq_of_isBlank hc hd]
  · exact Bool.and_false _

/-- White space that separates no words begins a plain scalar. -/
theorem startsPlain_of_isBlank (hc : Text.isBlank c = true) (flow : Bool) :
    TokenReader.startsPlain flow c rest = !isSeparator c := by
  simp (disch := decide) only [TokenReader.startsPlain, TokenReader.isIndicator,
    beq_of_isBlank hc, Bool.or_self, Bool.or_false, Bool.and_false, Bool.false_and]

/-- White space begins a plain scalar or no token. -/
theorem readToken_of_isBlank {s : TokenReader} (hc : Text.isBlank c = true) :
    s.readToken c rest = if isSeparator c
      then .error ⟨.noToken, s.cursor.mark, some (.nextToken, s.cursor.mark)⟩
      else s.readPlainScalar := by
  unfold TokenReader.readToken
  split
  case h_11 =>
    simp (disch := decide) only [beq_of_isBlank hc, startsPlain_of_isBlank hc, Bool.false_and,
      Bool.false_eq_true, if_false]
    cases isSeparator c <;> rfl
  all_goals cases hc

/-- A plain scalar may begin with white space. -/
theorem head_of_readPlain_of_isBlank {flow : Bool} {indent : Int} {size : Nat} {cursor : Cursor}
    {scalar : PlainScalar} (hc : Text.isBlank c = true) (hseparator : isSeparator c = false)
    (hrest : cursor.rest = c :: rest) (h : readPlain flow indent size cursor = .ok scalar) :
    scalar.text.head? = some c := by
  have hstart : (cursor.atDocumentIndicator || cursor.rest.head? == some '#') = false := by
    rw [Cursor.atDocumentIndicator, atIndicator_of_isBlank hc hrest (by decide),
      atIndicator_of_isBlank hc hrest (by decide), hrest, Bool.or_self, Bool.false_or]
    exact beq_of_isBlank hc (by decide)
  obtain ⟨word, next, hword, htext⟩ := prefix_of_readPlain hstart h
  have hlast : [c] <:+ word := by
    simp (disch := decide) only [hrest, readPlainWord, hseparator, beq_of_isBlank hc,
      isFlowIndicator, Bool.and_false, Bool.false_and, Bool.or_self, Bool.false_eq_true,
      if_false] at hword
    exact (suffix_of_readPlainWord hword).2
  obtain ⟨others, hothers⟩ := (List.reverse_prefix.2 hlast).trans htext
  rw [← hothers]
  rfl

/-- Text that begins with white space is no null. -/
theorem isNull_of_isBlank (hc : Text.isBlank c = true) :
    Scalar.isNull .plain (String.ofList (c :: rest)) = false := by
  simp (disch := decide) [Scalar.isNull, Scalar.isNullWord, beq_of_isBlank hc]

end

/-! ## Steps over white space -/

namespace TokenReader

variable {s t : TokenReader}

/-- Two states differ at most in their possible keys. -/
def Rekeyed (s t : TokenReader) : Prop :=
  ∃ key outerKeys, t = { s with key, outerKeys }

/-- To drop keys changes nothing else. -/
theorem rekeyed_of_dropLapsedKeys (h : s.dropLapsedKeys = .ok t) : s.Rekeyed t := by
  simp only [dropLapsedKeys, bind_eq_ok_iff] at h
  obtain ⟨outer, -, key, -, ht⟩ := h
  exact ⟨key, outer.reverse, (Except.ok.inj ht).symm⟩

/-- To give up a key changes nothing else. -/
theorem rekeyed_of_removeKey (h : s.removeKey = .ok t) : s.Rekeyed t := by
  rw [removeKey] at h
  split at h
  · split at h
    · cases h
    · exact ⟨none, s.outerKeys, (Except.ok.inj h).symm⟩
  · exact ⟨s.key, s.outerKeys, (Except.ok.inj h).symm⟩

/-- To remember a key changes nothing else. -/
theorem rekeyed_of_saveKey (h : s.saveKey = .ok t) : s.Rekeyed t := by
  rw [saveKey] at h
  split at h
  · rw [bind_eq_ok_iff] at h
    obtain ⟨s', hs', ht⟩ := h
    obtain ⟨key, outer, rfl⟩ := rekeyed_of_removeKey hs'
    exact ⟨_, outer, (Except.ok.inj ht).symm⟩
  · exact ⟨s.key, s.outerKeys, (Except.ok.inj h).symm⟩

/-- Outside all block collections there is none to close. -/
theorem closeBlocks_of_outerIndents (h : s.outerIndents = []) (column : Int) :
    s.closeBlocks column = s := by
  rw [closeBlocks, h]
  exact ite_self s

/-- A state outside all block collections with nothing but white space before it. -/
structure AmongBlanks (s : TokenReader) : Prop where
  isBlank : ∀ c ∈ s.cursor.rest, Text.isBlank c = true
  outerIndents : s.outerIndents = []

/-- Possible keys do not matter. -/
theorem AmongBlanks.of_rekeyed (hs : s.AmongBlanks) (h : s.Rekeyed t) : t.AmongBlanks := by
  obtain ⟨key, outerKeys, rfl⟩ := h
  exact ⟨hs.isBlank, hs.outerIndents⟩

/-- White space remains behind skipped white space. -/
theorem AmongBlanks.skipToToken (hs : s.AmongBlanks) : s.skipToToken.AmongBlanks :=
  ⟨fun c hc => hs.isBlank c ((suffix_skipSpace _ _ _ _ _).subset hc), hs.outerIndents⟩

/-- What a token that begins with these characters of white space is. -/
def BlankToken (cs : List Char) (kind : TokenKind) : Prop :=
  match cs with
  | [] => kind = .streamEnd
  | c :: _ => ∃ text : List Char, kind = .scalar (String.ofList text) .plain ∧ text.head? = some c

/-- A step over white space: it adds one token and leaves nothing but white space. -/
structure BlankStep (s t : TokenReader) : Prop where
  amongBlanks : t.AmongBlanks
  exists_token : ∃ token, t.reversed = token :: s.reversed ∧
    BlankToken s.cursor.rest token.kind

/-- Possible keys do not matter to a step. -/
theorem BlankStep.of_rekeyed {s' t' : TokenReader} (h : BlankStep s' t') (hs : s.Rekeyed s')
    (ht : t'.Rekeyed t) : BlankStep s t := by
  obtain ⟨key, outerKeys, rfl⟩ := hs
  obtain ⟨key', outerKeys', rfl⟩ := ht
  exact ⟨⟨h.amongBlanks.isBlank, h.amongBlanks.outerIndents⟩, h.exists_token⟩

/-- The end is a token. -/
theorem blankStep_of_readEnd (hs : s.AmongBlanks) (hrest : s.cursor.rest = [])
    (h : s.readEnd = .ok t) : BlankStep s t := by
  simp (disch := exact hs.outerIndents) only [readEnd, closeBlocks_of_outerIndents,
    bind_eq_ok_iff] at h
  obtain ⟨s', hs', ht⟩ := h
  obtain ⟨key, outerKeys, rfl⟩ := rekeyed_of_removeKey hs'
  obtain rfl := Except.ok.inj ht
  refine ⟨⟨hs.isBlank, hs.outerIndents⟩, _, rfl, ?_⟩
  rw [hrest]
  rfl

/-- A plain scalar of white space is a token. -/
theorem blankStep_of_readPlainScalar (hs : s.AmongBlanks) {c : Char} {rest : List Char}
    (hrest : s.cursor.rest = c :: rest) (hseparator : isSeparator c = false)
    (h : s.readPlainScalar = .ok t) : BlankStep s t := by
  have hc : Text.isBlank c = true := hs.isBlank c (hrest ▸ List.mem_cons_self)
  simp only [readPlainScalar, bind_eq_ok_iff] at h
  obtain ⟨s', hs', scalar, hscalar, ht⟩ := h
  obtain ⟨key, outerKeys, rfl⟩ := rekeyed_of_saveKey hs'
  obtain rfl := Except.ok.inj ht
  have hnext : scalar.next.rest <:+ s.cursor.rest := (suffix_of_readPlainWords hscalar).1
  refine ⟨⟨fun d hd => hs.isBlank d (hnext.subset hd), hs.outerIndents⟩, _, rfl, ?_⟩
  rw [hrest]
  exact ⟨_, rfl, head_of_readPlain_of_isBlank hc hseparator hrest hscalar⟩

/-- Each step from a state before white space is one over white space. -/
theorem AmongBlanks.step (hs : s.AmongBlanks) (h : s.step = .ok t) : BlankStep s t := by
  simp only [TokenReader.step, bind_eq_ok_iff] at h
  obtain ⟨s', hs', h⟩ := h
  have hkeys := rekeyed_of_dropLapsedKeys hs'
  have hblanks := hs.of_rekeyed hkeys
  rw [closeBlocks_of_outerIndents hblanks.outerIndents] at h
  split at h
  · rename_i hrest
    rw [bind_eq_ok_iff] at h
    obtain ⟨t', ht', h⟩ := h
    exact (blankStep_of_readEnd hblanks hrest ht').of_rekeyed hkeys (rekeyed_of_dropLapsedKeys h)
  · rename_i c rest hrest
    have hc : Text.isBlank c = true := hblanks.isBlank c (hrest ▸ List.mem_cons_self)
    have hspecial : (s'.column == 0 && c == '%') = false := by
      rw [beq_of_isBlank hc (by decide), Bool.and_false]
    rw [hspecial, if_neg Bool.false_ne_true, atIndicator_of_isBlank hc hrest (by decide),
      if_neg Bool.false_ne_true, atIndicator_of_isBlank hc hrest (by decide),
      if_neg Bool.false_ne_true, bind_eq_ok_iff] at h
    obtain ⟨t', ht', h⟩ := h
    rw [readToken_of_isBlank hc] at ht'
    split at ht'
    · cases ht'
    · rename_i hseparator
      exact (blankStep_of_readPlainScalar hblanks hrest (Bool.eq_false_iff.2 hseparator)
        ht').of_rekeyed hkeys (rekeyed_of_dropLapsedKeys h)

end TokenReader

/-! ## The tokens of white space -/

/-- Whether a character separates tokens wherever it stands: a space or a line break. -/
def isPadding (c : Char) : Bool :=
  c == ' ' || isBreak c

/-- Separators are white space, and may occur in a document. -/
theorem isBlank_of_isPadding {c : Char} (h : isPadding c = true) :
    Text.isBlank c = true ∧ isAllowed c = true := by
  simp only [isPadding, isBreak, Bool.or_eq_true, beq_iff_eq] at h
  rcases h with rfl | (((rfl | rfl) | rfl) | rfl) | rfl <;> decide

/-- Where a key may begin, white space is skipped up to the first character that separates no
tokens. -/
theorem rest_skipSpace {keyAllowed comment : Bool} {cs : List Char} {mark : Mark}
    (hkey : keyAllowed = true) (hcomment : comment = false)
    (hcs : ∀ c ∈ cs, Text.isBlank c = true) :
    (TokenReader.skipSpace false keyAllowed comment cs mark).2.rest = cs.dropWhile isPadding := by
  fun_induction TokenReader.skipSpace false keyAllowed comment cs mark with
  | case1 => rfl
  | case2 keyAllowed comment rest mark ih =>
    exact ih (by simp) rfl fun c hc => hcs c (List.mem_cons_of_mem _ (List.mem_cons_of_mem _ hc))
  | case3 keyAllowed comment c rest mark _ hbreak ih =>
    rw [List.dropWhile_cons_of_pos (by simp [isPadding, hbreak])]
    exact ih (by simp) rfl fun d hd => hcs d (List.mem_cons_of_mem _ hd)
  | case4 keyAllowed comment c rest mark _ _ hhash =>
    simp (disch := decide) [hcomment, beq_of_isBlank (hcs c List.mem_cons_self)] at hhash
  | case5 keyAllowed comment c rest mark _ _ _ hspace ih =>
    have hc : c = ' ' := by
      simpa (disch := decide) [hkey, beq_of_isBlank (hcs c List.mem_cons_self)] using hspace
    rw [List.dropWhile_cons_of_pos (by simp [isPadding, hc])]
    exact ih hkey rfl fun d hd => hcs d (List.mem_cons_of_mem _ hd)
  | case6 keyAllowed comment c rest mark _ hbreak _ hspace =>
    have hc : c ≠ ' ' := by
      simpa (disch := decide) [hkey, beq_of_isBlank (hcs c List.mem_cons_self)] using hspace
    rw [List.dropWhile_cons_of_neg (by simp [isPadding, hc, hbreak])]

namespace TokenStream

/-- The tokens are the first of those that are read before white space and of some more. The first
of these is what the white space begins with. -/
theorem prefix_readFrom (barrier : Option Barrier) (fuel : Nat) {s : TokenReader}
    (hs : s.AmongBlanks) :
    ∃ more, (readFrom barrier fuel s).tokens <+: s.reversed.reverse ++ more ∧
      ∀ token, more.head? = some token →
        TokenReader.BlankToken s.skipToToken.cursor.rest token.kind := by
  fun_induction readFrom barrier fuel s with
  | case1 | case2 => exact ⟨[], List.prefix_append _ _, nofun⟩
  | case3 | case5 =>
    exact ⟨[], (List.take_prefix _ _).trans (List.prefix_append _ _), nofun⟩
  | case4 fuel s _ here token _ next hnext ih =>
    obtain ⟨hblanks, new, hnew, hkind⟩ := hs.skipToToken.step hnext
    obtain ⟨more, hmore, -⟩ := ih hblanks
    rw [hnew, List.reverse_cons, List.append_assoc, List.singleton_append] at hmore
    refine ⟨new :: more, hmore, fun first hfirst => ?_⟩
    cases hfirst
    exact hkind

/-- The state before a text. -/
def start (cs : List Char) : TokenReader :=
  .emitHere { size := cs.length, cursor := ⟨cs, {}⟩ } .streamStart

section
variable {cs : List Char}

/-- The first token begins behind the separators in front. -/
theorem rest_skipToToken_start (hcs : ∀ c ∈ cs, Text.isBlank c = true) :
    (start cs).skipToToken.cursor.rest = cs.dropWhile isPadding :=
  rest_skipSpace rfl rfl hcs

/-- If white space has a token, the first one begins behind the separators in front. -/
theorem tokens_of_isBlank (hcs : ∀ c ∈ cs, Text.isBlank c = true) {barrier : Option Barrier}
    {token : Token} {rest : List Token} (h : (ofChars cs barrier).tokens.drop 1 = token :: rest) :
    TokenReader.BlankToken (cs.dropWhile isPadding) token.kind := by
  have hstart : (start cs).AmongBlanks := ⟨hcs, rfl⟩
  obtain ⟨more, hmore, hfirst⟩ := prefix_readFrom barrier (cs.length + 2) hstart
  rw [rest_skipToToken_start hcs] at hfirst
  have hbehind : (ofChars cs barrier).tokens.drop 1 <+: more := hmore.drop 1
  rw [h] at hbehind
  obtain ⟨others, rfl⟩ := hbehind
  exact hfirst token rfl

/-- Separators have an end only. -/
theorem tokens_of_isPadding (hcs : ∀ c ∈ cs, isPadding c = true) :
    ∃ last, (ofChars cs none).tokens.drop 1 = [last] ∧ last.kind = .streamEnd := by
  have hblank : ∀ c ∈ cs, Text.isBlank c = true := fun c hc => (isBlank_of_isPadding (hcs c hc)).1
  have hrest : (start cs).skipToToken.cursor.rest = [] := by
    rw [rest_skipToToken_start hblank]
    exact List.dropWhile_eq_nil_iff.2 hcs
  obtain ⟨next, hnext, hfinished⟩ :
      ∃ next, (start cs).skipToToken.step = .ok next ∧ next.finished = true := by
    have hhere : (start cs).skipToToken =
        { start cs with
          keyAllowed := (start cs).skipToToken.keyAllowed
          cursor := ⟨[], (start cs).skipToToken.cursor.mark⟩ } := by
      rw [← hrest]
      rfl
    rw [hhere]
    exact ⟨_, rfl, rfl⟩
  obtain ⟨-, last, hlast, hkind⟩ := (TokenReader.AmongBlanks.skipToToken ⟨hblank, rfl⟩).step hnext
  rw [hrest] at hkind
  refine ⟨last, ?_, hkind⟩
  have hchars : ofChars cs none = readFrom none (cs.length + 1 + 1) (start cs) := rfl
  have hunfinished : (start cs).finished = false := rfl
  rw [hchars, readFrom, hunfinished, if_neg Bool.false_ne_true]
  simp only [Option.filter_none, hnext]
  rw [readFrom, if_pos hfinished, hlast]
  rfl

end

end TokenStream

/-! ## Documents -/

/-- Separators are no barrier. -/
theorem controlBarrier?_of_isPadding {cs : List Char} (hcs : ∀ c ∈ cs, isPadding c = true)
    (start here : Nat) : controlBarrier? cs start here = none := by
  induction cs generalizing start here with
  | nil => rfl
  | cons c rest ih =>
    rw [controlBarrier?, if_pos (isBlank_of_isPadding (hcs c List.mem_cons_self)).2]
    exact ih (fun d hd => hcs d (List.mem_cons_of_mem _ hd)) _ _

namespace Document

section
variable {stream : TokenStream} {token : Token} {rest : List Token} {text : String}

/-- Without tokens the tree is cut off from the start. -/
theorem root_of_nil (h : stream.tokens.drop 1 = []) : (ofTokens stream).root = some .lost := by
  rw [ofTokens, NodeReader.document, NodeReader.peek, h]

/-- A document that ends at once has no root. -/
theorem ofTokens_of_streamEnd (h : stream.tokens.drop 1 = token :: rest)
    (hkind : token.kind = .streamEnd) : ofTokens stream = ⟨none, none, false⟩ := by
  simp only [ofTokens, NodeReader.document, NodeReader.peek, h, hkind]

/-- A document that begins with a scalar has it as its root. -/
theorem root_of_scalar {style : ScalarStyle} (h : stream.tokens.drop 1 = token :: rest)
    (hkind : token.kind = .scalar text style) :
    (ofTokens stream).root = some (.scalar token.start none none style text) := by
  obtain ⟨kind, start, stop⟩ := token
  cases hkind
  rw [ofTokens, h]
  change (NodeReader.finish (.scalar start none none style text, .ok _)).root = _
  rw [NodeReader.finish]
  split <;> rfl

/-- Separators are an empty document. -/
theorem ofText_of_isPadding (h : ∀ c ∈ text.toList, isPadding c = true) :
    ofText text = ⟨none, none, false⟩ := by
  obtain ⟨last, htokens, hkind⟩ := TokenStream.tokens_of_isPadding h
  rw [ofText, ofChars, controlBarrier?_of_isPadding h]
  exact ofTokens_of_streamEnd htokens hkind

/-- Other white space is cut off from the start, or a plain scalar that begins with white space. -/
theorem root_of_isBlankText (h : Text.isBlankText text = true) :
    (∀ c ∈ text.toList, isPadding c = true) ∨ (ofText text).root = some .lost ∨
      ∃ mark c cs, Text.isBlank c = true ∧
        (ofText text).root = some (.scalar mark none none .plain (String.ofList (c :: cs))) := by
  have hblank : ∀ c ∈ text.toList, Text.isBlank c = true := List.all_eq_true.1 h
  let barrier := controlBarrier? text.toList 0 0
  cases htokens : (TokenStream.ofChars text.toList barrier).tokens.drop 1 with
  | nil => exact .inr (.inl (root_of_nil htokens))
  | cons token rest =>
    have htoken := TokenStream.tokens_of_isBlank hblank htokens
    cases hbehind : text.toList.dropWhile isPadding with
    | nil => exact .inl (List.dropWhile_eq_nil_iff.1 hbehind)
    | cons c behind =>
      rw [hbehind] at htoken
      obtain ⟨content, hkind, hhead⟩ := htoken
      obtain ⟨cs, rfl⟩ := List.head?_eq_some_iff.1 hhead
      have hc : c ∈ text.toList :=
        (List.dropWhile_suffix isPadding).subset (hbehind ▸ List.mem_cons_self)
      exact .inr (.inr ⟨token.start, c, cs, hblank c hc, root_of_scalar htokens hkind⟩)

end

end Document

/-! ## Records -/

variable {ρ : Type} {expected : String} {fields : List (RecordField ρ)} {start : ρ}

/-- A scalar with any text is no record. -/
theorem record_scalar_ne_ok {depth : Nat} {path : Path} {mark : Mark} {c : Char} {cs : List Char}
    {around : Surroundings} {followed : Nat} {result : ρ × Nat} :
    Decoder.record expected fields start depth path
      (.scalar mark none none .plain (String.ofList (c :: cs))) around followed ≠ .ok result := by
  intro h
  rw [Decoder.record, Reading.bind_eq_ok_iff] at h
  obtain ⟨part, middle, hpart, -⟩ := h
  have homitted : Decoder.isOmitted
      (.scalar mark none none .plain (String.ofList (c :: cs))) = false := by
    simp [Decoder.isOmitted]
  change (if Decoder.isOmitted (.scalar mark none none .plain (String.ofList (c :: cs))) then
    return _ else refuse expected path _) around followed = _ at hpart
  rw [homitted, if_neg Bool.false_ne_true] at hpart
  exact refuse_ne_ok hpart

/-- Of all white space, separators are read as an optional record, and as an absent one. -/
theorem Document.read_eq_ok_iff_of_isBlankText {text : String}
    (h : Text.isBlankText text = true) {found : Option ρ} :
    (ofText text).read (Decoder.optional (Decoder.record expected fields start)) (.ok none) =
        .ok found ↔
      found = none ∧ ∀ c ∈ text.toList, isPadding c = true := by
  constructor
  · intro hread
    obtain hpadding | hlost | ⟨mark, c, cs, hc, hscalar⟩ := root_of_isBlankText h
    · rw [ofText_of_isPadding hpadding] at hread
      exact ⟨(Except.ok.inj hread).symm, hpadding⟩
    · rw [read, hlost] at hread
      cases hread
    · simp only [read, hscalar] at hread
      obtain ⟨⟨result, followed⟩, hresult, -⟩ := bind_eq_ok_iff.1 hread
      rw [optional_untagged, isNull_of_isBlank hc, if_neg Bool.false_ne_true,
        Reading.bind_eq_ok_iff] at hresult
      obtain ⟨record, middle, hrecord, -⟩ := hresult
      exact absurd hrecord record_scalar_ne_ok
  · rintro ⟨rfl, hpadding⟩
    rw [ofText_of_isPadding hpadding, read]

end Dashboards.Yaml
