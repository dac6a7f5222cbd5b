import Dashboards.Proofs.Document.Components

/-!
# The spellings of visualizations

A text is read as a visualization exactly if it is one of its spellings (`Visualization.Spells`):
the name with ASCII letters of either case, between white space. The white space is that of Unicode
while the letters are those of ASCII alone, so a letter that only resembles one is another letter.
`Visualization.ofText_spellings` says what follows for reading, for its errors and for two texts
that are read alike.
-/

namespace Dashboards.Visualization

variable {text : String} {v : Visualization}

/-- Letters are lowered as the core library lowers them. -/
theorem lowerLetter_eq_toLower (c : Char) : lowerLetter c = c.toLower := by
  by_cases hc : c.toNat < 128
  · have small : ∀ n < 128, lowerLetter (Char.ofNat n) = (Char.ofNat n).toLower := by
      decide +kernel
    rw [← Char.ofNat_toNat c, small _ hc]
  · -- Beyond ASCII neither changes anything.
    have hmodel : ¬ ('A' ≤ c ∧ c ≤ 'Z') := fun h => hc (Nat.lt_of_le_of_lt h.2 (by decide))
    have hcore : ¬ (c.val ≥ 'A'.val ∧ c.val ≤ 'Z'.val) := hmodel
    have hlower : c.toLower = c := dif_neg hcore
    rw [lowerLetter, if_neg hmodel, hlower]

/-- Texts are lowered letter by letter. -/
theorem toList_toLower (text : String) : text.toLower.toList = text.toList.map Char.toLower :=
  String.toList_map

/-- Texts are lowered as the core library lowers them. -/
theorem lower_eq_toLower (text : String) : lower text = text.toLower := by
  rw [← String.toList_inj, lower, toList_toLower, String.toList_ofList]
  exact List.map_congr_left fun c _ => lowerLetter_eq_toLower c

/-- Names are in small letters. -/
theorem toLower_name (v : Visualization) : v.name.toLower = v.name := by
  have small : ∀ v ∈ all, lower v.name = v.name := by decide +kernel
  rw [← lower_eq_toLower, small v v.mem_all]

/-- Names are not empty and have no white space in them. -/
theorem isBlank_of_mem_name {c : Char} (h : c ∈ v.name.toList) : Text.isBlank c = false := by
  have solid : (all.all fun v => v.name.toList.all fun c => !Text.isBlank c) = true := by
    decide +kernel
  simp only [List.all_eq_true, Bool.not_eq_true'] at solid
  exact solid v v.mem_all c h

/-- White space has no case. -/
theorem toLower_of_isBlank {c : Char} (h : Text.isBlank c = true) : c.toLower = c := by
  have hcore : ¬ (c.val ≥ 'A'.val ∧ c.val ≤ 'Z'.val) := by
    rintro ⟨hA, hZ⟩
    have hleast : 65 ≤ c.toNat := hA
    have hgreatest : c.toNat ≤ 90 := hZ
    simp only [Text.isBlank, Bool.or_eq_true, Bool.and_eq_true, beq_iff_eq,
      decide_eq_true_eq] at h
    omega
  exact dif_neg hcore

/-! ## Reading -/

/-- A text names the visualization whose name it is when it is trimmed and its letters are small. -/
theorem ofText?_eq_some_iff : ofText? text = some v ↔ (Text.trim text).toLower = v.name := by
  have hfits : ∀ w : Visualization, sameLetters w.name (Text.trim text) = true ↔
      (Text.trim text).toLower = w.name := by
    intro w
    rw [sameLetters, beq_iff_eq, lower_eq_toLower, lower_eq_toLower, toLower_name, eq_comm]
  rw [ofText?]
  constructor
  · intro h
    have hfound := List.find?_some h
    exact (hfits v).1 hfound
  · intro h
    have hsome : (all.find? fun v => sameLetters v.name (Text.trim text)).isSome = true :=
      List.find?_isSome.2 ⟨v, v.mem_all, (hfits v).2 h⟩
    obtain ⟨w, hw⟩ := Option.isSome_iff_exists.1 hsome
    have hfound := List.find?_some hw
    rw [hw, name_injective (((hfits w).1 hfound).symm.trans h)]

/-- A text is read as the visualization that it names. -/
theorem ofText_iff : ofText text = .ok v ↔ (Text.trim text).toLower = v.name :=
  ofText_eq_ok_iff.trans ofText?_eq_some_iff

/-- A text that names no visualization is refused, in its own words. -/
theorem ofText_of_forall_ne (h : ∀ v : Visualization, (Text.trim text).toLower ≠ v.name) :
    ofText text = .error (.visualization (.unknown text)) := by
  rw [ofText]
  cases hfound : ofText? text with
  | none => rfl
  | some v => exact absurd (ofText?_eq_some_iff.1 hfound) (h v)

/-! ## Spellings -/

/-- A text spells a visualization: it is the name, with letters of either case, between white
space. -/
def Spells (text : String) (v : Visualization) : Prop :=
  ∃ before word after : List Char, text.toList = before ++ word ++ after ∧
    (∀ c ∈ before, Text.isBlank c = true) ∧ (∀ c ∈ after, Text.isBlank c = true) ∧
    word.map Char.toLower = v.name.toList

/-- The spellings of a visualization are the texts that are its name when they are trimmed and their
letters are small. -/
theorem spells_iff : Spells text v ↔ (Text.trim text).toLower = v.name := by
  have hlowered : (Text.trim text).toLower = v.name ↔
      (Text.trimChars text.toList).map Char.toLower = v.name.toList := by
    rw [← String.toList_inj, toList_toLower, Text.trim, String.toList_ofList]
  rw [hlowered]
  constructor
  · rintro ⟨before, word, after, htext, hbefore, hafter, hword⟩
    have hsolid : ∀ c ∈ word, Text.isBlank c = false := by
      intro c hc
      by_contra hblank
      rw [Bool.not_eq_false] at hblank
      have hname : c ∈ v.name.toList := by
        rw [← hword, List.mem_map]
        exact ⟨c, hc, toLower_of_isBlank hblank⟩
      rw [isBlank_of_mem_name hname] at hblank
      cases hblank
    rw [htext, Text.trimChars_surrounded hbefore hafter
      (fun c hc => hsolid c (List.mem_of_mem_head? hc))
      (fun c hc => hsolid c (List.mem_of_mem_getLast? hc)), hword]
  · intro h
    obtain ⟨before, after, htext, hbefore, hafter⟩ := Text.exists_surrounded text.toList
    exact ⟨before, _, after, htext, hbefore, hafter, h⟩

/-- A text is read as a visualization exactly if it spells it, that is, if it is the name when it is
trimmed and its ASCII letters are small; any other text is refused, quoted as it stands. So no text
spells two visualizations, the names of a visualization in texts and in JSON are read as it, and two
texts are read as one exactly if both are read and become equal when they are trimmed and
lowered. -/
theorem ofText_spellings :
    (∀ text v, ofText text = .ok v ↔ (Text.trim text).toLower = v.name) ∧
    (∀ text v, ofText text = .ok v ↔ Spells text v) ∧
    (∀ text, (¬ ∃ v, Spells text v) →
      ofText text = .error (.visualization (.unknown text)) ∧
      (Error.visualization (.unknown text)).message =
        "invalid visualization: " ++ ("unknown visualization '" ++ text ++ "'")) ∧
    (∀ text v w, Spells text v → Spells text w → v = w) ∧
    (∀ v : Visualization, ofText v.name = .ok v ∧ ofText v.jsonName = .ok v) ∧
    ∀ s t, (∃ v, ofText s = .ok v ∧ ofText t = .ok v) ↔
      (∃ v, ofText s = .ok v) ∧ (∃ v, ofText t = .ok v) ∧
        (Text.trim s).toLower = (Text.trim t).toLower := by
  refine ⟨fun _ _ => ofText_iff, fun _ _ => ofText_iff.trans spells_iff.symm, fun text h => ?_,
    fun text v w hv hw => ?_, fun v => ?_, fun s t => ?_⟩
  · exact ⟨ofText_of_forall_ne fun v hv => h ⟨v, spells_iff.2 hv⟩, rfl⟩
  · exact name_injective ((spells_iff.1 hv).symm.trans (spells_iff.1 hw))
  · rw [jsonName_eq_name]
    exact ⟨ofText_eq_ok_iff.2 (ofText?_name v), ofText_eq_ok_iff.2 (ofText?_name v)⟩
  · simp only [ofText_iff]
    constructor
    · rintro ⟨v, hs, ht⟩
      exact ⟨⟨v, hs⟩, ⟨v, ht⟩, hs.trans ht.symm⟩
    · rintro ⟨⟨v, hs⟩, -, heq⟩
      exact ⟨v, hs, heq ▸ hs⟩

/-- The Kelvin sign is no letter of ASCII, though Unicode knows it as the capital of a small one. -/
example : ofText? "mar\u212Adown" = none ∧ ofText? " MARKDOWN\u3000" = some .markdown := by
  decide +kernel

end Dashboards.Visualization
