import Dashboards.Compiled
import Dashboards.Proofs.Yaml.Blank

/-!
# Blank documents

A blank document is compiled without being decoded. That hides nothing (`shortcut_hides_nothing`):
decoded, it is refused or empty, and an empty document is compiled to the same tables.
-/

namespace Dashboards

/-- A value that may be absent is read with a default as it is read without one. -/
theorem Yaml.orDefault_eq_map {α : Type} [Inhabited α] (decode : Decoder α) (depth : Nat)
    (path : Path) (node : Node) (around : Surroundings) (followed : Nat) :
    Decoder.orDefault decode depth path node around followed =
      (Decoder.optional decode depth path node around followed).map fun read =>
        (read.1.getD default, read.2) := by
  change Reading.bind (Decoder.optional decode depth path node) _ around followed = _
  rw [Reading.bind]
  cases Decoder.optional decode depth path node around followed <;> rfl

/-- A document is read with a default as it is read without one. -/
theorem Yaml.Document.read_orDefault {α : Type} [Inhabited α] (document : Document)
    (decode : Decoder α) :
    document.read (Decoder.orDefault decode) (.ok default) =
      (document.read (Decoder.optional decode) (.ok none)).map (·.getD default) := by
  cases hroot : document.root with
  | none => simp only [read, hroot, Except.map, Option.getD_none]
  | some root =>
    simp only [read, hroot, orDefault_eq_map]
    cases Decoder.optional decode depthLimit [] root document.surroundings 0 with
    | error error => rfl
    | ok result =>
      cases document.fault with
      | some fault => rfl
      | none => cases document.followed <;> rfl

/-- The configuration that a text holds, none if it is empty or null. -/
def Config.ofText? (text : String) : Except Yaml.Error (Option Config) :=
  (Yaml.Document.ofText text).read (Yaml.Decoder.optional Config.decode) (.ok none)

/-- The configuration that a text declares is the one it holds, or else the empty one. -/
theorem Config.ofText_eq_map (text : String) :
    Config.ofText text = (Config.ofText? text).map (·.getD {}) :=
  Yaml.Document.read_orDefault _ _

namespace Compiled

/-- Of blank texts, those of spaces and line breaks hold nothing; all others are refused. -/
theorem ofText?_eq_ok_iff_of_isBlankText {text : String} (h : Text.isBlankText text = true)
    {found : Option Config} :
    Config.ofText? text = .ok found ↔ found = none ∧ ∀ c ∈ text.toList, Yaml.isPadding c = true :=
  Yaml.Document.read_eq_ok_iff_of_isBlankText h

/-- A text that is not blank is compiled as the configuration it holds. -/
theorem ofText_of_not_isBlankText {text : String} (h : Text.isBlankText text = false)
    {found : Option Config} (hfound : Config.ofText? text = .ok found) :
    (ofText text).result = (ofConfig (found.getD {})).result := by
  rw [ofText, h, if_neg Bool.false_ne_true, Traced.result_bind, decode, Traced.result_lift,
    Config.ofText_eq_map, hfound]
  rfl

/-- The short-cut hides no document. Of a text that trimming leaves empty, decoding fails or finds
no configuration, the latter exactly if it is a text of spaces and line breaks. So every text that
can be decoded is compiled as the configuration that is found, as the empty one if none is. -/
theorem shortcut_hides_nothing (text : String) :
    (Text.trim text = "" →
      ((∃ error, Config.ofText? text = .error error) ∨ Config.ofText? text = .ok none) ∧
      (Config.ofText? text = .ok none ↔ ∀ c ∈ text.toList, c = ' ' ∨ Yaml.isBreak c = true)) ∧
    ∀ found, Config.ofText? text = .ok found →
      (ofText text).result = (ofConfig (found.getD {})).result := by
  refine ⟨fun htrim => ⟨?_, ?_⟩, fun found hfound => ?_⟩
  · have hblank := Text.trim_eq_empty_iff.1 htrim
    cases hfound : Config.ofText? text with
    | error error => exact .inl ⟨error, rfl⟩
    | ok found => exact .inr (((ofText?_eq_ok_iff_of_isBlankText hblank).1 hfound).1 ▸ rfl)
  · rw [ofText?_eq_ok_iff_of_isBlankText (Text.trim_eq_empty_iff.1 htrim)]
    simp [Yaml.isPadding]
  · cases hblank : Text.isBlankText text with
    | false => exact ofText_of_not_isBlankText hblank hfound
    | true =>
      obtain ⟨rfl, -⟩ := (ofText?_eq_ok_iff_of_isBlankText hblank).1 hfound
      rw [ofText, if_pos hblank]
      rfl

/-- A tab alone is refused, and so is an ideographic space; line breaks hold nothing. -/
example : (["\t", "\u3000", " \u2028\r\n"].map fun text => (Config.ofText? text).isOk) =
    [false, false, true] := by
  decide +kernel

end Compiled

end Dashboards
