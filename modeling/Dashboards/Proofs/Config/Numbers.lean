import Dashboards.Config.Read
import Dashboards.Dashboard.Basic
import Dashboards.Proofs.Yaml.Gives

/-!
# Numbers of configurations

The only numbers that a configuration holds are the places and the sizes of placements. In a
configuration that is read from a text they all fit into 32 bits (`Config.fits_of_ofText`).
-/

namespace Dashboards

/-- A place and a size fit into 32 bits. -/
structure Layout.Fits (layout : Layout) : Prop where
  row : layout.row < UInt32.size
  column : layout.column < UInt32.size
  width : layout.width < UInt32.size
  height : layout.height < UInt32.size

namespace Config

open Yaml (Decoder RecordField)
open Yaml.Decoder (gives_plain gives_record gives_true gives_unsigned32)

/-- The numbers of a placement fit into 32 bits, as far as they are given. -/
structure Placement.Fits (placement : Placement) : Prop where
  row : ∀ n ∈ placement.row, n < UInt32.size
  column : ∀ n ∈ placement.column, n < UInt32.size
  width : ∀ n ∈ placement.width, n < UInt32.size
  height : ∀ n ∈ placement.height, n < UInt32.size

/-- The numbers of all placements of a dashboard fit into 32 bits. -/
def Dashboard.Fits (dashboard : Dashboard) : Prop :=
  ∀ placement ∈ dashboard.widgets, placement.Fits

/-- All numbers of a configuration fit into 32 bits. -/
def Fits (config : Config) : Prop :=
  ∀ name dashboard, config.dashboards.get? name = some dashboard → dashboard.Fits

/-! ## What is read -/

/-- A text leaves a record as it should be if it does not matter which text it is. -/
theorem gives_textField {ρ : Type} {P : ρ → Prop} {name : String} {put : ρ → Option String → ρ}
    (hput : ∀ record text, P record → P (put record text)) (record : ρ) (hrecord : P record) :
    Decoder.Gives P ((textField name put).read record) :=
  gives_plain gives_true (fun record text h _ => hput record text h) record hrecord

/-- A section leaves a configuration as it should be if what it holds does. -/
theorem gives_sectionField {α : Type} {P : Config → Prop} {Q : α → Prop} (name : String)
    {decode : Decoder α} {put : Config → Table α → Config} (h : Decoder.Gives Q decode)
    (hput : ∀ config table, P config → (∀ name record, table.get? name = some record → Q record) →
      P (put config table)) (config : Config) (hconfig : P config) :
    Decoder.Gives P ((sectionField name decode put).read config) :=
  gives_plain (h.table.orDefault nofun) hput config hconfig

/-- The numbers of a placement that is read fit into 32 bits. -/
theorem Placement.gives_decode : Decoder.Gives Placement.Fits Placement.decode := by
  refine gives_record (fun field hfield => ?_) ⟨nofun, nofun, nofun, nofun⟩
  have hnumber := gives_unsigned32.optional
  simp only [Placement.fields, List.mem_cons, List.not_mem_nil, or_false] at hfield
  rcases hfield with rfl | rfl | rfl | rfl | rfl | rfl
  · exact gives_plain gives_true fun _ _ h _ => ⟨h.row, h.column, h.width, h.height⟩
  · exact gives_textField fun _ _ h => ⟨h.row, h.column, h.width, h.height⟩
  · exact gives_plain hnumber fun _ _ h hn => ⟨hn, h.column, h.width, h.height⟩
  · exact gives_plain hnumber fun _ _ h hn => ⟨h.row, hn, h.width, h.height⟩
  · exact gives_plain hnumber fun _ _ h hn => ⟨h.row, h.column, hn, h.height⟩
  · exact gives_plain hnumber fun _ _ h hn => ⟨h.row, h.column, h.width, hn⟩

/-- The numbers of a dashboard that is read fit into 32 bits. -/
theorem Dashboard.gives_decode : Decoder.Gives Dashboard.Fits Dashboard.decode := by
  refine gives_record (fun field hfield => ?_) (List.forall_mem_nil _)
  simp only [Dashboard.fields, List.mem_cons, List.not_mem_nil, or_false] at hfield
  rcases hfield with rfl | rfl
  · exact gives_textField fun _ _ h => h
  · have hwidgets := Placement.gives_decode.sequence.orDefault (List.forall_mem_nil _)
    exact gives_plain hwidgets fun _ _ _ h => h

/-- All numbers of a configuration that is read fit into 32 bits. -/
theorem gives_decode : Decoder.Gives Fits decode := by
  refine gives_record (fun field hfield => ?_) nofun
  simp only [fields, List.mem_cons, List.not_mem_nil, or_false] at hfield
  rcases hfield with rfl | rfl | rfl | rfl | rfl | rfl
  · exact gives_sectionField "filters" gives_true fun _ _ h _ => h
  · exact gives_sectionField "output-selections" gives_true fun _ _ h _ => h
  · exact gives_sectionField "displays" gives_true fun _ _ h _ => h
  · exact gives_sectionField "queries" gives_true fun _ _ h _ => h
  · exact gives_sectionField "widgets" gives_true fun _ _ h _ => h
  · exact gives_sectionField "dashboards" Dashboard.gives_decode fun _ _ _ h => h

/-- All numbers of a configuration that a text declares fit into 32 bits. -/
theorem fits_of_ofText {text : String} {config : Config} (h : ofText text = .ok config) :
    config.Fits := by
  refine (gives_decode.orDefault ?_).read ?_ h
  · exact fun _ _ hnone => nomatch hnone
  · rintro _ ⟨⟩
    exact fun _ _ hnone => nomatch hnone

end Config

end Dashboards
