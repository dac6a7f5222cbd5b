import Dashboards.Files
import Dashboards.Proofs.Config.Numbers
import Dashboards.Proofs.Document.Dashboards

/-!
# What documents declare

A document declares a configuration, a blank one the empty configuration (`Config.declared?`). The
dashboards of a document that is loaded are those of its configuration (`exists_declared_of_load`),
and all numbers in them fit into 32 bits (`fits_of_load`).
-/

namespace Dashboards

/-- The configuration that a document declares. A blank one declares nothing. -/
def Config.declared? (text : String) : Option Config :=
  if Text.isBlankText text then some {} else (Config.ofText text).toOption

/-- All numbers of a configuration that a document declares fit into 32 bits. -/
theorem Config.fits_of_declared? {text : String} {config : Config}
    (h : declared? text = some config) : config.Fits := by
  rw [declared?] at h
  split at h
  · cases h
    exact fun _ _ hnone => nomatch hnone
  · exact fits_of_ofText (toOption_eq_some_iff.1 h)

/-- The place of a placement whose numbers fit fits. -/
theorem Config.Placement.Fits.layout {placement : Config.Placement} (h : placement.Fits)
    {layout : Layout} (hlayout : Config.layout? placement = some layout) : layout.Fits := by
  simp only [Config.layout?, Option.bind_eq_bind, Option.bind_eq_some_iff, Option.pure_def,
    Option.some.injEq] at hlayout
  obtain ⟨row, hrow, column, hcolumn, width, hwidth, height, hheight, rfl⟩ := hlayout
  exact ⟨h.row row hrow, h.column column hcolumn, h.width width hwidth, h.height height hheight⟩

/-- The widgets of a dashboard that is declared fit if its numbers do. -/
theorem Config.Dashboard.Fits.widgets {config : Config} {name : String}
    {declared : Config.Dashboard} (h : declared.Fits) {dashboard : Dashboards.Dashboard}
    (hdashboard : config.dashboard? name declared = some dashboard) :
    ∀ widget ∈ dashboard.widgets, widget.layout.Fits := by
  simp only [Config.dashboard?, Option.bind_eq_bind, Option.bind_eq_some_iff, Option.pure_def,
    Option.some.injEq] at hdashboard
  obtain ⟨title, -, widgets, hwidgets, rfl⟩ := hdashboard
  intro widget hwidget
  obtain ⟨placement, hplacement, hplaced⟩ :=
    forall₂_exists_of_mem_right (mapM_eq_some_iff.1 hwidgets) hwidget
  simp only [Config.widget?, Option.bind_eq_bind, Option.bind_eq_some_iff, Option.pure_def,
    Option.some.injEq] at hplaced
  obtain ⟨view, -, layout, hlayout, rfl⟩ := hplaced
  exact (h placement hplacement).layout hlayout

namespace Compiled

variable {files : Files} {path text : String} {compiled : Compiled}

/-- A document that compiles is the configuration that it declares, compiled. -/
theorem exists_declared_of_ofText (h : (ofText text).result = .ok compiled) :
    ∃ config, Config.declared? text = some config ∧ (ofConfig config).result = .ok compiled := by
  rw [ofText] at h
  rw [Config.declared?]
  split at h
  · next hblank =>
    rw [if_pos hblank]
    cases h
    exact ⟨{}, rfl, rfl⟩
  · next hblank =>
    rw [if_neg hblank]
    obtain ⟨config, hconfig, hcompiled⟩ := result_bind_eq_ok_iff.1 h
    exact ⟨config, toOption_eq_some_iff.2 (mapError_eq_ok_iff.1 hconfig), hcompiled⟩

/-- A document that is loaded is the text of a file that compiles. -/
theorem exists_text_of_load (h : (load files path).result = .ok compiled) :
    ∃ text, files path = .ok text ∧ (ofText text).result = .ok compiled := by
  obtain ⟨⟨⟩, -, h⟩ := result_bind_eq_ok_iff.1 h
  obtain ⟨text, htext, hcompiled⟩ := result_bind_eq_ok_iff.1 h
  exact ⟨text, mapError_eq_ok_iff.1 htext, hcompiled⟩

/-- The dashboards of a document that is loaded are those that it declares, in their order. -/
theorem exists_declared_of_load (h : (load files path).result = .ok compiled) :
    ∃ text config, files path = .ok text ∧ Config.declared? text = some config ∧
      config.dashboards? = some compiled.dashboards.entries := by
  obtain ⟨text, hfile, htext⟩ := exists_text_of_load h
  obtain ⟨config, hconfig, hcompiled⟩ := exists_declared_of_ofText htext
  exact ⟨text, config, hfile, hconfig, Dashboard.dashboards?_of_compile
    (faithful_of_ofConfig hcompiled) (ofConfig_eq_ok_iff.1 hcompiled).2.2.2.2.2⟩

/-- The places and the sizes of all widgets of a document that is loaded fit into 32 bits. -/
theorem fits_of_load (h : (load files path).result = .ok compiled) :
    ∀ dashboard ∈ compiled.dashboards.records, ∀ widget ∈ dashboard.widgets,
      widget.layout.Fits := by
  obtain ⟨text, config, -, hconfig, hdashboards⟩ := exists_declared_of_load h
  intro dashboard hmem
  obtain ⟨⟨name, _⟩, hentry, rfl⟩ := List.mem_map.1 hmem
  obtain ⟨⟨name', declared⟩, hdeclared, hmeans⟩ :=
    forall₂_exists_of_mem_right (mapM_eq_some_iff.1 hdashboards) hentry
  simp only [Option.bind_eq_bind, Option.bind_eq_some_iff, Option.pure_def, Option.some.injEq,
    Prod.mk.injEq] at hmeans
  obtain ⟨dashboard, hdashboard, -, rfl⟩ := hmeans
  have hfits := Config.fits_of_declared? hconfig name' declared
    ((Table.get?_eq_some_iff _).2 hdeclared)
  exact hfits.widgets hdashboard

end Compiled

end Dashboards
