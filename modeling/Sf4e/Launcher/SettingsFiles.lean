/-
# The two settings files

The overlay and the launcher read their files straight into the structures of their callers.
Where a member has a wrong type, or where the settings cannot be written again, the load fails
with the members before that already taken over.
-/
import Sf4e.Launcher.Persist
import Sf4e.Overlay.Prefs

namespace Sf4e
namespace Launcher

open Wire

/-- The files of the overlay and of the launcher are handled well: with `prefs` and `config` as
the two files, `data` and `held` as the structures before a load, and preferences `saved`. -/
structure SettingsFilesWell (table : Overlay.ValidEditions) (prefs : JsonFile)
    (data : Overlay.Data) (config : JsonFile) (held : Settings) (saved : Overlay.Data) :
    Prop where
  /-- A load of the preferences that fails changes nothing. -/
  prefsKept : (Overlay.load table prefs data).2 = false → (Overlay.load table prefs data).1 = data
  /-- Loaded preferences lie in the permitted range. -/
  prefsInRange : (Overlay.load table prefs data).2 = true →
    Overlay.clamp table (Overlay.load table prefs data).1 = (Overlay.load table prefs data).1
  /-- A load of the settings that fails changes nothing. -/
  settingsKept : (loadPersistedSettings config held).ok = false →
    (loadPersistedSettings config held).settings = held
  /-- Preferences that are saved, wherever the file can be opened, are loaded back, whatever the
  structure held. -/
  savedLoaded : ∀ file before, (Overlay.save table file saved).2 ≠ .failed →
    Overlay.load table (Overlay.save table file saved).1 before =
      (Overlay.clamp table saved, true)

/-- The files are handled well exactly if neither document says anything new before something
goes wrong, and the texts of the preferences that are saved are UTF-8. -/
theorem settingsFilesWell_iff {table : Overlay.ValidEditions} {prefs : JsonFile}
    {data : Overlay.Data} {config : JsonFile} {held : Settings} {saved : Overlay.Data} :
    SettingsFilesWell table prefs data config held saved ↔
      (∀ j, prefs.content = some (some j) → j.isObject = true →
        NothingNew (fun _ v => v) (Overlay.entries j) data) ∧
      (∀ j, config.content = some (some j) → NothingNewIn config j held) ∧
      ∀ s ∈ Overlay.texts saved, IsUtf8 s := by
  constructor
  · intro h
    exact ⟨Overlay.load_unchanged_iff.1 h.prefsKept,
      loadPersistedSettings_unchanged_iff.1 h.settingsKept, Overlay.load_save_iff.1 h.savedLoaded⟩
  · rintro ⟨hprefs, hconfig, hutf8⟩
    exact ⟨Overlay.load_unchanged_iff.2 hprefs, Overlay.clamp_load,
      loadPersistedSettings_unchanged_iff.2 hconfig, Overlay.load_save_iff.2 hutf8⟩

/-- A document with a stage and with a delay that is no number. -/
def wrongDelay : JsonFile where
  folder := true
  writable := true
  stored := some (some (.obj [("stageID", .int 5), ("host", .obj [("delay", .str [])])]))

/-- New settings. -/
def newSettings : Settings := SettingsField.fallback

/-- The stage is taken over although the load fails. -/
theorem not_settingsFilesWell_wrongDelay : ¬ SettingsFilesWell none wrongDelay Overlay.newData
    ⟨true, true, none⟩ newSettings Overlay.newData := by
  intro h
  have hstage : (5 : Int32) = 0 := congrFun (h.prefsKept rfl) .stageID
  exact absurd hstage (by decide)

end Launcher
end Sf4e
