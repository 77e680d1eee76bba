/-
# The settings of the launcher

`LoadPersistedSettings` and `SavePersistedSettings`.  A member that is missing is read as a
default.  What belonged to a room of an earlier run is dropped, addresses of brokers that are
gone are replaced, and when there was any of this the file is written again at once.
-/
import Sf4e.Update.DownloadUrl
import Sf4e.Wire.Record

namespace Sf4e
namespace Launcher

open Wire
open Relay (ascii)
open Update (stricmpEq)

/-! ## The structure -/

/-- The fields of `PersistedSettings`. -/
inductive SettingsField
  | displayName
  | inputDelay
  | sessionPort
  | ggpoPort
  | editionSelect
  | roundCount
  | roundTimeIntegral
  | useRelay
  | lastJoinHost
  | lastAdvertiseHost
  | simpleUi
  | defaultConnectMethod
  | relaySessionPort
  | brokerBaseUrl
  | relayRoomCode
  | relayHostSecret
deriving DecidableEq

namespace SettingsField

/-- The types of the fields. -/
def kind : SettingsField → Kind
  | .displayName => .text 31
  | .inputDelay | .editionSelect | .useRelay | .simpleUi | .defaultConnectMethod => .byte
  | .sessionPort | .ggpoPort | .relaySessionPort => .word
  | .roundCount | .roundTimeIntegral => .int
  | .lastJoinHost | .relayHostSecret => .text 127
  | .lastAdvertiseHost => .text 63
  | .brokerBaseUrl => .text 255
  | .relayRoomCode => .text 31

/-- `kDefaultBrokerBaseUrl`. -/
def kDefaultBrokerBaseUrl : String := "https://74-208-200-95.nip.io"

/-- A literal in an array. -/
def literal (room : ℕ) (s : String) : CString (room + 1) :=
  CString.copy (room + 1) (Nat.succ_pos room) (ascii s)

/-- The defaults for missing members; for the fields of a room, what they are cleared to. -/
def fallback : (f : SettingsField) → f.kind.Value
  | .displayName => literal 31 "Player"
  | .inputDelay => (2 : UInt8)
  | .sessionPort => (23456 : UInt16)
  | .ggpoPort => (23457 : UInt16)
  | .editionSelect => (1 : UInt8)
  | .roundCount => (3 : Int32)
  | .roundTimeIntegral => (99 : Int32)
  | .useRelay => (1 : UInt8)
  | .lastJoinHost => literal 127 ""
  | .lastAdvertiseHost => literal 63 ""
  | .simpleUi => (1 : UInt8)
  | .defaultConnectMethod => (1 : UInt8)
  | .relaySessionPort => (0 : UInt16)
  | .brokerBaseUrl => literal 255 kDefaultBrokerBaseUrl
  | .relayRoomCode => literal 31 ""
  | .relayHostSecret => literal 127 ""

end SettingsField

/-- `PersistedSettings`. -/
abbrev Settings := Record SettingsField.kind

/-- The address of the broker. -/
def brokerBaseUrl (settings : Settings) : Text := CString.bytes (settings .brokerBaseUrl)

/-- `BrokerUrlNeedsMigration`. -/
def brokerUrlNeedsMigration (brokerBaseUrl : Text) : Bool :=
  brokerBaseUrl ≠ [] &&
    ["http://150.136.121.155:8787", "http://150.136.121.155:8787/",
      "http://74.208.200.95:8787", "http://74.208.200.95:8787/"].any fun url =>
        stricmpEq brokerBaseUrl (ascii url)

/-- `ClearSessionRelayFields`. -/
def clearSessionRelayFields (settings : Settings) : Settings
  | .relayRoomCode => SettingsField.fallback .relayRoomCode
  | .relayHostSecret => SettingsField.fallback .relayHostSecret
  | .relaySessionPort => SettingsField.fallback .relaySessionPort
  | f => settings f

/-- `MigrateDeprecatedBrokerUrl`. -/
def migrateDeprecatedBrokerUrl (settings : Settings) : Settings :=
  if brokerUrlNeedsMigration (brokerBaseUrl settings) then
    clearSessionRelayFields
      (Function.update settings .brokerBaseUrl (SettingsField.fallback .brokerBaseUrl))
  else settings

/-! ## The file -/

/-- The members that `SavePersistedSettings` writes. -/
def settingsJson (settings : Settings) : Json :=
  let member (key : String) (f : SettingsField) := (key, f.kind.toJson (settings f))
  .obj [member "displayName" .displayName, member "inputDelay" .inputDelay,
    member "sessionPort" .sessionPort, member "ggpoPort" .ggpoPort,
    member "editionSelect" .editionSelect, member "roundCount" .roundCount,
    member "roundTimeIntegral" .roundTimeIntegral, member "useRelay" .useRelay,
    member "lastJoinHost" .lastJoinHost, member "lastAdvertiseHost" .lastAdvertiseHost,
    member "simpleUi" .simpleUi, member "defaultConnectMethod" .defaultConnectMethod,
    member "brokerBaseUrl" .brokerBaseUrl]

/-- `SavePersistedSettings`. -/
def savePersistedSettings (file : JsonFile) (settings : Settings) : JsonFile × Saved :=
  file.save (settingsJson settings)

/-- The members that `LoadPersistedSettings` reads, in this order. -/
def settingsTable : List (String × SettingsField) :=
  [("displayName", .displayName), ("inputDelay", .inputDelay), ("sessionPort", .sessionPort),
    ("ggpoPort", .ggpoPort), ("editionSelect", .editionSelect), ("roundCount", .roundCount),
    ("roundTimeIntegral", .roundTimeIntegral), ("useRelay", .useRelay),
    ("lastJoinHost", .lastJoinHost), ("lastAdvertiseHost", .lastAdvertiseHost),
    ("simpleUi", .simpleUi), ("defaultConnectMethod", .defaultConnectMethod),
    ("brokerBaseUrl", .brokerBaseUrl)]

/-- The members of a document. -/
def settingsEntries (j : Json) : List (Entry SettingsField) :=
  settingsTable.map fun m => ⟨j, m.1, m.2⟩

/-- The document has the member, and it is not empty. -/
def storedText (j : Json) (key : String) : Option Bool :=
  if j.contains key then (j.value Json.toText key []).map (· ≠ []) else some false

/-- `hadStoredRelay`. -/
def hadStoredRelay (j : Json) : Option Bool :=
  (storedText j "relayRoomCode").bind fun room =>
    if room then some true
    else (storedText j "relayHostSecret").bind fun secret =>
      if secret then some true
      else (j.value Kind.toInt32 "relaySessionPort" 0).map (· ≠ 0)

/-- The file, the settings and the result of a load. -/
structure SettingsLoad where
  file : JsonFile
  settings : Settings
  ok : Bool

/-- The end of `LoadPersistedSettings`. -/
def resave (file : JsonFile) (settings : Settings) (hadRelay : Bool) : SettingsLoad :=
  let cleared := clearSessionRelayFields settings
  let migrated := migrateDeprecatedBrokerUrl cleared
  if brokerUrlNeedsMigration (brokerBaseUrl cleared) || hadRelay then
    match savePersistedSettings file migrated with
    | (file, .threw) => ⟨file, migrated, false⟩
    | (file, _) => ⟨file, migrated, true⟩
  else ⟨file, migrated, true⟩

/-- `LoadPersistedSettings`. -/
def loadPersistedSettings (file : JsonFile) (out : Settings) : SettingsLoad :=
  match file.content with
  | some (some j) =>
    match readAll (fun f _ => f.fallback) (settingsEntries j) out with
    | (settings, false) => ⟨file, settings, false⟩
    | (settings, true) =>
      match hadStoredRelay j with
      | none => ⟨file, settings, false⟩
      | some hadRelay => resave file settings hadRelay
  | _ => ⟨file, out, false⟩

/-! ## What a document says -/

/-- Every member has the type of its field. -/
def WellTyped (j : Json) : Prop :=
  ∀ e ∈ settingsEntries j, ¬ e.IllTyped SettingsField.kind

/-- What a document says about a field, with the defaults, and nothing about a room. -/
def said (j : Json) : Settings := fun f =>
  match settingsTable.find? fun m => m.2 = f with
  | some m => (j.value f.kind.get m.1 f.fallback).getD f.fallback
  | none => f.fallback

/-- The texts of the settings that are written. -/
def settingsTexts (settings : Settings) : List Text :=
  [CString.bytes (settings .displayName), CString.bytes (settings .lastJoinHost),
    CString.bytes (settings .lastAdvertiseHost), brokerBaseUrl settings]

/-- The document tells the structure nothing new before something goes wrong. -/
structure NothingNewIn (file : JsonFile) (j : Json) (out : Settings) : Prop where
  /-- Nothing before the first ill-typed member. -/
  members : NothingNew (fun f _ => f.fallback) (settingsEntries j) out
  /-- Nothing at all, if a member about a room has the wrong type. -/
  room : WellTyped j → hadStoredRelay j = none →
    ∀ e ∈ settingsEntries j, e.Holds (fun f _ => f.fallback) out
  /-- Nothing at all, if the file cannot be written again. -/
  written : ∀ hadRelay, WellTyped j → hadStoredRelay j = some hadRelay →
    (brokerUrlNeedsMigration (brokerBaseUrl (said j)) || hadRelay) = true →
    file.folder ∧ file.writable →
    ¬ (∀ s ∈ settingsTexts (migrateDeprecatedBrokerUrl (said j)), IsUtf8 s) →
    migrateDeprecatedBrokerUrl (said j) = out

lemma strings_settingsJson (settings : Settings) :
    (settingsJson settings).strings = settingsTexts settings := rfl

/-- Settings in UTF-8 are written. -/
lemma savePersistedSettings_done {file : JsonFile} {settings : Settings}
    (hopen : file.folder ∧ file.writable) (hutf8 : ∀ s ∈ settingsTexts settings, IsUtf8 s) :
    savePersistedSettings file settings =
      ({ file with stored := some (some (settingsJson settings)) }, .done) :=
  JsonFile.save_done hopen hutf8

/-- Settings that are no UTF-8 empty the file. -/
lemma savePersistedSettings_threw {file : JsonFile} {settings : Settings}
    (hopen : file.folder ∧ file.writable) (hutf8 : ¬ ∀ s ∈ settingsTexts settings, IsUtf8 s) :
    savePersistedSettings file settings = ({ file with stored := some none }, .threw) :=
  JsonFile.save_threw hopen hutf8

lemma savePersistedSettings_failed {file : JsonFile} {settings : Settings}
    (hopen : ¬ (file.folder ∧ file.writable)) :
    savePersistedSettings file settings = (file, .failed) :=
  JsonFile.save_failed hopen

lemma nodup_settingsEntries (j : Json) : ((settingsEntries j).map Entry.field).Nodup := by
  rw [settingsEntries, List.map_map]
  show (settingsTable.map Prod.snd).Nodup
  decide

/-- What has been read, without what belongs to a room, is what the document says. -/
lemma clear_readAll {j : Json} (hj : WellTyped j) (out : Settings) :
    clearSessionRelayFields (readAll (fun f _ => f.fallback) (settingsEntries j) out).1 =
      said j := by
  have hread : ∀ m ∈ settingsTable, j.value m.2.kind.get m.1 m.2.fallback =
      some ((readAll (fun f _ => f.fallback) (settingsEntries j) out).1 m.2) := by
    have hmem : ∀ e ∈ settingsEntries j, e.read SettingsField.kind e.field.fallback =
        some ((readAll (fun f _ => f.fallback) (settingsEntries j) out).1 e.field) := by
      intro e he
      exact @readAll_of_mem _ _ _ (fun f _ => f.fallback) _ out (nodup_settingsEntries j) hj e he
    intro m hm
    exact hmem ⟨j, m.1, m.2⟩ (List.mem_map_of_mem hm)
  have hfield : ∀ (f : SettingsField) (m : String × SettingsField),
      settingsTable.find? (fun m => m.2 = f) = some m →
      (readAll (fun f _ => f.fallback) (settingsEntries j) out).1 f =
        (j.value f.kind.get m.1 f.fallback).getD f.fallback := by
    intro f m hm
    have hf : m.2 = f := by simpa using List.find?_some hm
    have hmem := hread m (List.mem_of_find?_eq_some hm)
    subst hf
    rw [hmem]
    rfl
  funext f
  cases f with
  | relaySessionPort | relayRoomCode | relayHostSecret => rfl
  | displayName => exact hfield .displayName _ rfl
  | inputDelay => exact hfield .inputDelay _ rfl
  | sessionPort => exact hfield .sessionPort _ rfl
  | ggpoPort => exact hfield .ggpoPort _ rfl
  | editionSelect => exact hfield .editionSelect _ rfl
  | roundCount => exact hfield .roundCount _ rfl
  | roundTimeIntegral => exact hfield .roundTimeIntegral _ rfl
  | useRelay => exact hfield .useRelay _ rfl
  | lastJoinHost => exact hfield .lastJoinHost _ rfl
  | lastAdvertiseHost => exact hfield .lastAdvertiseHost _ rfl
  | simpleUi => exact hfield .simpleUi _ rfl
  | defaultConnectMethod => exact hfield .defaultConnectMethod _ rfl
  | brokerBaseUrl => exact hfield .brokerBaseUrl _ rfl

/-! ## Loads that fail -/

section resave

variable {file : JsonFile} {settings : Settings} {hadRelay : Bool}

/-- The settings at the end of a load. -/
lemma resave_settings : (resave file settings hadRelay).settings =
    migrateDeprecatedBrokerUrl (clearSessionRelayFields settings) := by
  rw [resave]
  split
  · split <;> rfl
  · rfl

/-- A load fails at its end exactly if the file is opened and cannot be written again. -/
lemma resave_ok_eq_false_iff : (resave file settings hadRelay).ok = false ↔
    (brokerUrlNeedsMigration (brokerBaseUrl (clearSessionRelayFields settings)) ||
      hadRelay) = true ∧ (file.folder ∧ file.writable) ∧
    ¬ ∀ s ∈ settingsTexts (migrateDeprecatedBrokerUrl (clearSessionRelayFields settings)),
      IsUtf8 s := by
  rw [resave]
  by_cases hagain : (brokerUrlNeedsMigration
      (brokerBaseUrl (clearSessionRelayFields settings)) || hadRelay) = true
  · rw [if_pos hagain]
    by_cases hopen : file.folder ∧ file.writable
    · by_cases hutf8 : ∀ s ∈ settingsTexts
          (migrateDeprecatedBrokerUrl (clearSessionRelayFields settings)), IsUtf8 s
      · rw [savePersistedSettings_done hopen hutf8]
        exact ⟨fun h => absurd h.symm Bool.false_ne_true, fun h => absurd hutf8 h.2.2⟩
      · rw [savePersistedSettings_threw hopen hutf8]
        exact ⟨fun _ => ⟨hagain, hopen, hutf8⟩, fun _ => rfl⟩
    · rw [savePersistedSettings_failed hopen]
      exact ⟨fun h => absurd h.symm Bool.false_ne_true, fun h => absurd h.2.1 hopen⟩
  · rw [if_neg hagain]
    exact ⟨fun h => absurd h.symm Bool.false_ne_true, fun h => absurd h.1 hagain⟩

end resave

section load

variable {file : JsonFile} {out : Settings}

/-- A load that fails leaves the settings as they were exactly if the document tells nothing new
before something goes wrong. -/
theorem loadPersistedSettings_unchanged_iff :
    ((loadPersistedSettings file out).ok = false →
      (loadPersistedSettings file out).settings = out) ↔
      ∀ j, file.content = some (some j) → NothingNewIn file j out := by
  rcases hcontent : file.content with _ | _ | j
  · rw [loadPersistedSettings, hcontent]
    exact ⟨fun _ j hj => absurd hj (by simp), fun _ _ => rfl⟩
  · rw [loadPersistedSettings, hcontent]
    exact ⟨fun _ j hj => absurd hj (by simp), fun _ _ => rfl⟩
  have honly : (∀ j', some (some j) = some (some j') → NothingNewIn file j' out) ↔
      NothingNewIn file j out := by
    constructor
    · exact fun h => h j rfl
    · rintro h j' hj'
      rwa [← Option.some.inj (Option.some.inj hj')]
  rw [honly]
  have hunchanged : ((readAll (fun f _ => f.fallback) (settingsEntries j) out).2 = false →
      (readAll (fun f _ => f.fallback) (settingsEntries j) out).1 = out) ↔
        NothingNew (fun f _ => f.fallback) (settingsEntries j) out :=
    readAll_unchanged_iff (nodup_settingsEntries j)
  have hwell : (readAll (fun f _ => f.fallback) (settingsEntries j) out).2 = true ↔ WellTyped j :=
    readAll_snd_eq_true_iff
  rcases hread : readAll (fun f _ => f.fallback) (settingsEntries j) out with ⟨settings, ok⟩
  rw [hread] at hunchanged hwell
  cases ok with
  | false =>
    -- an ill-typed member ends the reading
    have hill : ¬ WellTyped j := fun h => absurd (hwell.2 h) Bool.false_ne_true
    rw [loadPersistedSettings, hcontent]
    dsimp only
    rw [hread]
    constructor
    · intro h
      exact ⟨hunchanged.1 h, fun hj => absurd hj hill, fun _ hj => absurd hj hill⟩
    · intro h
      exact hunchanged.2 h.members
  | true =>
    have hj : WellTyped j := hwell.1 rfl
    have hnew : NothingNew (fun f _ => f.fallback) (settingsEntries j) out :=
      hunchanged.1 fun h => absurd h.symm Bool.false_ne_true
    have hsame : settings = out ↔
        ∀ e ∈ settingsEntries j, e.Holds (fun f _ => f.fallback) out := by
      rw [← readAll_fst_eq_self_iff (nodup_settingsEntries j) hj, hread]
    have hsaid : clearSessionRelayFields settings = said j := by
      rw [← clear_readAll hj out, hread]
    cases hrelay : hadStoredRelay j with
    | none =>
      rw [loadPersistedSettings, hcontent]
      dsimp only
      rw [hread]
      dsimp only
      rw [hrelay]
      constructor
      · intro h
        refine ⟨hnew, fun _ _ => hsame.1 (h rfl), fun hadRelay _ hsome => ?_⟩
        exact absurd (hrelay.symm.trans hsome) (Option.some_ne_none hadRelay).symm
      · intro h _
        exact hsame.2 (h.room hj hrelay)
    | some hadRelay =>
      have hend : loadPersistedSettings file out = resave file settings hadRelay := by
        rw [loadPersistedSettings, hcontent]
        dsimp only
        rw [hread]
        dsimp only
        rw [hrelay]
      rw [hend, resave_ok_eq_false_iff, resave_settings, hsaid]
      constructor
      · intro h
        refine ⟨hnew, fun _ hnone => ?_, fun hadRelay' _ hsome hagain hopen hutf8 => ?_⟩
        · exact absurd (hrelay.symm.trans hnone) (Option.some_ne_none hadRelay)
        · obtain rfl := Option.some.inj (hrelay.symm.trans hsome)
          exact h ⟨hagain, hopen, hutf8⟩
      · rintro h ⟨hagain, hopen, hutf8⟩
        exact h.written hadRelay hj hrelay hagain hopen hutf8

end load

end Launcher
end Sf4e
