/-
# Display names on their way to JSON

A name is entered as UTF-8 of any length.  The launcher copies it into a `char[32]` of the
settings, and from there into the configuration of the sidecar, whose session client sends it in
its join request; the overlay keeps its two names in arrays of the same size.  `strncpy_s` cuts
by bytes: a character that straddles the limit is cut in two, and whatever is serialised with
such a name throws.  The two files are opened, and so emptied, before that.
-/
import Sf4e.Launcher.SettingsFiles
import Sf4e.Update.Apply

namespace Sf4e
namespace Launcher

open Wire
open Relay (ascii)

/-! ## The ways of a name -/

lemma nameSize_pos : 0 < 32 := Nat.succ_pos _

/-- A name in a `char[32]`. -/
def nameBuffer (name : Text) : CString 32 := CString.copy 32 nameSize_pos name

/-- The settings behind `start`. -/
def startSettings (settings : Settings) (name : Text) : Settings :=
  Function.update settings .displayName (nameBuffer name)

/-- The settings behind `offlineStart`. -/
def offlineStartSettings (settings : Settings) (name : Text) : Settings :=
  startSettings settings (if name = [] then ascii "Offline Tester" else name)

/-- The name in the configuration of the sidecar. -/
def configName (settings : Settings) : CString 32 :=
  nameBuffer (CString.bytes (settings .displayName))

/-- The name of the session client, from the configuration. -/
def sessionName (config : CString 32) : Text :=
  if config.bytes = [] then ascii "Player" else config.bytes

/-- The preferences with a name in the panel of the host. -/
def enterHostName (prefs : Overlay.Data) (name : Text) : Overlay.Data :=
  Function.update prefs .hostName (nameBuffer name)

/-- The preferences with a name in the panel for joining. -/
def enterJoinName (prefs : Overlay.Data) (name : Text) : Overlay.Data :=
  Function.update prefs .joinName (nameBuffer name)

/-- The join request of a session client. -/
def joinRequest (sidecarHash : Vector UInt8 32) (username : Text) (port : UInt16) : Json :=
  .obj [("type", .str (ascii "join_req")), ("sidecarHash", .str (Update.hex sidecarHash)),
    ("username", .str username), ("port", .int port.toNat)]

/-! ## The property -/

/-- A save that does not succeed leaves the file as it was. -/
def Intact (file : JsonFile) (result : JsonFile × Saved) : Prop :=
  result.2 ≠ .done → result.1 = file

/-- The name arrives everywhere: in settings and preferences with other texts, in the
configuration, and in the join requests. -/
structure NameArrives (table : Overlay.ValidEditions) (sidecarHash : Vector UInt8 32)
    (port : UInt16) (settings : Settings) (prefs : Overlay.Data) (name : Text) : Prop where
  /-- What the arrays keep is UTF-8. -/
  settingsKept : IsUtf8 (CString.bytes (startSettings settings name .displayName))
  offlineKept : IsUtf8 (CString.bytes (offlineStartSettings settings name .displayName))
  configKept : IsUtf8 (configName (startSettings settings name)).bytes
  hostKept : IsUtf8 (CString.bytes (enterHostName prefs name .hostName))
  joinKept : IsUtf8 (CString.bytes (enterJoinName prefs name .joinName))
  /-- The join requests are serialised. -/
  requestSent :
    (joinRequest sidecarHash (sessionName (configName (startSettings settings name)))
      port).dump ≠ none
  overlayRequestSent :
    (joinRequest sidecarHash (CString.bytes (enterHostName prefs name .hostName))
      port).dump ≠ none
  /-- The files are serialised. -/
  settingsSaved : ∀ file, (savePersistedSettings file (startSettings settings name)).2 ≠ .threw
  offlineSaved :
    ∀ file, (savePersistedSettings file (offlineStartSettings settings name)).2 ≠ .threw
  hostSaved : ∀ file, (Overlay.save table file (enterHostName prefs name)).2 ≠ .threw
  joinSaved : ∀ file, (Overlay.save table file (enterJoinName prefs name)).2 ≠ .threw
  /-- A save that fails leaves the file as it was. -/
  settingsIntact :
    ∀ file, Intact file (savePersistedSettings file (startSettings settings name))
  prefsIntact : ∀ file, Intact file (Overlay.save table file (enterHostName prefs name))

/-- The bytes before the terminator, up to the limit of the arrays, end behind a character. -/
def CutBetween (cs : List Char) : Prop :=
  (utf8 (cs.takeWhile (· ≠ nul))).length ≤ 31 ∨ Boundary 31 (cs.takeWhile (· ≠ nul))

/-- Thirty letters and an accented one, which the limit of 31 bytes cuts in two. -/
def accentedName : List Char := List.replicate 30 (Char.ofNat 97) ++ [Char.ofNat 233]

/-- The texts beside the name are UTF-8. -/
def OthersUtf8 (settings : Settings) (prefs : Overlay.Data) : Prop :=
  (IsUtf8 (CString.bytes (settings .lastJoinHost)) ∧
    IsUtf8 (CString.bytes (settings .lastAdvertiseHost)) ∧ IsUtf8 (brokerBaseUrl settings)) ∧
  ∀ s ∈ Overlay.texts prefs, IsUtf8 s

/-! ## Where the name arrives -/

section ways

variable {table : Overlay.ValidEditions} {settings : Settings} {prefs : Overlay.Data} {name : Text}

/-- The digits of a digest are ASCII. -/
lemma isUtf8_hex (digest : Vector UInt8 32) : IsUtf8 (Update.hex digest) := by
  have hdigit : ∀ n : UInt8, n.toNat < 16 → (Update.hexDigit n).toNat < 128 := by
    intro n hn
    rw [Update.hexDigit]
    split
    · rw [UInt8.toNat_add, show (48 : UInt8).toNat = 48 from rfl]
      omega
    · rw [UInt8.toNat_add, show (87 : UInt8).toNat = 87 from rfl]
      omega
  refine isUtf8_of_ascii (List.all_eq_true.2 fun b hb => decide_eq_true ?_)
  rw [Update.hex, List.mem_flatMap] at hb
  obtain ⟨d, -, hd⟩ := hb
  simp only [List.mem_cons, List.not_mem_nil, or_false] at hd
  have hlt := d.toNat_lt
  obtain rfl | rfl := hd
  · refine hdigit _ ?_
    rw [UInt8.toNat_div, show (16 : UInt8).toNat = 16 from rfl]
    omega
  · refine hdigit _ ?_
    rw [UInt8.toNat_mod, show (16 : UInt8).toNat = 16 from rfl]
    omega

/-- An array keeps a name in UTF-8 exactly if the name is cut between two characters. -/
lemma isUtf8_nameBuffer_iff {cs : List Char} :
    IsUtf8 (nameBuffer (utf8 cs)).bytes ↔ CutBetween cs := isUtf8_truncate_iff

/-- The limit cuts the accented letter. -/
lemma not_cutBetween_accented : ¬ CutBetween accentedName := by
  have hchars : accentedName.takeWhile (· ≠ nul) = accentedName := by decide
  have hlength : (utf8 accentedName).length = 32 := by decide
  rw [CutBetween, hchars, hlength]
  rintro (h | ⟨k, hk⟩)
  · omega
  · by_cases hlong : 31 ≤ k
    · rw [List.take_of_length_le hlong, hlength] at hk
      omega
    · have hletters : accentedName.take k = List.replicate k (Char.ofNat 97) := by
        rw [accentedName, List.take_append_of_le_length (by rw [List.length_replicate]; omega),
          List.take_replicate, min_eq_left (by omega)]
      have hbytes : ∀ n, (utf8 (List.replicate n (Char.ofNat 97))).length = n := by
        intro n
        induction n with
        | zero => rfl
        | succ n ih =>
          rw [List.replicate_succ, utf8_cons, List.length_append, ih, Nat.add_comm]
          rfl
      rw [hletters, hbytes] at hk
      omega

/-- The configuration has the same name as the settings. -/
lemma configName_startSettings : configName (startSettings settings name) = nameBuffer name := by
  show nameBuffer (nameBuffer name).bytes = nameBuffer name
  exact CString.copy_bytes_self _ _

/-- The name of the session client is UTF-8 if the one of the configuration is. -/
lemma isUtf8_sessionName {config : CString 32} (h : IsUtf8 config.bytes) :
    IsUtf8 (sessionName config) := by
  rw [sessionName]
  split
  · exact isUtf8_of_ascii (by decide)
  · exact h

/-- A join request with a name in UTF-8 is serialised. -/
lemma dump_joinRequest {sidecarHash : Vector UInt8 32} {port : UInt16} (h : IsUtf8 name) :
    (joinRequest sidecarHash name port).dump ≠ none := by
  have hutf8 : ∀ s ∈ (joinRequest sidecarHash name port).strings, IsUtf8 s := by
    show ∀ s ∈ [ascii "join_req", Update.hex sidecarHash, name], IsUtf8 s
    simp only [List.forall_mem_cons, List.not_mem_nil, false_implies, implies_true, and_true]
    exact ⟨isUtf8_of_ascii (by decide), isUtf8_hex sidecarHash, h⟩
  rw [Json.dump_eq_some hutf8]
  exact Option.some_ne_none _

/-- The texts of settings with a name. -/
lemma texts_startSettings : (∀ s ∈ settingsTexts (startSettings settings name), IsUtf8 s) ↔
    IsUtf8 (nameBuffer name).bytes ∧ IsUtf8 (CString.bytes (settings .lastJoinHost)) ∧
      IsUtf8 (CString.bytes (settings .lastAdvertiseHost)) ∧ IsUtf8 (brokerBaseUrl settings) := by
  show (∀ s ∈ [(nameBuffer name).bytes, CString.bytes (settings .lastJoinHost),
    CString.bytes (settings .lastAdvertiseHost), brokerBaseUrl settings], IsUtf8 s) ↔ _
  simp only [List.forall_mem_cons, List.not_mem_nil, false_implies, implies_true, and_true]

/-- The texts of preferences with a name of the host. -/
lemma texts_enterHostName : (∀ s ∈ Overlay.texts (enterHostName prefs name), IsUtf8 s) ↔
    IsUtf8 (nameBuffer name).bytes ∧ IsUtf8 (CString.bytes (prefs .joinName)) ∧
      IsUtf8 (CString.bytes (prefs .joinAddr)) := by
  show (∀ s ∈ [(nameBuffer name).bytes, CString.bytes (prefs .joinName),
    CString.bytes (prefs .joinAddr)], IsUtf8 s) ↔ _
  simp only [List.forall_mem_cons, List.not_mem_nil, false_implies, implies_true, and_true]

/-- The texts of preferences with a name for joining. -/
lemma texts_enterJoinName : (∀ s ∈ Overlay.texts (enterJoinName prefs name), IsUtf8 s) ↔
    IsUtf8 (CString.bytes (prefs .hostName)) ∧ IsUtf8 (nameBuffer name).bytes ∧
      IsUtf8 (CString.bytes (prefs .joinAddr)) := by
  show (∀ s ∈ [CString.bytes (prefs .hostName), (nameBuffer name).bytes,
    CString.bytes (prefs .joinAddr)], IsUtf8 s) ↔ _
  simp only [List.forall_mem_cons, List.not_mem_nil, false_implies, implies_true, and_true]

/-- An offline start has the name, or a name of its own. -/
lemma isUtf8_offlineName (h : IsUtf8 (nameBuffer name).bytes) :
    IsUtf8 (nameBuffer (if name = [] then ascii "Offline Tester" else name)).bytes := by
  split
  · exact isUtf8_of_ascii (by decide)
  · exact h

end ways

/-! ## The result -/

/-- The name arrives everywhere exactly if it is cut between two characters, and the other texts
that are saved with it are UTF-8. -/
theorem nameArrives_iff {table : Overlay.ValidEditions} {sidecarHash : Vector UInt8 32}
    {port : UInt16} {settings : Settings} {prefs : Overlay.Data} {cs : List Char} :
    NameArrives table sidecarHash port settings prefs (utf8 cs) ↔
      CutBetween cs ∧ OthersUtf8 settings prefs := by
  constructor
  · intro h
    have hsettings := texts_startSettings.1 (JsonFile.save_ne_threw_iff.1 h.settingsSaved)
    have hhost := texts_enterHostName.1 (JsonFile.save_ne_threw_iff.1 h.hostSaved)
    have hjoin := texts_enterJoinName.1 (JsonFile.save_ne_threw_iff.1 h.joinSaved)
    refine ⟨isUtf8_nameBuffer_iff.1 hsettings.1, hsettings.2, ?_⟩
    simp only [Overlay.texts, List.forall_mem_cons, List.not_mem_nil, false_implies,
      implies_true, and_true]
    exact ⟨hjoin.1, hhost.2⟩
  · rintro ⟨hcut, hothers, hprefs⟩
    have hname : IsUtf8 (nameBuffer (utf8 cs)).bytes := isUtf8_nameBuffer_iff.2 hcut
    have hoffline := isUtf8_offlineName hname
    simp only [Overlay.texts, List.forall_mem_cons, List.not_mem_nil, false_implies,
      implies_true, and_true] at hprefs
    have hsettings := texts_startSettings.2 ⟨hname, hothers⟩
    have hofflineSettings := texts_startSettings.2 ⟨hoffline, hothers⟩
    have hhost := texts_enterHostName.2 ⟨hname, hprefs.2⟩
    have hjoin := texts_enterJoinName.2 ⟨hprefs.1, hname, hprefs.2.2⟩
    have hconfig : IsUtf8 (configName (startSettings settings (utf8 cs))).bytes := by
      rwa [configName_startSettings]
    exact {
      settingsKept := hname
      offlineKept := hoffline
      configKept := hconfig
      hostKept := hname
      joinKept := hname
      requestSent := dump_joinRequest (isUtf8_sessionName hconfig)
      overlayRequestSent := dump_joinRequest hname
      settingsSaved := JsonFile.save_ne_threw_iff.2 hsettings
      offlineSaved := JsonFile.save_ne_threw_iff.2 hofflineSettings
      hostSaved := JsonFile.save_ne_threw_iff.2 hhost
      joinSaved := JsonFile.save_ne_threw_iff.2 hjoin
      settingsIntact := fun file => JsonFile.save_intact hsettings
      prefsIntact := fun file => JsonFile.save_intact hhost }

/-- A name that is cut inside its last letter empties the file of the settings. -/
theorem not_nameArrives_accented : ¬ NameArrives none (Vector.replicate 32 0) 23457 newSettings
    Overlay.newData (utf8 accentedName) := by
  intro h
  exact not_cutBetween_accented (isUtf8_nameBuffer_iff.1 h.settingsKept)

end Launcher
end Sf4e
