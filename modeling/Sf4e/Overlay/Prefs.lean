/-
# The preferences of the overlay

`OverlayPrefs::Data` and the file it is kept in.  `Load` reads the members of the file straight
into the structure of the caller and clamps at the end; `Save` clamps a copy, builds the JSON
value, opens the file, which empties it, and serialises.  The structure is a record over its
fields, and the two functions are translated as two tables of keys and fields: the one that is
read (`loadTable`) and the one that is written (`toJson`).
-/
import Mathlib.Data.List.Flatten
import Sf4e.Wire.Record

namespace Sf4e
namespace Overlay

open Wire

/-! ## The structure -/

/-- The fields of `CharaPick`. -/
inductive CharaField
  | charaID
  | costume
  | color
  | personalAction
  | winQuote
  | ultraCombo
  | handicap
  | uncEdition
deriving DecidableEq

/-- The fields of `Data`. -/
inductive Field
  | lobby (c : CharaField)
  | stageID
  | hostDelay
  | hostName
  | hostPort
  | hostGgpoPort
  | hostRoundCountIdx
  | hostRoundTimeIdx
  | hostEditionSelect
  | joinDelay
  | joinGgpoPort
  | joinName
  | joinAddr
  | mainMenuShouldJump
  | mainMenuJumpStageID
  | mainMenuP1 (c : CharaField)
  | mainMenuP2 (c : CharaField)
  | mainMenuRoundCountIdx
  | mainMenuRoundTimeIdx
  | mainMenuEditionSelect
  | showCharaWindow
  | showCommandWindow
  | showDemoWindow
  | showEventWindow
  | showGfxappWindow
  | showHelpWindow
  | showHudWindow
  | showLogWindow
  | showMainMenuWindow
  | showMementoWindow
  | showNetworkWindow
  | showPadWindow
  | showSoundWindow
  | showSystemWindow
  | showTaskWindow
  | showVfxWindow
  | showVsbattleWindow
  | showVscharaselectWindow
  | showVsstageselectWindow
  | verboseLogging
  | networkDebug
  | trackSoundRequests
  | usePureSounds
  | soundShowDetails
  | blockBattleInit
  | blockBattleTermination
  | forceNextMatchOnline
  | terminateOnNextLeftBattle
  | overrideNextRandomSeed
  | nextMatchRandomSeed
  | forceTimerOnNextStageSelect
  | randomizeLocalInputsEveryXFrames
  | extraFramesToSimulate
  | deviceIdx
  | deviceType
deriving DecidableEq

/-- The types of the fields. -/
def Field.kind : Field → Kind
  | .lobby _ | .mainMenuP1 _ | .mainMenuP2 _ => .byte
  | .hostDelay | .joinDelay | .deviceIdx | .deviceType => .byte
  | .hostPort | .hostGgpoPort | .joinGgpoPort => .word
  | .stageID | .hostRoundCountIdx | .hostRoundTimeIdx => .int
  | .mainMenuJumpStageID | .mainMenuRoundCountIdx | .mainMenuRoundTimeIdx => .int
  | .randomizeLocalInputsEveryXFrames | .extraFramesToSimulate => .int
  | .nextMatchRandomSeed => .uint
  | .hostName | .joinName => .text 31
  | .joinAddr => .text 63
  | .hostEditionSelect | .mainMenuShouldJump | .mainMenuEditionSelect => .flag
  | .showCharaWindow | .showCommandWindow | .showDemoWindow | .showEventWindow
  | .showGfxappWindow | .showHelpWindow | .showHudWindow | .showLogWindow
  | .showMainMenuWindow | .showMementoWindow | .showNetworkWindow | .showPadWindow
  | .showSoundWindow | .showSystemWindow | .showTaskWindow | .showVfxWindow
  | .showVsbattleWindow | .showVscharaselectWindow | .showVsstageselectWindow => .flag
  | .verboseLogging | .networkDebug | .trackSoundRequests | .usePureSounds
  | .soundShowDetails | .blockBattleInit | .blockBattleTermination | .forceNextMatchOnline
  | .terminateOnNextLeftBattle | .overrideNextRandomSeed
  | .forceTimerOnNextStageSelect => .flag

/-- `Data`. -/
abbrev Data := Record Field.kind

/-- The values of a new `CharaPick`. -/
def newPick : CharaField → UInt8
  | .uncEdition => 14
  | _ => 0

/-- The values of a new `Data`. -/
def newData : Data
  | .lobby c | .mainMenuP1 c | .mainMenuP2 c => newPick c
  | .stageID | .mainMenuJumpStageID => (0 : Int32)
  | .hostDelay | .joinDelay => (1 : UInt8)
  | .hostName | .joinName => CString.copy 32 (Nat.succ_pos _) []
  | .joinAddr => CString.copy 64 (Nat.succ_pos _) []
  | .hostPort | .joinGgpoPort => (23456 : UInt16)
  | .hostGgpoPort => (23457 : UInt16)
  | .hostRoundCountIdx | .mainMenuRoundCountIdx => (1 : Int32)
  | .hostRoundTimeIdx | .mainMenuRoundTimeIdx => (2 : Int32)
  | .hostEditionSelect | .mainMenuEditionSelect | .usePureSounds => true
  | .nextMatchRandomSeed => (0 : UInt32)
  | .randomizeLocalInputsEveryXFrames => (0 : Int32)
  | .extraFramesToSimulate => (1 : Int32)
  | .deviceIdx | .deviceType => (0xff : UInt8)
  | .mainMenuShouldJump => false
  | .showCharaWindow | .showCommandWindow | .showDemoWindow | .showEventWindow
  | .showGfxappWindow | .showHelpWindow | .showHudWindow | .showLogWindow
  | .showMainMenuWindow | .showMementoWindow | .showNetworkWindow | .showPadWindow
  | .showSoundWindow | .showSystemWindow | .showTaskWindow | .showVfxWindow
  | .showVsbattleWindow | .showVscharaselectWindow | .showVsstageselectWindow => false
  | .verboseLogging | .networkDebug | .trackSoundRequests | .soundShowDetails
  | .blockBattleInit | .blockBattleTermination | .forceNextMatchOnline
  | .terminateOnNextLeftBattle | .overrideNextRandomSeed
  | .forceTimerOnNextStageSelect => false

/-! ## Clamping -/

/-- `orderedEditions`. -/
def orderedEditions : List UInt8 := [13, 1, 2, 0, 4, 14, 16]

/-- `validEditionsPerChara`: which of the editions a character has, in the memory of the game;
`none` before that is located. -/
abbrev ValidEditions := Option (UInt8 → ℕ → Bool)

/-- The editions of a character, in their order. -/
def editionsOf (table : ValidEditions) (charaID : UInt8) : List UInt8 :=
  match table with
  | none => []
  | some valid => (orderedEditions.zipIdx.filter fun e => valid charaID e.2).map Prod.fst

/-- The character of `ClampChara`. -/
def clampCharaID (charaID : UInt8) : UInt8 := if charaID ≥ 0x2c then 0 else charaID

/-- The edition of `ClampChara`: the first one of the character, or `ED_USF4`, in place of one
that the character does not have. -/
def clampEdition (table : ValidEditions) (charaID edition : UInt8) : UInt8 :=
  if edition ∈ editionsOf table charaID then edition else (editionsOf table charaID).headD 14

/-- `ClampChara`. -/
def clampChara (table : ValidEditions) (pick : CharaField → UInt8) : CharaField → UInt8
  | .charaID => clampCharaID (pick .charaID)
  | .uncEdition => clampEdition table (clampCharaID (pick .charaID)) (pick .uncEdition)
  | c => pick c

/-- A fallback in place of a negative number and of one past the last. -/
def clampTo (last fallback n : Int32) : Int32 := if n < 0 ∨ n > last then fallback else n

/-- One in place of less. -/
def clampMin (n : Int32) : Int32 := if n < 1 then 1 else n

/-- `Clamp`. -/
def clamp (table : ValidEditions) (d : Data) : Data
  | .lobby c => clampChara table (fun c => d (.lobby c)) c
  | .mainMenuP1 c => clampChara table (fun c => d (.mainMenuP1 c)) c
  | .mainMenuP2 c => clampChara table (fun c => d (.mainMenuP2 c)) c
  | .stageID => clampTo 29 0 (d .stageID)
  | .mainMenuJumpStageID => clampTo 29 0 (d .mainMenuJumpStageID)
  | .hostRoundCountIdx => clampTo 3 1 (d .hostRoundCountIdx)
  | .hostRoundTimeIdx => clampTo 2 2 (d .hostRoundTimeIdx)
  | .mainMenuRoundCountIdx => clampTo 3 1 (d .mainMenuRoundCountIdx)
  | .mainMenuRoundTimeIdx => clampTo 2 2 (d .mainMenuRoundTimeIdx)
  | .extraFramesToSimulate => clampMin (d .extraFramesToSimulate)
  | f => d f

/-! ## Loading -/

/-- The members of `CharaFromJson`. -/
def charaFromJson (field : CharaField → Field) : List (String × Field) :=
  [("charaID", field .charaID), ("costume", field .costume), ("color", field .color),
    ("personalAction", field .personalAction), ("winQuote", field .winQuote),
    ("ultraCombo", field .ultraCombo), ("handicap", field .handicap),
    ("unc_edition", field .uncEdition)]

/-- The members that `Load` reads, in this order, with the way to the object that has them. -/
def loadTable : List (List String × List (String × Field)) :=
  [(["lobby"], charaFromJson .lobby),
    ([], [("stageID", .stageID)]),
    (["host"], [("delay", .hostDelay), ("name", .hostName), ("hostPort", .hostPort),
      ("ggpoPort", .hostGgpoPort), ("roundCountIdx", .hostRoundCountIdx),
      ("roundTimeIdx", .hostRoundTimeIdx), ("editionSelect", .hostEditionSelect)]),
    (["join"], [("delay", .joinDelay), ("ggpoPort", .joinGgpoPort), ("name", .joinName),
      ("joinAddr", .joinAddr)]),
    (["mainMenu"], [("shouldJump", .mainMenuShouldJump), ("stageID", .mainMenuJumpStageID),
      ("roundCountIdx", .mainMenuRoundCountIdx), ("roundTimeIdx", .mainMenuRoundTimeIdx),
      ("editionSelect", .mainMenuEditionSelect)]),
    (["mainMenu", "p1"], charaFromJson .mainMenuP1),
    (["mainMenu", "p2"], charaFromJson .mainMenuP2),
    (["windows"], [("chara", .showCharaWindow), ("command", .showCommandWindow),
      ("demo", .showDemoWindow), ("event", .showEventWindow),
      ("gfxapp", .showGfxappWindow), ("help", .showHelpWindow), ("hud", .showHudWindow),
      ("log", .showLogWindow), ("mainMenu", .showMainMenuWindow),
      ("memento", .showMementoWindow), ("network", .showNetworkWindow), ("pad", .showPadWindow),
      ("sound", .showSoundWindow), ("system", .showSystemWindow), ("task", .showTaskWindow),
      ("vfx", .showVfxWindow), ("vsbattle", .showVsbattleWindow),
      ("vscharaselect", .showVscharaselectWindow), ("vsstageselect", .showVsstageselectWindow)]),
    (["debug"], [("verboseLogging", .verboseLogging), ("networkDebug", .networkDebug),
      ("trackSoundRequests", .trackSoundRequests), ("usePureSounds", .usePureSounds),
      ("soundShowDetails", .soundShowDetails), ("blockBattleInit", .blockBattleInit),
      ("blockBattleTermination", .blockBattleTermination),
      ("forceNextMatchOnline", .forceNextMatchOnline),
      ("terminateOnNextLeftBattle", .terminateOnNextLeftBattle),
      ("overrideNextRandomSeed", .overrideNextRandomSeed),
      ("nextMatchRandomSeed", .nextMatchRandomSeed),
      ("forceTimerOnNextStageSelect", .forceTimerOnNextStageSelect),
      ("randomizeLocalInputsEveryXFrames", .randomizeLocalInputsEveryXFrames),
      ("extraFramesToSimulate", .extraFramesToSimulate)]),
    (["device"], [("idx", .deviceIdx), ("type", .deviceType)])]

/-- The object at the end of the way, if every step has an object. -/
def objectAt : List String → Json → Option Json
  | [], j => if j.isObject then some j else none
  | key :: path, j => (j.member? key).bind (objectAt path)

/-- The members that `Load` reads from a document.  An object that is missing, or is none, is
passed over with its members. -/
def entries (j : Json) : List (Entry Field) :=
  loadTable.flatMap fun row =>
    match objectAt row.1 j with
    | some obj => row.2.map fun m => ⟨obj, m.1, m.2⟩
    | none => []

/-! ## The file -/

/-- `OverlayPrefs::Load`. -/
def load (table : ValidEditions) (file : JsonFile) (out : Data) : Data × Bool :=
  match file.content with
  | some (some j) =>
    if j.isObject then
      match readAll (fun _ v => v) (entries j) out with
      | (d, true) => (clamp table d, true)
      | (d, false) => (d, false)
    else (out, false)
  | _ => (out, false)

/-- The members. -/
def members (d : Data) (fields : List (String × Field)) : List (String × Json) :=
  fields.map fun m => (m.1, m.2.kind.toJson (d m.2))

/-- The members of `CharaToJson`. -/
def charaToJson (field : CharaField → Field) : List (String × Field) :=
  [("charaID", field .charaID), ("costume", field .costume), ("color", field .color),
    ("personalAction", field .personalAction), ("winQuote", field .winQuote),
    ("ultraCombo", field .ultraCombo), ("handicap", field .handicap),
    ("unc_edition", field .uncEdition)]

/-- The JSON value that `Save` builds. -/
def toJson (d : Data) : Json :=
  .obj (
    [("lobby", .obj (members d (charaToJson .lobby)))] ++
    members d [("stageID", .stageID)] ++
    [("host", .obj (members d [("delay", .hostDelay), ("name", .hostName),
      ("hostPort", .hostPort),
      ("ggpoPort", .hostGgpoPort), ("roundCountIdx", .hostRoundCountIdx),
      ("roundTimeIdx", .hostRoundTimeIdx), ("editionSelect", .hostEditionSelect)])),
    ("join", .obj (members d [("delay", .joinDelay), ("ggpoPort", .joinGgpoPort),
      ("name", .joinName), ("joinAddr", .joinAddr)])),
    ("mainMenu", .obj (members d [("shouldJump", .mainMenuShouldJump),
      ("stageID", .mainMenuJumpStageID), ("roundCountIdx", .mainMenuRoundCountIdx),
      ("roundTimeIdx", .mainMenuRoundTimeIdx),
      ("editionSelect", .mainMenuEditionSelect)] ++
      [("p1", .obj (members d (charaToJson .mainMenuP1))),
        ("p2", .obj (members d (charaToJson .mainMenuP2)))])),
    ("windows", .obj (members d [("chara", .showCharaWindow), ("command", .showCommandWindow),
      ("demo", .showDemoWindow), ("event", .showEventWindow), ("gfxapp", .showGfxappWindow),
      ("help", .showHelpWindow),
      ("hud", .showHudWindow), ("log", .showLogWindow), ("mainMenu", .showMainMenuWindow),
      ("memento", .showMementoWindow), ("network", .showNetworkWindow), ("pad", .showPadWindow),
      ("sound", .showSoundWindow), ("system", .showSystemWindow), ("task", .showTaskWindow),
      ("vfx", .showVfxWindow), ("vsbattle", .showVsbattleWindow),
      ("vscharaselect", .showVscharaselectWindow), ("vsstageselect", .showVsstageselectWindow)])),
    ("debug", .obj (members d [("verboseLogging", .verboseLogging),
      ("networkDebug", .networkDebug),
      ("trackSoundRequests", .trackSoundRequests), ("usePureSounds", .usePureSounds),
      ("soundShowDetails", .soundShowDetails), ("blockBattleInit", .blockBattleInit),
      ("blockBattleTermination", .blockBattleTermination),
      ("forceNextMatchOnline", .forceNextMatchOnline),
      ("terminateOnNextLeftBattle", .terminateOnNextLeftBattle),
      ("overrideNextRandomSeed", .overrideNextRandomSeed),
      ("nextMatchRandomSeed", .nextMatchRandomSeed),
      ("forceTimerOnNextStageSelect", .forceTimerOnNextStageSelect),
      ("randomizeLocalInputsEveryXFrames", .randomizeLocalInputsEveryXFrames),
      ("extraFramesToSimulate", .extraFramesToSimulate)])),
    ("device", .obj (members d [("idx", .deviceIdx), ("type", .deviceType)]))])

/-- `OverlayPrefs::Save`. -/
def save (table : ValidEditions) (file : JsonFile) (d : Data) : JsonFile × Saved :=
  file.save (toJson (clamp table d))

/-! ## What is saved is loaded -/

/-- Members with different keys are found. -/
lemma lookup_members (d : Data) (rest : List (String × Json)) {fields : List (String × Field)}
    (hkeys : (fields.map Prod.fst).Nodup) {m : String × Field} (hm : m ∈ fields) :
    (members d fields ++ rest).lookup m.1 = some (m.2.kind.toJson (d m.2)) := by
  induction fields with
  | nil => exact absurd hm List.not_mem_nil
  | cons m' fields ih =>
    rw [List.map_cons, List.nodup_cons] at hkeys
    rw [members, List.map_cons, List.cons_append]
    obtain rfl | hm := List.mem_cons.1 hm
    · exact List.lookup_cons_self
    · have hne : m.1 ≠ m'.1 := by
        intro heq
        exact hkeys.1 (heq ▸ List.mem_map_of_mem hm)
      rw [List.lookup_cons, beq_eq_false_iff_ne.2 hne]
      exact ih hkeys.2 hm

/-- Every member that is read has been written. -/
lemma written (d : Data) : ∀ row ∈ loadTable, ∃ ms, objectAt row.1 (toJson d) = some (.obj ms) ∧
    ∀ m ∈ row.2, ms.lookup m.1 = some (m.2.kind.toJson (d m.2)) := by
  have hfound : ∀ {fields : List (String × Field)} {path : List String}
      (rest : List (String × Json)), (fields.map Prod.fst).Nodup →
      objectAt path (toJson d) = some (.obj (members d fields ++ rest)) →
      ∃ ms, objectAt path (toJson d) = some (.obj ms) ∧
        ∀ m ∈ fields, ms.lookup m.1 = some (m.2.kind.toJson (d m.2)) :=
    fun rest hkeys hobj => ⟨_, hobj, fun m => lookup_members d rest hkeys⟩
  intro row hrow
  rw [loadTable] at hrow
  simp only [List.mem_cons, List.not_mem_nil, or_false] at hrow
  obtain rfl | rfl | rfl | rfl | rfl | rfl | rfl | rfl | rfl | rfl := hrow
  · exact hfound [] (by decide) rfl
  · refine ⟨_, rfl, fun m hm => ?_⟩
    rw [List.mem_singleton.1 hm]
    rfl
  · exact hfound [] (by decide) rfl
  · exact hfound [] (by decide) rfl
  · exact hfound _ (by decide) rfl
  · exact hfound [] (by decide) rfl
  · exact hfound [] (by decide) rfl
  · exact hfound [] (by decide) rfl
  · exact hfound [] (by decide) rfl
  · exact hfound [] (by decide) rfl

/-- Every field is read once. -/
lemma nodup_loadTable :
    ((loadTable.flatMap fun row => row.2.map Prod.snd)).Nodup := by
  decide

/-- Every field is read. -/
lemma mem_loadTable (f : Field) : f ∈ loadTable.flatMap fun row => row.2.map Prod.snd := by
  cases f with
  | lobby c => cases c <;> decide
  | mainMenuP1 c => cases c <;> decide
  | mainMenuP2 c => cases c <;> decide
  | _ => decide

/-- What is read belongs to a row of the table. -/
lemma mem_entries {j : Json} {e : Entry Field} : e ∈ entries j ↔
    ∃ row ∈ loadTable, ∃ obj, objectAt row.1 j = some obj ∧
      ∃ m ∈ row.2, e = ⟨obj, m.1, m.2⟩ := by
  rw [entries, List.mem_flatMap]
  refine exists_congr fun row => and_congr_right fun _ => ?_
  cases objectAt row.1 j with
  | none =>
    constructor
    · intro h
      exact absurd h List.not_mem_nil
    · rintro ⟨obj, hobj, -⟩
      exact absurd hobj.symm (Option.some_ne_none obj)
  | some obj =>
    constructor
    · intro h
      obtain ⟨m, hm, rfl⟩ := List.mem_map.1 h
      exact ⟨obj, rfl, m, hm, rfl⟩
    · rintro ⟨obj', hobj, m, hm, rfl⟩
      obtain rfl := Option.some.inj hobj
      exact List.mem_map.2 ⟨m, hm, rfl⟩

/-- No field is read twice. -/
lemma nodup_entries (j : Json) : ((entries j).map Entry.field).Nodup := by
  refine nodup_loadTable.sublist ?_
  rw [entries, List.map_flatMap]
  refine List.Sublist.flatMap_right _ fun row _ => ?_
  cases objectAt row.1 j with
  | none => exact List.nil_sublist _
  | some obj =>
    show ((row.2.map _).map Entry.field).Sublist _
    rw [List.map_map]
    exact List.Sublist.refl _

/-- What is written is read, whatever the structure held. -/
theorem readAll_toJson (d out : Data) :
    readAll (fun _ v => v) (entries (toJson d)) out = (d, true) := by
  refine readAll_eq ?_ ?_
  · intro e he v
    obtain ⟨row, hrow, obj, hobj, m, hm, rfl⟩ := mem_entries.1 he
    obtain ⟨ms, hms, hlookup⟩ := written d row hrow
    obtain rfl := Option.some.inj (hobj.symm.trans hms)
    rw [Entry.read, Json.value_obj, hlookup m hm]
    exact Kind.get_toJson _ _
  · intro f hf
    obtain ⟨row, hrow, hfield⟩ := List.mem_flatMap.1 (mem_loadTable f)
    obtain ⟨m, hm, rfl⟩ := List.mem_map.1 hfield
    obtain ⟨ms, hms, -⟩ := written d row hrow
    have he := mem_entries.2 ⟨row, hrow, _, hms, m, hm, rfl⟩
    exact absurd (List.mem_map_of_mem he) hf

/-! ## The permitted range -/

lemma clampCharaID_idem (n : UInt8) : clampCharaID (clampCharaID n) = clampCharaID n := by
  by_cases hn : n ≥ 0x2c
  · rw [show clampCharaID n = 0 from if_pos hn]
    decide
  · rw [show clampCharaID n = n from if_neg hn]
    exact if_neg hn

lemma clampEdition_idem (table : ValidEditions) (charaID edition : UInt8) :
    clampEdition table charaID (clampEdition table charaID edition) =
      clampEdition table charaID edition := by
  by_cases hmem : edition ∈ editionsOf table charaID
  · rw [clampEdition, clampEdition, if_pos hmem, if_pos hmem]
  · have hclamp : clampEdition table charaID edition = (editionsOf table charaID).headD 14 :=
      if_neg hmem
    rw [hclamp]
    cases heditions : editionsOf table charaID with
    | nil =>
      rw [clampEdition, heditions]
      rfl
    | cons e es =>
      rw [clampEdition, heditions]
      exact if_pos List.mem_cons_self

lemma clampChara_idem (table : ValidEditions) (pick : CharaField → UInt8) :
    clampChara table (clampChara table pick) = clampChara table pick := by
  funext c
  cases c with
  | charaID => exact clampCharaID_idem _
  | uncEdition =>
    show clampEdition table (clampCharaID (clampCharaID _)) (clampEdition table _ _) = _
    rw [clampCharaID_idem]
    exact clampEdition_idem table _ _
  | costume | color | personalAction | winQuote | ultraCombo | handicap => rfl

lemma clampTo_idem {last fallback : Int32} (h : ¬ (fallback < 0 ∨ fallback > last)) (n : Int32) :
    clampTo last fallback (clampTo last fallback n) = clampTo last fallback n := by
  by_cases hn : n < 0 ∨ n > last
  · rw [show clampTo last fallback n = fallback from if_pos hn]
    exact if_neg h
  · rw [show clampTo last fallback n = n from if_neg hn]
    exact if_neg hn

lemma clampMin_idem (n : Int32) : clampMin (clampMin n) = clampMin n := by
  by_cases hn : n < 1
  · rw [show clampMin n = 1 from if_pos hn]
    rfl
  · rw [show clampMin n = n from if_neg hn]
    exact if_neg hn

/-- New preferences lie in the permitted range before the game is located. -/
lemma clamp_newData : clamp none newData = newData := by
  funext f
  cases f with
  | lobby c | mainMenuP1 c | mainMenuP2 c => cases c <;> rfl
  | _ => rfl

/-- Clamping changes nothing further. -/
theorem clamp_idem (table : ValidEditions) (d : Data) :
    clamp table (clamp table d) = clamp table d := by
  funext f
  cases f with
  | lobby c => exact congrFun (clampChara_idem table fun c => d (.lobby c)) c
  | mainMenuP1 c => exact congrFun (clampChara_idem table fun c => d (.mainMenuP1 c)) c
  | mainMenuP2 c => exact congrFun (clampChara_idem table fun c => d (.mainMenuP2 c)) c
  | stageID => exact clampTo_idem (by decide) _
  | mainMenuJumpStageID => exact clampTo_idem (by decide) _
  | hostRoundCountIdx => exact clampTo_idem (by decide) _
  | hostRoundTimeIdx => exact clampTo_idem (by decide) _
  | mainMenuRoundCountIdx => exact clampTo_idem (by decide) _
  | mainMenuRoundTimeIdx => exact clampTo_idem (by decide) _
  | extraFramesToSimulate => exact clampMin_idem _
  | _ => rfl

/-! ## Loading and saving -/

/-- The texts of the preferences. -/
def texts (d : Data) : List Text :=
  [CString.bytes (d .hostName), CString.bytes (d .joinName), CString.bytes (d .joinAddr)]

section load

variable {table : ValidEditions} {file : JsonFile} {out : Data}

/-- Without an object nothing is read. -/
lemma load_of_not_object (h : ∀ j, file.content = some (some j) → ¬ j.isObject = true) :
    load table file out = (out, false) := by
  rw [load]
  split
  · next j hcontent => exact if_neg (h j hcontent)
  · rfl

/-- From an object the members are read. -/
lemma load_of_object {j : Json} (hcontent : file.content = some (some j))
    (hobj : j.isObject = true) {d : Data} {ok : Bool}
    (hread : readAll (fun _ v => v) (entries j) out = (d, ok)) :
    load table file out = (if ok then clamp table d else d, ok) := by
  rw [load, hcontent]
  dsimp only
  rw [if_pos hobj, hread]
  cases ok <;> rfl

/-- A load that fails leaves the structure as it was exactly if the document says nothing new
before its first ill-typed member. -/
theorem load_unchanged_iff :
    ((load table file out).2 = false → (load table file out).1 = out) ↔
      ∀ j, file.content = some (some j) → j.isObject = true →
        NothingNew (fun _ v => v) (entries j) out := by
  by_cases h : ∃ j, file.content = some (some j) ∧ j.isObject = true
  · obtain ⟨j, hcontent, hobj⟩ := h
    rcases hread : readAll (fun _ v => v) (entries j) out with ⟨d, ok⟩
    have hunchanged : ((readAll (fun _ v => v) (entries j) out).2 = false →
        (readAll (fun _ v => v) (entries j) out).1 = out) ↔
          NothingNew (fun _ v => v) (entries j) out :=
      readAll_unchanged_iff (nodup_entries j)
    rw [hread] at hunchanged
    rw [load_of_object hcontent hobj hread]
    constructor
    · intro hkept j' hcontent' _
      obtain rfl : j = j' := Option.some.inj (Option.some.inj (hcontent.symm.trans hcontent'))
      refine hunchanged.1 fun hfalse => ?_
      have hsame := hkept hfalse
      rwa [show ok = false from hfalse] at hsame
    · intro hnew hfalse
      obtain rfl : ok = false := hfalse
      exact hunchanged.2 (hnew j hcontent hobj) rfl
  · rw [load_of_not_object fun j hcontent hobj => h ⟨j, hcontent, hobj⟩]
    exact ⟨fun _ j hcontent hobj => absurd ⟨j, hcontent, hobj⟩ h, fun _ _ => rfl⟩

/-- What has been loaded lies in the permitted range. -/
theorem clamp_load (hok : (load table file out).2 = true) :
    clamp table (load table file out).1 = (load table file out).1 := by
  by_cases h : ∃ j, file.content = some (some j) ∧ j.isObject = true
  · obtain ⟨j, hcontent, hobj⟩ := h
    rcases hread : readAll (fun _ v => v) (entries j) out with ⟨d, ok⟩
    rw [load_of_object hcontent hobj hread] at hok ⊢
    obtain rfl : ok = true := hok
    exact clamp_idem table d
  · rw [load_of_not_object fun j hcontent hobj => h ⟨j, hcontent, hobj⟩] at hok
    exact absurd hok Bool.false_ne_true

/-- What the file holds is loaded with all its members. -/
lemma load_toJson {d : Data} (hcontent : file.content = some (some (toJson d))) :
    load table file out = (clamp table d, true) :=
  load_of_object hcontent rfl (readAll_toJson d out)

/-- A save that opens the file is loaded back exactly if the texts are UTF-8. -/
theorem load_save_iff {d : Data} :
    (∀ file before, (save table file d).2 ≠ .failed →
      load table (save table file d).1 before = (clamp table d, true)) ↔
      ∀ s ∈ texts d, IsUtf8 s := by
  constructor
  · intro h
    by_contra hutf8
    have hthrew : save table ⟨true, true, none⟩ d = (⟨true, true, some none⟩, .threw) :=
      JsonFile.save_threw ⟨rfl, rfl⟩ hutf8
    have hload := h ⟨true, true, none⟩ d (by rw [hthrew]; decide)
    rw [hthrew, load_of_not_object (fun j hcontent => by cases hcontent)] at hload
    exact absurd (congrArg Prod.snd hload) Bool.false_ne_true
  · intro hutf8 file before hsaved
    by_cases hopen : file.folder ∧ file.writable
    · have hdone : save table file d =
          ({ file with stored := some (some (toJson (clamp table d))) }, .done) :=
        JsonFile.save_done hopen hutf8
      have hcontent : ({ file with stored := some (some (toJson (clamp table d))) } :
          JsonFile).content = some (some (toJson (clamp table d))) := if_pos hopen.1
      rw [hdone, load_toJson hcontent, clamp_idem]
    · exact absurd (congrArg Prod.snd (JsonFile.save_failed hopen)) hsaved

end load

end Overlay
end Sf4e
