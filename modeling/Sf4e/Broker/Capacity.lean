/-
# Room capacity and port ranges

`capacity-config.js`: the configuration that `loadCapacityConfig` accepts, and the allocation of
port pairs.  A `CapacityConfig` carries what the checks have established, and a `PortPair` that
it lies in the configured ranges.
-/
import Mathlib.Data.Finset.Interval
import Mathlib.Order.Interval.Finset.Nat
import Sf4e.Broker.Value

namespace Sf4e
namespace Broker

/-! ## The configuration -/

/-- The environment variables that `loadCapacityConfig` reads. -/
structure CapacityEnv where
  /-- `MAX_ROOMS`. -/
  maxRooms : Option String := none
  /-- `RELAY_PORT_BASE`. -/
  relayPortBase : Option String := none
  /-- `GGPO_UDP_PORT_BASE`. -/
  ggpoUdpPortBase : Option String := none
  /-- `ROOM_CAPACITY_WARNING_PERCENT`. -/
  roomCapacityWarningPercent : Option String := none

/-- Why a configuration is refused. -/
inductive CapacityError
  /-- `NAME must be an integer (got RAW)`. -/
  | notInteger (name raw : String)
  /-- `NAME must be a finite integer (got RAW)`. -/
  | notFinite (name raw : String)
  /-- `NAME must be >= 1 (got N)`. -/
  | notPositive (name : String) (got : ℤ)
  /-- `ROOM_CAPACITY_WARNING_PERCENT must be between 1 and 100 (got N)`. -/
  | notPercent (got : ℤ)
  /-- `Session relay range exceeds port 65535`. -/
  | sessionRange (base last : ℤ)
  /-- `GGPO UDP relay range exceeds port 65535`. -/
  | ggpoRange (base last : ℤ)
  /-- `Session relay range overlaps GGPO UDP range`. -/
  | overlap (base last ggpoBase ggpoLast : ℤ)
deriving DecidableEq

/-- The last port. -/
def MAX_PORT : ℕ := 65535

/-- The text is `-?\d+`. -/
def isInteger (text : List Char) : Bool :=
  let digits := if text.head? = some '-' then text.tail else text
  digits != [] && digits.all Char.isDigit

/-- The least integer that is rounded to infinity. -/
def infiniteFrom : ℕ := 2 ^ 1024 - 2 ^ 970

/-- `parsePositiveInt`.  Numbers are exact here.  From `2 ^ 53` on the source rounds them, and
refuses them all the same, for they are no ports. -/
def parsePositiveInt (raw : Option String) (name : String) (fallback : ℤ) :
    Except CapacityError ℤ :=
  match raw with
  | none => .ok fallback
  | some raw =>
    if trim raw = "" then .ok fallback
    else if isInteger (trim raw).toList then
      match parseInt (trim raw) with
      | none => .error (.notFinite name raw)
      | some value =>
        if infiniteFrom ≤ value.natAbs then .error (.notFinite name raw) else .ok value
    else .error (.notInteger name raw)

/-- `rangesOverlap`, for inclusive ranges. -/
def rangesOverlap (aStart aEnd bStart bEnd : ℤ) : Prop := aStart ≤ bEnd ∧ bStart ≤ aEnd

instance (aStart aEnd bStart bEnd : ℤ) : Decidable (rangesOverlap aStart aEnd bStart bEnd) :=
  inferInstanceAs (Decidable (_ ∧ _))

/-- A configuration that has passed the checks. -/
structure CapacityConfig where
  maxRooms : ℕ
  relayPortBase : ℕ
  ggpoUdpPortBase : ℕ
  roomCapacityWarningPercent : ℕ
  maxRooms_pos : 1 ≤ maxRooms
  relayPortBase_pos : 1 ≤ relayPortBase
  ggpoUdpPortBase_pos : 1 ≤ ggpoUdpPortBase
  percent_range : 1 ≤ roomCapacityWarningPercent ∧ roomCapacityWarningPercent ≤ 100
  relayPort_le : relayPortBase + maxRooms ≤ MAX_PORT + 1
  ggpoUdpPort_le : ggpoUdpPortBase + maxRooms ≤ MAX_PORT + 1
  disjoint : relayPortBase + maxRooms ≤ ggpoUdpPortBase ∨
    ggpoUdpPortBase + maxRooms ≤ relayPortBase

/-- `loadCapacityConfig`. -/
def loadCapacityConfig (env : CapacityEnv) : Except CapacityError CapacityConfig := do
  let maxRooms ← parsePositiveInt env.maxRooms "MAX_ROOMS" 50
  let relayPortBase ← parsePositiveInt env.relayPortBase "RELAY_PORT_BASE" 23456
  let ggpoUdpPortBase ← parsePositiveInt env.ggpoUdpPortBase "GGPO_UDP_PORT_BASE" 24456
  let percent ← parsePositiveInt env.roomCapacityWarningPercent "ROOM_CAPACITY_WARNING_PERCENT" 80
  if h₁ : maxRooms < 1 then .error (.notPositive "MAX_ROOMS" maxRooms)
  else if h₂ : relayPortBase < 1 then .error (.notPositive "RELAY_PORT_BASE" relayPortBase)
  else if h₃ : ggpoUdpPortBase < 1 then .error (.notPositive "GGPO_UDP_PORT_BASE" ggpoUdpPortBase)
  else if h₄ : percent < 1 ∨ percent > 100 then .error (.notPercent percent)
  else
    let relayPortEnd := relayPortBase + maxRooms - 1
    let ggpoUdpPortEnd := ggpoUdpPortBase + maxRooms - 1
    if h₅ : relayPortEnd > MAX_PORT then .error (.sessionRange relayPortBase relayPortEnd)
    else if h₆ : ggpoUdpPortEnd > MAX_PORT then .error (.ggpoRange ggpoUdpPortBase ggpoUdpPortEnd)
    else if h₇ : rangesOverlap relayPortBase relayPortEnd ggpoUdpPortBase ggpoUdpPortEnd then
      .error (.overlap relayPortBase relayPortEnd ggpoUdpPortBase ggpoUdpPortEnd)
    else
      .ok {
        maxRooms := maxRooms.toNat
        relayPortBase := relayPortBase.toNat
        ggpoUdpPortBase := ggpoUdpPortBase.toNat
        roomCapacityWarningPercent := percent.toNat
        maxRooms_pos := by omega
        relayPortBase_pos := by omega
        ggpoUdpPortBase_pos := by omega
        percent_range := by omega
        relayPort_le := by omega
        ggpoUdpPort_le := by omega
        disjoint := by
          unfold rangesOverlap at h₇
          omega }

example : (loadCapacityConfig {}).toOption.map (·.ggpoUdpPortBase) = some 24456 := by
  decide +kernel

namespace CapacityConfig

variable (config : CapacityConfig)

def relayPortEnd : ℕ := config.relayPortBase + config.maxRooms - 1

def ggpoUdpPortEnd : ℕ := config.ggpoUdpPortBase + config.maxRooms - 1

/-- The session ports that the broker gives out. -/
def sessionPorts : Finset ℕ := .Icc config.relayPortBase config.relayPortEnd

/-- The GGPO ports that the broker gives out. -/
def ggpoPorts : Finset ℕ := .Icc config.ggpoUdpPortBase config.ggpoUdpPortEnd

variable {config} {p : ℕ}

lemma mem_sessionPorts_iff :
    p ∈ config.sessionPorts ↔ ∃ i < config.maxRooms, p = config.relayPortBase + i := by
  have hpos := config.maxRooms_pos
  simp only [sessionPorts, relayPortEnd, Finset.mem_Icc]
  constructor
  · rintro ⟨hlo, hhi⟩
    exact ⟨p - config.relayPortBase, by omega, by omega⟩
  · rintro ⟨i, hi, rfl⟩
    omega

lemma mem_ggpoPorts_iff :
    p ∈ config.ggpoPorts ↔ ∃ i < config.maxRooms, p = config.ggpoUdpPortBase + i := by
  have hpos := config.maxRooms_pos
  simp only [ggpoPorts, ggpoUdpPortEnd, Finset.mem_Icc]
  constructor
  · rintro ⟨hlo, hhi⟩
    exact ⟨p - config.ggpoUdpPortBase, by omega, by omega⟩
  · rintro ⟨i, hi, rfl⟩
    omega

lemma card_sessionPorts : config.sessionPorts.card = config.maxRooms := by
  have hpos := config.maxRooms_pos
  simp only [sessionPorts, relayPortEnd, Nat.card_Icc]
  omega

/-- No port is given out for both kinds of relay. -/
lemma notMem_sessionPorts_of_mem_ggpoPorts (h : p ∈ config.ggpoPorts) :
    p ∉ config.sessionPorts := by
  rw [mem_ggpoPorts_iff] at h
  rw [mem_sessionPorts_iff]
  obtain ⟨i, hi, rfl⟩ := h
  rintro ⟨j, hj, heq⟩
  have := config.disjoint
  omega

lemma pos_of_mem_sessionPorts (h : p ∈ config.sessionPorts) : 1 ≤ p := by
  have hpos := config.relayPortBase_pos
  rw [mem_sessionPorts_iff] at h
  obtain ⟨i, -, rfl⟩ := h
  omega

lemma le_of_mem_ggpoPorts (h : p ∈ config.ggpoPorts) : p ≤ MAX_PORT := by
  have hle := config.ggpoUdpPort_le
  rw [mem_ggpoPorts_iff] at h
  obtain ⟨i, hi, rfl⟩ := h
  omega

end CapacityConfig

/-! ## Port pairs -/

/-- `ggpoPortForSessionPort`. -/
def ggpoPortForSessionPort (config : CapacityConfig) (sessionPort : ℕ) : ℕ :=
  if sessionPort < config.relayPortBase ∨
      config.maxRooms ≤ sessionPort - config.relayPortBase then 0
  else config.ggpoUdpPortBase + (sessionPort - config.relayPortBase)

lemma ggpoPortForSessionPort_add {config : CapacityConfig} {i : ℕ} (hi : i < config.maxRooms) :
    ggpoPortForSessionPort config (config.relayPortBase + i) = config.ggpoUdpPortBase + i := by
  have h : ¬ (config.relayPortBase + i < config.relayPortBase ∨
      config.maxRooms ≤ config.relayPortBase + i - config.relayPortBase) := by omega
  rw [ggpoPortForSessionPort, if_neg h]
  omega

lemma ggpoPortForSessionPort_mem {config : CapacityConfig} {p : ℕ}
    (h : p ∈ config.sessionPorts) : ggpoPortForSessionPort config p ∈ config.ggpoPorts := by
  obtain ⟨i, hi, rfl⟩ := CapacityConfig.mem_sessionPorts_iff.1 h
  rw [ggpoPortForSessionPort_add hi]
  exact CapacityConfig.mem_ggpoPorts_iff.2 ⟨i, hi, rfl⟩

/-- Different session ports have different GGPO ports. -/
lemma ggpoPortForSessionPort_inj {config : CapacityConfig} {p q : ℕ}
    (hp : p ∈ config.sessionPorts) (hq : q ∈ config.sessionPorts)
    (h : ggpoPortForSessionPort config p = ggpoPortForSessionPort config q) : p = q := by
  obtain ⟨i, hi, rfl⟩ := CapacityConfig.mem_sessionPorts_iff.1 hp
  obtain ⟨j, hj, rfl⟩ := CapacityConfig.mem_sessionPorts_iff.1 hq
  rw [ggpoPortForSessionPort_add hi, ggpoPortForSessionPort_add hj] at h
  omega

/-- A pair of ports that the broker gives out together. -/
structure PortPair (config : CapacityConfig) where
  sessionPort : ℕ
  ggpoPort : ℕ
  session_mem : sessionPort ∈ config.sessionPorts
  ggpo_eq : ggpoPort = ggpoPortForSessionPort config sessionPort

lemma PortPair.ggpo_mem {config : CapacityConfig} (ports : PortPair config) :
    ports.ggpoPort ∈ config.ggpoPorts := by
  rw [ports.ggpo_eq]
  exact ggpoPortForSessionPort_mem ports.session_mem

/-- The pair with a number. -/
def portPair (config : CapacityConfig) (i : ℕ) (hi : i < config.maxRooms) : PortPair config where
  sessionPort := config.relayPortBase + i
  ggpoPort := config.ggpoUdpPortBase + i
  session_mem := CapacityConfig.mem_sessionPorts_iff.2 ⟨i, hi, rfl⟩
  ggpo_eq := (ggpoPortForSessionPort_add hi).symm

/-- The port is in no room and not reserved. -/
def isFree (roomPorts reservedPorts : List ℕ) (port : ℕ) : Bool :=
  !roomPorts.contains port && !reservedPorts.contains port

/-- `allocatePortPair`: the first free pair, with its session port added to the reserved ones, or
`none` for the pair of zeros. -/
def allocatePortPair (config : CapacityConfig) (roomPorts reservedPorts : List ℕ) :
    Option (PortPair config × List ℕ) :=
  (List.finRange config.maxRooms).findSome? fun (i : Fin config.maxRooms) =>
    if isFree roomPorts reservedPorts (config.relayPortBase + i) then
      some (portPair config i i.2, reservedPorts ++ [config.relayPortBase + i])
    else none

/-- `releasePortReservation`. -/
def releasePortReservation (reservedPorts : List ℕ) (port : ℕ) : List ℕ :=
  reservedPorts.filter (· ≠ port)

variable {config : CapacityConfig} {roomPorts reservedPorts : List ℕ}

lemma allocatePortPair_some {ports : PortPair config} {reserved : List ℕ}
    (h : allocatePortPair config roomPorts reservedPorts = some (ports, reserved)) :
    ports.sessionPort ∉ roomPorts ∧ ports.sessionPort ∉ reservedPorts ∧
      reserved = reservedPorts ++ [ports.sessionPort] := by
  obtain ⟨i, -, hi⟩ := List.exists_of_findSome?_eq_some h
  split at hi
  · rename_i hfree
    obtain ⟨rfl, rfl⟩ := Prod.mk.inj (Option.some.inj hi)
    simpa [isFree, portPair] using hfree
  · exact absurd hi (by simp)

/-- Nothing is allocated only when every session port is in a room or reserved. -/
lemma allocatePortPair_none (h : allocatePortPair config roomPorts reservedPorts = none) {p : ℕ}
    (hp : p ∈ config.sessionPorts) : p ∈ roomPorts ∨ p ∈ reservedPorts := by
  obtain ⟨i, hi, rfl⟩ := CapacityConfig.mem_sessionPorts_iff.1 hp
  have hnone := List.findSome?_eq_none_iff.1 h ⟨i, hi⟩ (List.mem_finRange _)
  by_contra hfree
  simp [isFree, not_or.1 hfree] at hnone

end Broker
end Sf4e
