/-
# The answer to a NAT probe

The broker answers a probe with a JSON object of two members, the address and the port that the
probe came from.  `NatProbe` finds the two keys in the answer with `strstr` and counts quotation
marks and colons from there.

`ipKey` is where the key begins, with its own quotation mark, so that the marks which are taken
for those around the address are the one behind the key and the one before the address.
-/
import Sf4e.Relay.Udp
import Sf4e.Update.Atoi

namespace Sf4e
namespace Transport

open Wire Update
open Relay (ascii)

/-! ## The two programs -/

/-- `'"'` -/
def quote : UInt8 := 34

/-- A string of `JSON.stringify` that needs no escapes. -/
def jsonString (s : Text) : Text := quote :: s ++ [quote]

/-- The answer of `startNatProbeServer`. -/
def probeReply (address : UInt32) (port : UInt16) : Text :=
  ascii "\x7b" ++ jsonString (ascii "observedIp") ++ ascii ":" ++
    jsonString (Inet.dottedNtop address) ++ ascii "," ++
    jsonString (ascii "observedPort") ++ ascii ":" ++ decimalText port.toNat ++ ascii "\x7d"

/-- `NatProbeResult`. -/
structure NatProbeResult where
  ok : Bool := false
  observedIp : Text := []
  observedPort : UInt16 := 0
deriving DecidableEq

/-- `strchr`: the text from the first byte of a kind on. -/
def strchr (s : Text) (c : UInt8) : Option Text :=
  match s with
  | [] => none
  | b :: s => if b = c then some (b :: s) else strchr s c

/-- `strstr`: the text from the first place on at which a key stands. -/
def strstr (s key : Text) : Option Text :=
  match s with
  | [] => if key = [] then some [] else none
  | b :: s => if key.isPrefixOf (b :: s) then some (b :: s) else strstr s key

/-- `sizeof(result.observedIp)`. -/
def observedIpSize : ℕ := 64

/-- What is copied to `observedIp`. -/
def findObservedIp (response : Text) : Text :=
  let q1 := (strstr response (jsonString (ascii "observedIp"))).bind fun ipKey =>
    (strchr ipKey quote).bind fun q1 => strchr q1.tail quote
  let found := q1.bind fun q1 => (strchr q1.tail quote).map fun q2 =>
    q1.tail.take (q1.tail.length - q2.length)
  match found with
  | some ip => if ip.length < observedIpSize then ip else []
  | none => []

/-- What is stored in `observedPort`. -/
def findObservedPort (response : Text) : UInt16 :=
  match (strstr response (jsonString (ascii "observedPort"))).bind fun portKey =>
      strchr portKey colon with
  | some rest => UInt16.ofInt (atoi rest.tail)
  | none => 0

/-- The size of `response` without the terminator. -/
def responseSize : ℕ := 255

/-- `NatProbe`, from the datagram on that `SendProbeAndWait` has received, if it has.  A datagram
that does not fit the buffer is an error of `recvfrom`. -/
def natProbe (received : Option Text) : NatProbeResult :=
  match received with
  | none => {}
  | some datagram =>
    if datagram = [] ∨ responseSize < datagram.length then {}
    else
      let response := datagram.takeWhile (· != 0)
      let observedIp := findObservedIp response
      let observedPort := findObservedPort response
      ⟨observedIp ≠ [] ∧ observedPort > 0, observedIp, observedPort⟩

/-- The answer for an address and a port is read as these. -/
def DecodesRight (address : UInt32) (port : UInt16) : Prop :=
  natProbe (some (probeReply address port)) = ⟨true, Inet.dottedNtop address, port⟩

/-! ## Searching -/

lemma strchr_append {a b : Text} {c : UInt8} (h : c ∉ a) :
    strchr (a ++ c :: b) c = some (c :: b) := by
  induction a with
  | nil => exact if_pos rfl
  | cons d a ih =>
    rw [List.mem_cons, not_or] at h
    rw [List.cons_append, strchr, if_neg (Ne.symm h.1)]
    exact ih h.2

/-- A key that begins with a quotation mark is not found before the first one. -/
lemma strstr_append {a b key : Text} (h : quote ∉ a) :
    strstr (a ++ b) (quote :: key) = strstr b (quote :: key) := by
  induction a with
  | nil => rfl
  | cons d a ih =>
    rw [List.mem_cons, not_or] at h
    have hnot : (quote :: key).isPrefixOf (d :: (a ++ b)) = false := by
      rw [List.isPrefixOf, Bool.and_eq_false_iff]
      exact .inl (beq_eq_false_iff_ne.2 h.1)
    rw [List.cons_append, strstr, hnot, if_neg Bool.false_ne_true]
    exact ih h.2

lemma strstr_self (key b : Text) : strstr (key ++ b) key = some (key ++ b) := by
  cases hs : key ++ b with
  | nil =>
    obtain ⟨rfl, -⟩ := List.append_eq_nil_iff.1 hs
    rfl
  | cons c s =>
    have hpre : key.isPrefixOf (c :: s) = true := by
      rw [← hs]
      exact List.isPrefixOf_iff_prefix.2 (List.prefix_append _ _)
    rw [strstr, hpre, if_pos rfl]

/-- A quotation mark behind which the key does not go on. -/
lemma strstr_quote {b key : Text} {k : UInt8} (h : ∀ c ∈ b.head?, k ≠ c) :
    strstr (quote :: b) (quote :: k :: key) = strstr b (quote :: k :: key) := by
  have hnot : (quote :: k :: key).isPrefixOf (quote :: b) = false := by
    cases b with
    | nil => rfl
    | cons c b =>
      rw [List.isPrefixOf, List.isPrefixOf, Bool.and_eq_false_iff, Bool.and_eq_false_iff]
      exact .inr (.inl (beq_eq_false_iff_ne.2 (h c rfl)))
  rw [strstr, hnot, if_neg Bool.false_ne_true]

/-! ## Addresses -/

lemma isDigit_digit {n : ℕ} (h : n < 10) : isDigit (Inet.digit n) = true := by
  have hto : (Inet.digit n).toNat = 48 + n := Nat.mod_eq_of_lt (by omega)
  rw [isDigit_iff, hto]
  omega

lemma isDigit_of_mem_octetText {n : ℕ} (hn : n < 256) {b : UInt8} (h : b ∈ Inet.octetText n) :
    isDigit b = true := by
  rw [Inet.octetText] at h
  split_ifs at h
  · obtain rfl := List.mem_singleton.1 h
    exact isDigit_digit (by omega)
  · simp only [List.mem_cons, List.not_mem_nil, or_false] at h
    obtain rfl | rfl := h <;> exact isDigit_digit (by omega)
  · simp only [List.mem_cons, List.not_mem_nil, or_false] at h
    obtain rfl | rfl | rfl := h <;> exact isDigit_digit (by omega)

/-- An address in decimal has digits and dots only. -/
lemma mem_dottedNtop {address : UInt32} {b : UInt8} (h : b ∈ Inet.dottedNtop address) :
    isDigit b = true ∨ b = 46 := by
  have hoctet : ∀ n, b ∈ Inet.octetText (n % 256) → isDigit b = true :=
    fun n => isDigit_of_mem_octetText (Nat.mod_lt _ (by decide))
  have hform : Inet.dottedNtop address =
      Inet.octetText (address.toNat % 256) ++ 46 ::
        (Inet.octetText (address.toNat / 256 % 256) ++ 46 ::
          (Inet.octetText (address.toNat / 65536 % 256) ++ 46 ::
            Inet.octetText (address.toNat / 16777216 % 256))) := by
    simp [Inet.dottedNtop, List.intercalate]
  rw [hform] at h
  simp only [List.mem_append, List.mem_cons] at h
  obtain h | h | h | h | h | h | h := h
  · exact .inl (hoctet _ h)
  · exact .inr h
  · exact .inl (hoctet _ h)
  · exact .inr h
  · exact .inl (hoctet _ h)
  · exact .inr h
  · exact .inl (hoctet _ h)

lemma notMem_dottedNtop {address : UInt32} {c : UInt8} (hdigit : isDigit c = false)
    (hdot : c ≠ 46) : c ∉ Inet.dottedNtop address := by
  intro h
  obtain h | h := mem_dottedNtop h
  · rw [h] at hdigit
    exact absurd hdigit (by decide)
  · exact hdot h

/-- A colon is no address. -/
lemma dottedNtop_ne_colon (address : UInt32) : Inet.dottedNtop address ≠ [colon] := by
  intro h
  have hread := Inet.dottedPton_dottedNtop address
  rw [h, show Inet.dottedPton [colon] = none by decide] at hread
  exact absurd hread (Option.some_ne_none address).symm

/-! ## The answer -/

/-- The answer behind its first key. -/
def behindIpKey (address : UInt32) (port : UInt16) : Text :=
  colon :: quote :: (Inet.dottedNtop address ++ quote :: 44 ::
    (jsonString (ascii "observedPort") ++ colon :: (decimalText port.toNat ++ [125])))

lemma probeReply_eq (address : UInt32) (port : UInt16) :
    probeReply address port =
      123 :: (jsonString (ascii "observedIp") ++ behindIpKey address port) := by
  have hopen : ascii "\x7b" = [123] := by decide
  have hcolon : ascii ":" = [colon] := by decide
  have hcomma : ascii "," = [44] := by decide
  have hclose : ascii "\x7d" = [125] := by decide
  simp only [probeReply, behindIpKey, jsonString, hopen, hcolon, hcomma, hclose,
    List.append_assoc, List.cons_append, List.nil_append]

variable (address : UInt32) (port : UInt16)

/-- The first key is found, and a colon is found between the marks. -/
lemma findObservedIp_probeReply : findObservedIp (probeReply address port) = [colon] := by
  have hkey : strstr (probeReply address port) (jsonString (ascii "observedIp")) =
      some (jsonString (ascii "observedIp") ++ behindIpKey address port) := by
    rw [probeReply_eq, ← List.singleton_append]
    exact (strstr_append (by decide)).trans (strstr_self _ _)
  -- The mark that the key begins with is the first one, and the one behind the key the second.
  have hfirst : strchr (jsonString (ascii "observedIp") ++ behindIpKey address port) quote =
      some (jsonString (ascii "observedIp") ++ behindIpKey address port) := rfl
  have hsecond : strchr (jsonString (ascii "observedIp") ++ behindIpKey address port).tail quote =
      some (quote :: behindIpKey address port) := by
    have hnot : quote ∉ ascii "observedIp" := by decide
    have htail : (jsonString (ascii "observedIp") ++ behindIpKey address port).tail =
        ascii "observedIp" ++ quote :: behindIpKey address port := by
      simp only [jsonString, List.cons_append, List.tail_cons, List.append_assoc,
        List.nil_append]
    rw [htail]
    exact strchr_append hnot
  have hthird : strchr (behindIpKey address port) quote = some (behindIpKey address port).tail :=
    rfl
  rw [findObservedIp, hkey, Option.bind_some, hfirst, Option.bind_some, hsecond]
  simp only [Option.bind_some, List.tail_cons, hthird, Option.map_some]
  have hlen : (behindIpKey address port).length - (behindIpKey address port).tail.length = 1 := by
    rw [List.length_tail, behindIpKey, List.length_cons]
    omega
  rw [hlen]
  rfl

/-- The second key is found behind the address, and its colon with it. -/
lemma findObservedPort_probeReply : findObservedPort (probeReply address port) = port := by
  have hip : quote ∉ Inet.dottedNtop address := notMem_dottedNtop (by decide) (by decide)
  have ho : (111 : UInt8) ∉ Inet.dottedNtop address := notMem_dottedNtop (by decide) (by decide)
  have hkeyEq : jsonString (ascii "observedPort") = quote :: 111 :: ascii "bservedPort\"" := by
    decide
  have hip : strstr (probeReply address port) (jsonString (ascii "observedPort")) =
      some (jsonString (ascii "observedPort") ++ colon :: (decimalText port.toNat ++ [125])) := by
    have hbrace : strstr (probeReply address port) (jsonString (ascii "observedPort")) =
        strstr (ascii "observedIp" ++ quote :: behindIpKey address port)
          (jsonString (ascii "observedPort")) := by
      rw [probeReply_eq]
      rfl
    have hname : quote ∉ ascii "observedIp" := by decide
    rw [hbrace, hkeyEq, strstr_append hname, strstr_quote (by simp [behindIpKey, colon]),
      behindIpKey, ← List.singleton_append, strstr_append (by decide), strstr_quote,
      strstr_append hip, strstr_quote (by simp), ← List.singleton_append, strstr_append (by decide),
      ← hkeyEq]
    · exact strstr_self _ _
    · intro c hc
      cases hs : Inet.dottedNtop address with
      | nil =>
        rw [hs] at hc
        obtain rfl : quote = c := Option.some.inj hc
        decide
      | cons b s =>
        rw [hs] at hc ho
        obtain rfl : b = c := Option.some.inj hc
        rintro rfl
        exact ho List.mem_cons_self
  have hcolon : strchr (jsonString (ascii "observedPort") ++
      colon :: (decimalText port.toNat ++ [125])) colon =
      some (colon :: (decimalText port.toNat ++ [125])) := by
    have hname : colon ∉ ascii "observedPort" := by decide
    refine strchr_append ?_
    simpa [jsonString, quote, colon] using hname
  have hlt := port.toNat_lt
  have hport : atoi (decimalText port.toNat ++ [125]) = port.toNat := by
    refine atoi_decimalText_append (by omega) ?_
    intro b hb
    obtain rfl : 125 = b := Option.some.inj hb
    rfl
  rw [findObservedPort, hip, Option.bind_some, hcolon]
  show UInt16.ofInt (atoi (decimalText port.toNat ++ [125])) = port
  have hmod : ((port.toNat : ℤ) % 2 ^ 16).toNat = port.toNat := by omega
  rw [hport, UInt16.ofInt, hmod]
  exact UInt16.ofNat_toNat

/-- The answer has no zero in it and fits the buffer. -/
lemma probeReply_fits : 0 ∉ probeReply address port ∧ (probeReply address port).length ≤ 255 := by
  have hlt := port.toNat_lt
  have hport : (decimalText port.toNat).length ≤ 5 :=
    (length_decimalText_le_iff (by decide)).2 (by omega)
  have hip := Inet.length_le_of_dottedPton (Inet.dottedPton_dottedNtop address)
  have hzero : (0 : UInt8) ∉ Inet.dottedNtop address := notMem_dottedNtop (by decide) (by decide)
  have hzero' : (0 : UInt8) ∉ decimalText port.toNat := by
    intro h
    exact (ne_of_isDigit (isDigit_of_mem_decimalText h)).2.2.2.2 rfl
  have hnames : (0 : UInt8) ∉ ascii "observedIp" ∧ (0 : UInt8) ∉ ascii "observedPort" ∧
      (ascii "observedIp").length = 10 ∧ (ascii "observedPort").length = 12 := by decide
  rw [probeReply_eq, behindIpKey]
  constructor
  · simp [jsonString, quote, colon, hnames, hzero, hzero']
  · simp only [jsonString, List.length_cons, List.length_append, List.length_nil, hnames]
    omega

/-- **The address in the answer is never found: the colon before it is taken for it.** -/
theorem natProbe_probeReply (address : UInt32) (port : UInt16) :
    ¬ DecodesRight address port ∧
      (natProbe (some (probeReply address port))).observedIp = [colon] ∧
      (natProbe (some (probeReply address port))).observedPort = port := by
  obtain ⟨hzero, hlen⟩ := probeReply_fits address port
  have hne : ¬ (probeReply address port = [] ∨
      responseSize < (probeReply address port).length) := by
    rw [not_or, not_lt]
    refine ⟨?_, hlen⟩
    rw [probeReply_eq]
    exact List.cons_ne_nil _ _
  have hresult : natProbe (some (probeReply address port)) =
      ⟨[colon] ≠ [] ∧ port > 0, [colon], port⟩ := by
    simp only [natProbe, if_neg hne, CString.takeWhile_eq_self_iff_noNul.2 hzero,
      findObservedIp_probeReply, findObservedPort_probeReply]
  rw [hresult]
  refine ⟨?_, rfl, rfl⟩
  intro hright
  rw [DecodesRight, hresult] at hright
  exact dottedNtop_ne_colon address (congrArg NatProbeResult.observedIp hright).symm

/-- The answer to a probe from port 40000 of 203.0.113.7. -/
theorem not_decodesRight_forty_thousand :
    natProbe (some (ascii
      "\x7b\"observedIp\":\"203.0.113.7\",\"observedPort\":40000\x7d")) =
        ⟨true, ascii ":", 40000⟩ ∧ ¬ DecodesRight 0x077100CB 40000 := by
  have hreply : probeReply 0x077100CB 40000 =
      ascii "\x7b\"observedIp\":\"203.0.113.7\",\"observedPort\":40000\x7d" := by
    decide +kernel
  have hrun : natProbe (some (ascii
      "\x7b\"observedIp\":\"203.0.113.7\",\"observedPort\":40000\x7d")) =
        ⟨true, ascii ":", 40000⟩ := by
    decide +kernel
  refine ⟨hrun, ?_⟩
  rw [DecodesRight, hreply, hrun]
  intro h
  have hip := congrArg NatProbeResult.observedIp h
  exact dottedNtop_ne_colon 0x077100CB hip.symm

end Transport
end Sf4e
