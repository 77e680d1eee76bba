/-
# Direct room codes

A direct room code is a host, a colon and a port.  `FormatRoomCode` prints one into a buffer of
its caller.  `ParseRoomCode` copies what it is given into a buffer of 256 bytes, trims it there,
splits it at the last colon, reads the port with `atoi` and copies the host into a buffer of its
caller.

`atoi` reads a number that the text begins with, so that a code may go on behind its port, and
both copies cut off what does not fit.
-/
import Sf4e.Launcher.RoomCode
import Sf4e.Update.Atoi

namespace Sf4e
namespace Launcher

open Wire Update

/-! ## The two functions -/

/-- `FormatRoomCode`, with `snprintf` into a buffer of a given size. -/
def formatRoomCode (host : Text) (port : UInt16) (outCodeLen : ℕ) : Text :=
  (host ++ colon :: decimalText port.toNat).take (outCodeLen - 1)

/-- What stands before the last colon. -/
def beforeLastColon (s : Text) : Text := (s.rdropWhile (· != colon)).dropLast

/-- What stands behind the last colon. -/
def behindLastColon (s : Text) : Text := s.rtakeWhile (· != colon)

/-- The size of `buf`. -/
def parseBufSize : ℕ := 256

/-- `ParseRoomCode`, with a host buffer of a given size. -/
def parseRoomCode (roomCode : Text) (outHostLen : ℕ) : Option (Text × UInt16) :=
  let buf := trimRoomCode (CString.truncate parseBufSize roomCode)
  if buf = [] then none
  -- `strrchr`
  else if colon ∉ buf ∨ beforeLastColon buf = [] then none
  else
    let port := atoi (behindLastColon buf)
    if port < 1 ∨ port > 65535 then none
    else
      let outHost := CString.truncate outHostLen (beforeLastColon buf)
      if outHost = [] then none else some (outHost, UInt16.ofNat port.toNat)

/-! ## The property -/

/-- The host of a direct code. -/
structure IsHost (host : Text) : Prop where
  nonempty : host ≠ []
  noNul : 0 ∉ host
  noColon : colon ∉ host
  noBlank : host.all (fun b => !isBlank b) = true

/-- The text is a decimal numeral of a number. -/
structure Numeral (text : Text) (n : ℕ) : Prop where
  nonempty : text ≠ []
  digits : text.all isDigit = true
  value : Inet.decimal text = n

/-- The code of a host and a port is read as these. -/
def RoundTrips (outCodeLen outHostLen : ℕ) (host : Text) (port : UInt16) : Prop :=
  parseRoomCode (formatRoomCode host port outCodeLen) outHostLen = some (host, port)

/-- If a text is read as a host and a port, then it is these and nothing more. -/
def ReadsExactly (outHostLen : ℕ) (roomCode : Text) : Prop :=
  ∀ host port, parseRoomCode roomCode outHostLen = some (host, port) →
    IsHost host ∧ 1 ≤ port.toNat ∧
      ∃ numeral, Numeral numeral port.toNat ∧ trimRoomCode roomCode = host ++ colon :: numeral

/-- Codes are read as they are meant. -/
structure DirectCodesExact (outCodeLen outHostLen : ℕ) (host : Text) (port : UInt16)
    (roomCode : Text) : Prop where
  roundTrips : RoundTrips outCodeLen outHostLen host port
  readsExactly : ReadsExactly outHostLen roomCode

/-- The code of a host and a port fits the buffer that it is printed into, and the one that it is
read in. -/
def CodeFits (outCodeLen : ℕ) (host : Text) (port : UInt16) : Prop :=
  (host ++ colon :: decimalText port.toNat).length < min outCodeLen parseBufSize

/-- What is left of a text is no code at all: it has no host, or no port in its range. -/
def NoCode (kept : Text) : Prop :=
  colon ∉ kept ∨ beforeLastColon kept = [] ∨ atoi (behindLastColon kept) < 1 ∨
    65535 < atoi (behindLastColon kept)

/-- Nothing but blanks is cut off, there is one colon and no blank, what is before the colon fits
the buffer, and what is behind it are digits. -/
structure PlainCode (outHostLen : ℕ) (roomCode : Text) : Prop where
  whole : (trimEnd roomCode).length < parseBufSize
  noColon : colon ∉ beforeLastColon (trimRoomCode roomCode)
  noBlank : (beforeLastColon (trimRoomCode roomCode)).all (fun b => !isBlank b) = true
  fits : (beforeLastColon (trimRoomCode roomCode)).length < outHostLen
  digits : (behindLastColon (trimRoomCode roomCode)).all isDigit = true

/-! ## The last colon -/

lemma append_lastColon {s : Text} (h : colon ∈ s) :
    s = beforeLastColon s ++ colon :: behindLastColon s ∧ colon ∉ behindLastColon s := by
  have hsplit : s.rdropWhile (· != colon) ++ s.rtakeWhile (· != colon) = s :=
    List.rdropWhile_append_rtakeWhile
  have hbehind : colon ∉ behindLastColon s := by
    intro hmem
    simpa using List.mem_rtakeWhile_imp hmem
  have hne : s.rdropWhile (· != colon) ≠ [] := by
    intro hnil
    rw [hnil, List.nil_append] at hsplit
    rw [← hsplit] at h
    exact hbehind h
  have hlast : (s.rdropWhile (· != colon)).getLast hne = colon := by
    simpa using List.rdropWhile_last_not (· != colon) s hne
  have hbefore : beforeLastColon s ++ [colon] = s.rdropWhile (· != colon) := by
    have hdrop := List.dropLast_append_getLast hne
    rwa [hlast] at hdrop
  refine ⟨?_, hbehind⟩
  calc s = s.rdropWhile (· != colon) ++ s.rtakeWhile (· != colon) := hsplit.symm
    _ = beforeLastColon s ++ [colon] ++ behindLastColon s := by rw [hbefore, behindLastColon]
    _ = beforeLastColon s ++ colon :: behindLastColon s := by
      rw [List.append_assoc, List.singleton_append]

/-- A split at a colon with none behind it is the one at the last colon. -/
lemma lastColon_append {a b : Text} (hb : colon ∉ b) :
    beforeLastColon (a ++ colon :: b) = a ∧ behindLastColon (a ++ colon :: b) = b := by
  obtain ⟨hsplit, hbehind⟩ := append_lastColon (s := a ++ colon :: b) (by simp)
  have hno : ∀ x y c d : Text, colon ∉ y → colon ∉ d →
      x ++ colon :: y = c ++ colon :: d → x = c ∧ y = d := by
    intro x y c d hy hd heq
    obtain ⟨t, rfl, ht⟩ | ⟨t, rfl, ht⟩ := List.append_eq_append_iff.1 heq
    · cases t with
      | nil => exact ⟨(List.append_nil x).symm, (List.cons.inj ht).2⟩
      | cons e t =>
        obtain ⟨-, hyt⟩ := List.cons.inj ht
        exact absurd (by rw [hyt]; simp) hy
    · cases t with
      | nil => exact ⟨List.append_nil c, (List.cons.inj ht).2.symm⟩
      | cons e t =>
        obtain ⟨-, hdt⟩ := List.cons.inj ht
        exact absurd (by rw [hdt]; simp) hd
  obtain ⟨hx, hy⟩ := hno _ _ _ _ hb hbehind hsplit
  exact ⟨hx.symm, hy.symm⟩

/-! ## Ports -/

lemma not_isBlank_of_isDigit {b : UInt8} (h : isDigit b = true) : isBlank b = false := by
  obtain ⟨hlow, hhigh⟩ := isDigit_iff.1 h
  have hne : ∀ c : UInt8, c.toNat < 48 → (b == c) = false := by
    intro c hc
    rw [beq_eq_false_iff_ne]
    rintro rfl
    omega
  rw [isBlank, hne 32 (by decide), hne 9 (by decide), hne 13 (by decide), hne 10 (by decide)]
  rfl

/-- More digits make a larger number. -/
lemma decimal_append_eq {a b : Text} (ha : 0 < Inet.decimal a)
    (h : Inet.decimal (a ++ b) = Inet.decimal a) : b = [] := by
  have hle : ∀ (l : Text) (n : ℕ), n ≤ l.foldl (fun n b => 10 * n + (b.toNat - 48)) n := by
    intro l
    induction l with
    | nil => exact fun n => le_rfl
    | cons b l ih =>
      intro n
      have hnext := ih (10 * n + (b.toNat - 48))
      rw [List.foldl_cons]
      omega
  cases b with
  | nil => rfl
  | cons c b =>
    exfalso
    rw [Inet.decimal, List.foldl_append, List.foldl_cons] at h
    have hnext := hle b (10 * Inet.decimal a + (c.toNat - 48))
    rw [Inet.decimal] at ha hnext
    rw [Inet.decimal] at h
    omega

/-! ## Parsing -/

variable {outCodeLen outHostLen : ℕ} {roomCode host : Text} {port : UInt16}

/-- What is left of a text in `buf`. -/
def keptCode (roomCode : Text) : Text := trimRoomCode (roomCode.take (parseBufSize - 1))

/-- When a text is read, and as what. -/
lemma parseRoomCode_eq_some_iff (hnul : 0 ∉ roomCode) :
    parseRoomCode roomCode outHostLen = some (host, port) ↔
      ¬ NoCode (keptCode roomCode) ∧ host ≠ [] ∧
        host = CString.truncate outHostLen (beforeLastColon (keptCode roomCode)) ∧
        (port.toNat : ℤ) = atoi (behindLastColon (keptCode roomCode)) := by
  have hkept : trimRoomCode (CString.truncate parseBufSize roomCode) = keptCode roomCode := by
    rw [truncate_of_noNul hnul, keptCode]
  rw [parseRoomCode, hkept]
  generalize keptCode roomCode = kept
  dsimp only
  constructor
  · intro h
    split_ifs at h with hnil hcolon hport hhost
    obtain ⟨rfl, rfl⟩ := Prod.mk.inj (Option.some.inj h)
    rw [not_or] at hcolon hport
    refine ⟨?_, hhost, rfl, ?_⟩
    · rintro (hno | hno | hno | hno)
      · exact hcolon.1 hno
      · exact hcolon.2 hno
      · exact hport.1 hno
      · exact hport.2 hno
    · have hlow := not_lt.1 hport.1
      have hhigh := not_lt.1 hport.2
      rw [UInt16.toNat_ofNat_of_lt' (by simp [UInt16.size]; omega)]
      omega
  · rintro ⟨hcode, hne, rfl, hport⟩
    simp only [NoCode, not_or, not_not] at hcode
    obtain ⟨hcolon, hbefore, hlow, hhigh⟩ := hcode
    have hnil : kept ≠ [] := by
      rintro rfl
      exact absurd hcolon List.not_mem_nil
    rw [if_neg hnil, if_neg (by simp [hcolon, hbefore]), if_neg (by omega), if_neg hne]
    have hto : UInt16.ofNat (atoi (behindLastColon kept)).toNat = port := by
      rw [← hport, Int.toNat_natCast]
      exact UInt16.ofNat_toNat
    rw [hto]

/-- What is left of a code without blanks: as much of it as fits. -/
lemma keptCode_of_noBlank {code : Text} (h : code.all (fun b => !isBlank b) = true) :
    keptCode code = code.take (parseBufSize - 1) := by
  have hno : ∀ s : Text, s.all (fun b => !isBlank b) = true → trimRoomCode s = s := by
    intro s hs
    rw [List.all_eq_true] at hs
    have hdrop : s.dropWhile isBlank = s := by
      rw [List.dropWhile_eq_self_iff]
      intro hlen hblank
      have hfalse := hs _ (List.getElem_mem hlen)
      rw [hblank] at hfalse
      exact Bool.false_ne_true hfalse
    rw [trimRoomCode, hdrop, List.rdropWhile_eq_self_iff]
    intro hne hblank
    have hfalse := hs _ (List.getLast_mem hne)
    rw [hblank] at hfalse
    exact Bool.false_ne_true hfalse
  refine hno _ ?_
  rw [List.all_eq_true] at h ⊢
  exact fun b hb => h b (List.mem_of_mem_take hb)

lemma noBlank_code (hhost : IsHost host) (n : ℕ) :
    (host ++ colon :: decimalText n).all (fun b => !isBlank b) = true := by
  have hdigits : (decimalText n).all (fun b => !isBlank b) = true := by
    rw [List.all_eq_true]
    intro b hb
    rw [not_isBlank_of_isDigit (isDigit_of_mem_decimalText hb)]
    rfl
  rw [List.all_append, hhost.noBlank, List.all_cons, hdigits]
  rfl

lemma noNul_code (hhost : IsHost host) (n : ℕ) : 0 ∉ host ++ colon :: decimalText n := by
  intro h
  obtain h | h := List.mem_append.1 h
  · exact hhost.noNul h
  · obtain h | h := List.mem_cons.1 h
    · exact absurd h (by decide)
    · exact (ne_of_isDigit (isDigit_of_mem_decimalText h)).2.2.2.2 rfl

lemma noColon_digits {s : Text} (h : s.all isDigit = true) : colon ∉ s := by
  intro hmem
  exact (ne_of_isDigit (List.all_eq_true.1 h colon hmem)).2.2.2.1 rfl

/-- A code is read as what it was made of if it has not been cut off. -/
lemma roundTrips_iff (hhost : IsHost host) (hfits : host.length < outHostLen)
    (hport : 1 ≤ port.toNat) :
    RoundTrips outCodeLen outHostLen host port ↔ CodeFits outCodeLen host port := by
  have hlt := port.toNat_lt
  have hdigits := all_isDigit_decimalText port.toNat
  have hnul : 0 ∉ formatRoomCode host port outCodeLen :=
    fun h => noNul_code hhost _ (List.mem_of_mem_take h)
  have hkept : keptCode (formatRoomCode host port outCodeLen) =
      (host ++ colon :: decimalText port.toNat).take
        (min (parseBufSize - 1) (outCodeLen - 1)) := by
    rw [keptCode_of_noBlank, formatRoomCode, List.take_take]
    rw [List.all_eq_true]
    exact fun b hb => List.all_eq_true.1 (noBlank_code hhost _) b (List.mem_of_mem_take hb)
  rw [RoundTrips, parseRoomCode_eq_some_iff hnul, hkept]
  generalize hm : min (parseBufSize - 1) (outCodeLen - 1) = m
  constructor
  · rintro ⟨hcode, -, -, hvalue⟩
    by_contra hcut
    simp only [NoCode, not_or, not_not] at hcode
    obtain ⟨hcolon, -, hlow, hhigh⟩ := hcode
    have hshort : m < (host ++ colon :: decimalText port.toNat).length := by
      rw [CodeFits, not_lt] at hcut
      have hpos : 0 < (host ++ colon :: decimalText port.toNat).length := by
        rw [List.length_append]
        exact Nat.add_pos_right _ (Nat.succ_pos _)
      omega
    -- The colon is still there, so that the cut is in the port.
    have hlen : host.length < m := by
      by_contra hle
      rw [List.take_append_of_le_length (not_lt.1 hle)] at hcolon
      exact hhost.noColon (List.mem_of_mem_take hcolon)
    obtain ⟨k, rfl⟩ := Nat.exists_eq_add_of_lt hlen
    have htake : (host ++ colon :: decimalText port.toNat).take (host.length + k + 1) =
        host ++ colon :: (decimalText port.toNat).take k := by
      rw [Nat.add_assoc, List.take_length_add_append, List.take_succ_cons]
    have hsome : ((decimalText port.toNat).take k).all isDigit = true := by
      rw [List.all_eq_true] at hdigits ⊢
      exact fun b hb => hdigits b (List.mem_of_mem_take hb)
    rw [htake, (lastColon_append (noColon_digits hsome)).2, atoi_of_digits hsome]
      at hlow hhigh hvalue
    have hdrop : (decimalText port.toNat).drop k = [] := by
      refine decimal_append_eq (a := (decimalText port.toNat).take k) (by omega) ?_
      rw [List.take_append_drop, decimal_decimalText]
      omega
    rw [List.length_append, List.length_cons] at hshort
    rw [List.drop_eq_nil_iff] at hdrop
    omega
  · intro hwhole
    have hall : (host ++ colon :: decimalText port.toNat).take m =
        host ++ colon :: decimalText port.toNat := by
      rw [CodeFits] at hwhole
      exact List.take_of_length_le (by omega)
    obtain ⟨hbefore, hbehind⟩ := lastColon_append (a := host) (noColon_digits hdigits)
    have hvalue : atoi (decimalText port.toNat) = port.toNat := by
      rw [atoi_of_digits hdigits, decimal_decimalText]
      omega
    have htruncate : CString.truncate outHostLen host = host :=
      (CString.truncate_eq_self_iff (by omega)).2 ⟨hfits, hhost.noNul⟩
    rw [hall, hbefore, hbehind, hvalue, htruncate]
    refine ⟨?_, hhost.nonempty, rfl, rfl⟩
    simp only [NoCode, hbefore, hbehind, hvalue, not_or, not_not]
    exact ⟨by simp, hhost.nonempty, by omega, by omega⟩

/-- A split at the only colon. -/
lemma append_colon_inj {a b c d : Text} (hc : colon ∉ c) (hd : colon ∉ d)
    (h : a ++ colon :: b = c ++ colon :: d) : a = c ∧ b = d := by
  obtain ⟨t, rfl, ht⟩ | ⟨t, rfl, ht⟩ := List.append_eq_append_iff.1 h
  · cases t with
    | nil => exact ⟨(List.append_nil a).symm, (List.cons.inj ht).2⟩
    | cons e t =>
      obtain ⟨rfl, -⟩ := List.cons.inj ht
      exact absurd (by simp) hc
  · cases t with
    | nil => exact ⟨List.append_nil c, (List.cons.inj ht).2.symm⟩
    | cons e t =>
      obtain ⟨-, hdt⟩ := List.cons.inj ht
      exact absurd (by rw [hdt]; simp) hd

/-- What is left of a text begins the text, and is all of it if only blanks are cut off. -/
lemma keptCode_isPrefix (roomCode : Text) :
    ∃ rest, trimRoomCode roomCode = keptCode roomCode ++ rest ∧
      (rest = [] ↔ (trimEnd roomCode).length < parseBufSize) := by
  by_cases hle : (trimEnd roomCode).length ≤ parseBufSize - 1
  · refine ⟨[], ?_, ?_⟩
    · rw [List.append_nil, keptCode, trimRoomCode_eq, trimRoomCode_eq, trimEnd_take_of_le hle]
    · exact ⟨fun _ => Nat.lt_of_le_of_lt hle (by decide), fun _ => rfl⟩
  · obtain ⟨⟨rest, hrest⟩, hlt⟩ := trimRoomCode_take_of_lt (not_le.1 hle)
    refine ⟨rest, hrest.symm, ?_⟩
    constructor
    · rintro rfl
      rw [List.append_nil] at hrest
      rw [hrest] at hlt
      exact absurd hlt (lt_irrefl _)
    · intro hshort
      exact absurd (Nat.le_sub_one_of_lt hshort) hle

lemma notMem_trimRoomCode {b : UInt8} (h : b ∉ roomCode) : b ∉ trimRoomCode roomCode := by
  intro hmem
  have hend : trimRoomCode roomCode <+: roomCode.dropWhile isBlank := List.rdropWhile_prefix _ _
  exact h ((List.dropWhile_suffix _).subset (hend.subset hmem))

/-- A text is read as what it is if it is no code at all, or a plain one. -/
lemma readsExactly_iff (hnul : 0 ∉ roomCode) (hlen : 2 ≤ outHostLen) :
    ReadsExactly outHostLen roomCode ↔
      NoCode (keptCode roomCode) ∨ PlainCode outHostLen roomCode := by
  obtain ⟨rest, htrim, hrest⟩ := keptCode_isPrefix roomCode
  have hnulKept : 0 ∉ keptCode roomCode := by
    intro h
    refine notMem_trimRoomCode hnul ?_
    rw [htrim]
    exact List.mem_append_left _ h
  constructor
  · intro hexact
    by_cases hcode : NoCode (keptCode roomCode)
    · exact .inl hcode
    · right
      have hranges := hcode
      simp only [NoCode, not_or, not_not] at hranges
      obtain ⟨hcolon, hbefore, hlow, hhigh⟩ := hranges
      obtain ⟨hsplit, hbehind⟩ := append_lastColon hcolon
      have hnulBefore : 0 ∉ beforeLastColon (keptCode roomCode) := by
        intro h
        refine hnulKept ?_
        rw [hsplit]
        exact List.mem_append_left _ h
      have htruncate : CString.truncate outHostLen (beforeLastColon (keptCode roomCode)) =
          (beforeLastColon (keptCode roomCode)).take (outHostLen - 1) :=
        truncate_of_noNul hnulBefore
      have hne : (beforeLastColon (keptCode roomCode)).take (outHostLen - 1) ≠ [] := by
        intro hnil
        obtain hzero | hnil := List.take_eq_nil_iff.1 hnil
        · omega
        · exact hbefore hnil
      -- the port that is read
      obtain ⟨port, hport⟩ : ∃ port : UInt16,
          (port.toNat : ℤ) = atoi (behindLastColon (keptCode roomCode)) := by
        refine ⟨UInt16.ofNat (atoi (behindLastColon (keptCode roomCode))).toNat, ?_⟩
        rw [UInt16.toNat_ofNat_of_lt' (by simp [UInt16.size]; omega)]
        omega
      obtain ⟨hhost, hpos, numeral, hnumeral, hform⟩ := hexact _ _
        ((parseRoomCode_eq_some_iff hnul).2 ⟨hcode, hne, htruncate.symm, hport⟩)
      have hjoined : beforeLastColon (keptCode roomCode) ++
          colon :: (behindLastColon (keptCode roomCode) ++ rest) =
          (beforeLastColon (keptCode roomCode)).take (outHostLen - 1) ++ colon :: numeral := by
        rw [← hform, htrim]
        conv_rhs => rw [hsplit]
        rw [List.append_assoc, List.cons_append]
      obtain ⟨hhostEq, hnumeralEq⟩ :=
        append_colon_inj hhost.noColon (noColon_digits hnumeral.digits) hjoined
      have hdigits : (behindLastColon (keptCode roomCode)).all isDigit = true := by
        have hall := hnumeral.digits
        rw [← hnumeralEq, List.all_append, Bool.and_eq_true] at hall
        exact hall.1
      -- A numeral that goes on behind the buffer is another number.
      have hnone : rest = [] := by
        have hvalue := hnumeral.value
        have hlt := port.toNat_lt
        rw [atoi_of_digits hdigits] at hport
        rw [← hnumeralEq] at hvalue
        exact decimal_append_eq (a := behindLastColon (keptCode roomCode)) (by omega) (by omega)
      rw [hnone, List.append_nil] at htrim
      rw [← hhostEq] at hhost
      refine ⟨hrest.1 hnone, ?_, ?_, ?_, ?_⟩
      · rw [htrim]
        exact hhost.noColon
      · rw [htrim]
        exact hhost.noBlank
      · rw [htrim]
        have hle := congrArg List.length hhostEq
        rw [List.length_take] at hle
        omega
      · rw [htrim]
        exact hdigits
  · rintro (hcode | hplain) host port hparse
    · exact absurd hcode ((parseRoomCode_eq_some_iff hnul).1 hparse).1
    · obtain ⟨hcode, hne, hhost, hport⟩ := (parseRoomCode_eq_some_iff hnul).1 hparse
      have hnone := hrest.2 hplain.whole
      rw [hnone, List.append_nil] at htrim
      simp only [NoCode, not_or, not_not] at hcode
      obtain ⟨hcolon, hbefore, hlow, hhigh⟩ := hcode
      obtain ⟨hsplit, -⟩ := append_lastColon hcolon
      obtain ⟨-, hnoColon, hnoBlank, hfits, hdigits⟩ := hplain
      rw [htrim] at hnoColon hnoBlank hfits hdigits
      have hnulBefore : 0 ∉ beforeLastColon (keptCode roomCode) := by
        intro h
        refine hnulKept ?_
        rw [hsplit]
        exact List.mem_append_left _ h
      have hwhole : host = beforeLastColon (keptCode roomCode) :=
        hhost.trans ((CString.truncate_eq_self_iff (by omega)).2 ⟨hfits, hnulBefore⟩)
      refine ⟨?_, by omega, behindLastColon (keptCode roomCode), ⟨?_, hdigits, ?_⟩, ?_⟩
      · rw [hwhole]
        exact ⟨hbefore, hnulBefore, hnoColon, hnoBlank⟩
      · intro hnil
        rw [hnil, atoi_nil] at hlow
        omega
      · have hlt := port.toNat_lt
        rw [atoi_of_digits hdigits] at hport
        omega
      · rw [htrim, hwhole]
        exact hsplit

/-- **The codes of hosts and ports are read back if they fit, and a text is read as what it is if
it is no code at all or nothing is behind, before or between its parts.** -/
theorem directCodesExact_iff (hhost : IsHost host) (hfits : host.length < outHostLen)
    (hport : 1 ≤ port.toNat) (hnul : 0 ∉ roomCode) :
    DirectCodesExact outCodeLen outHostLen host port roomCode ↔
      CodeFits outCodeLen host port ∧
        (NoCode (keptCode roomCode) ∨ PlainCode outHostLen roomCode) := by
  have hlen : 2 ≤ outHostLen := by
    have hpos := List.length_pos_iff.2 hhost.nonempty
    omega
  rw [← roundTrips_iff hhost hfits hport, ← readsExactly_iff hnul hlen]
  exact ⟨fun h => ⟨h.roundTrips, h.readsExactly⟩, fun h => ⟨h.1, h.2⟩⟩

/-- The buffers of the launcher, a code and the same code with blanks around it. -/
theorem directCodesExact_iff_plain :
    DirectCodesExact 128 64 (Relay.ascii "10.0.0.1") 23456 (Relay.ascii " 10.0.0.1:23456\r\n") := by
  refine (directCodesExact_iff ⟨by decide, by decide, by decide, by decide⟩ (by decide) (by decide)
    (by decide)).2 ⟨?_, .inr ⟨?_, ?_, ?_, ?_, ?_⟩⟩
  · show (_ : ℕ) < _
    decide
  all_goals decide

/-- What stands behind the port is not looked at. -/
theorem not_readsExactly_junk :
    parseRoomCode (Relay.ascii "10.0.0.1:80x9") 64 = some (Relay.ascii "10.0.0.1", 80) ∧
      ¬ ReadsExactly 64 (Relay.ascii "10.0.0.1:80x9") := by
  refine ⟨by decide, ?_⟩
  rw [readsExactly_iff (by decide) (by decide)]
  rintro (hcode | hplain)
  · obtain h | h | h | h := hcode
    · exact absurd h (by decide)
    · exact absurd h (by decide)
    · exact absurd h (by decide)
    · exact absurd h (by decide)
  · exact absurd hplain.digits (by decide)

end Launcher
end Sf4e
