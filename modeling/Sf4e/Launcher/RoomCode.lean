/-
# Room codes

`NormalizeRelayRoomCode` turns what a player has typed into a room code: blanks at both ends are
dropped, the `SF4-` in front may be missing, and letters may be small.  It works on buffers of 32
bytes, into which it copies what fits: the text before its blanks are dropped, and the text with
the `SF4-` that it has put in front.

So a long text is judged by its beginning (`kept`).  A code may be lost behind blanks, and a text
may pass for a code because what does not fit is not looked at.

The broker's own `normalizeCode` and its routes take the codes as they are.
-/
import Sf4e.Broker.Http
import Sf4e.Launcher.Controller

namespace Sf4e
namespace Launcher

open Wire Relay

/-! ## The grammar -/

/-- `SF4-`. -/
def codePrefix : Text := ascii "SF4-"

/-- The text without the blanks at its end. -/
def trimEnd (s : Text) : Text := s.rdropWhile isBlank

/-- The text is a room code, in any case and with or without `SF4-`: which one. -/
def Reads (text code : Text) : Prop :=
  ∃ front token, text = front ++ token ∧
    (front = [] ∨ front.map toUpper = codePrefix) ∧
    4 ≤ token.length ∧ token.length ≤ 20 ∧ token.all isAlnumCodeChar = true ∧
    code = codePrefix ++ token.map toUpper

/-- The text is a room code. -/
def IsRoomCode (text : Text) : Prop := ∃ code, Reads text code

/-- The text of ASCII bytes. -/
def asciiText (s : Text) : String := .ofList (s.map fun b => Char.ofNat b.toNat)

/-- The input is read as the grammar says, and the code is one for both programs. -/
structure NormalizedWell (input : Text) : Prop where
  reads : ∀ code, normalizeRelayRoomCode input = some code ↔ Reads (trimRoomCode input) code
  fixed : ∀ code, normalizeRelayRoomCode input = some code →
    normalizeRelayRoomCode code = some code
  normalizeCode : ∀ code, normalizeRelayRoomCode input = some code →
    Broker.normalizeCode (asciiText code) = asciiText code
  route : ∀ code, normalizeRelayRoomCode input = some code →
    Broker.route "GET" ("/v1/rooms/" ++ asciiText code) = .room .lookup (asciiText code)

/-- The beginning of an input that decides. -/
def kept (input : Text) : Text :=
  let buf := trimRoomCode (input.take 31)
  if hasCodePrefix buf then buf else trimEnd (buf.take 27)

/-- No part of an input but blanks is cut off. -/
def FitsCode (input : Text) : Prop :=
  (trimEnd input).length ≤ 31 ∧
    (hasCodePrefix (trimRoomCode input) = true ∨ (trimRoomCode input).length ≤ 27)

/-- Nothing is cut off, or it does not matter, for neither the input nor its beginning is a
code. -/
def ReadWhole (input : Text) : Prop :=
  FitsCode input ∨ (¬ IsRoomCode (trimRoomCode input) ∧ ¬ IsRoomCode (kept input))

/-! ## Bytes -/

/-- What holds of all 256 bytes. -/
lemma forall_byte {p : UInt8 → Prop} (h : ∀ n < 256, p (UInt8.ofNat n)) (b : UInt8) : p b := by
  have hb := h b.toNat b.toNat_lt
  rwa [UInt8.ofNat_toNat] at hb

lemma toUpper_idem : ∀ b, toUpper (toUpper b) = toUpper b :=
  forall_byte (by decide +kernel)

lemma isAlnumCodeChar_toUpper : ∀ b, isAlnumCodeChar (toUpper b) = isAlnumCodeChar b :=
  forall_byte (by decide +kernel)

lemma isBlank_toUpper : ∀ b, isBlank (toUpper b) = isBlank b :=
  forall_byte (by decide +kernel)

lemma not_isBlank_of_alnum : ∀ b, isAlnumCodeChar b = true → isBlank b = false :=
  forall_byte (by decide +kernel)

lemma ne_zero_of_alnum : ∀ b, isAlnumCodeChar b = true → toUpper b ≠ 0 :=
  forall_byte (by decide +kernel)

lemma toUpper_ne_zero : ∀ b, b ≠ 0 → toUpper b ≠ 0 :=
  forall_byte (by decide +kernel)

/-- What a letter or a digit is for the broker, in capitals. -/
lemma char_of_alnum : ∀ b, isAlnumCodeChar b = true →
    let c := Char.ofNat (toUpper b).toNat
    c.toUpper = c ∧ c.isAlphanum = true ∧ c ≠ '/' ∧ Broker.isSpace c = false :=
  forall_byte (by decide +kernel)

/-! ## Blanks -/

lemma trimEnd_isPrefix (s : Text) : trimEnd s <+: s := List.rdropWhile_prefix _ _

/-- What is behind the text without its last blanks is blank. -/
lemma trimEnd_append (s : Text) :
    ∃ blanks, s = trimEnd s ++ blanks ∧ blanks.all isBlank = true := by
  refine ⟨s.rtakeWhile isBlank, List.rdropWhile_append_rtakeWhile.symm, ?_⟩
  rw [List.all_eq_true]
  exact fun b hb => List.mem_rtakeWhile_imp hb

lemma trimEnd_append_blanks (s : Text) {blanks : Text} (h : blanks.all isBlank = true) :
    trimEnd (s ++ blanks) = trimEnd s := by
  induction blanks using List.reverseRecOn with
  | nil => rw [List.append_nil]
  | append_singleton blanks b ih =>
    rw [List.all_append, Bool.and_eq_true] at h
    have hb : isBlank b = true := by simpa using h.2
    rw [← List.append_assoc, trimEnd, List.rdropWhile_concat_pos _ _ _ hb]
    exact ih h.1

lemma trimEnd_trimEnd (s : Text) : trimEnd (trimEnd s) = trimEnd s := List.rdropWhile_idempotent _ _

/-- A text that fits after its last blanks are dropped is copied as far as it matters. -/
lemma trimEnd_take_of_le {s : Text} {n : ℕ} (h : (trimEnd s).length ≤ n) :
    trimEnd (s.take n) = trimEnd s := by
  obtain ⟨blanks, hs, hblanks⟩ := trimEnd_append s
  have htake : s.take n = trimEnd s ++ blanks.take (n - (trimEnd s).length) := by
    conv_lhs => rw [hs, List.take_append, List.take_of_length_le h]
  have hall : (blanks.take (n - (trimEnd s).length)).all isBlank = true := by
    rw [List.all_eq_true] at hblanks ⊢
    exact fun b hb => hblanks b (List.mem_of_mem_take hb)
  rw [htake, trimEnd_append_blanks _ hall, trimEnd_trimEnd]

/-- The last byte of a text without its last blanks is no blank. -/
lemma trimEnd_eq_nil_of_all {s : Text} (h : (trimEnd s).all isBlank = true) : trimEnd s = [] := by
  have hself := trimEnd_trimEnd s
  rw [← hself, trimEnd, List.rdropWhile_eq_nil_iff]
  simpa using h

/-- It does not matter at which end the blanks are dropped first. -/
lemma trimRoomCode_eq (s : Text) : trimRoomCode s = (trimEnd s).dropWhile isBlank := by
  obtain ⟨blanks, hs, hblanks⟩ := trimEnd_append s
  have hend : trimEnd ((trimEnd s).dropWhile isBlank) = (trimEnd s).dropWhile isBlank := by
    rw [trimEnd, List.rdropWhile_eq_self_iff]
    intro hne
    have hne' : trimEnd s ≠ [] := by
      intro hnil
      rw [hnil] at hne
      exact hne rfl
    have hlast : ((trimEnd s).dropWhile isBlank).getLast hne = (trimEnd s).getLast hne' :=
      List.IsSuffix.getLast (List.dropWhile_suffix _) hne
    rw [hlast]
    exact List.rdropWhile_last_not _ _ hne'
  have hdrop : s.dropWhile isBlank = (trimEnd s ++ blanks).dropWhile isBlank := by rw [← hs]
  rw [List.dropWhile_append] at hdrop
  rw [trimRoomCode, hdrop]
  split
  · rename_i hempty
    have hnil : blanks.dropWhile isBlank = [] := by
      rw [List.dropWhile_eq_nil_iff]
      exact List.all_eq_true.1 hblanks
    rw [hnil, List.isEmpty_iff.1 hempty]
    rfl
  · exact (trimEnd_append_blanks _ hblanks).trans hend

/-- Nothing is left of a text of blanks only. -/
lemma trimRoomCode_eq_nil_iff (s : Text) : trimRoomCode s = [] ↔ trimEnd s = [] := by
  rw [trimRoomCode_eq]
  constructor
  · intro h
    refine trimEnd_eq_nil_of_all (List.all_eq_true.2 fun b hb => ?_)
    exact List.dropWhile_eq_nil_iff.1 h b hb
  · intro h
    rw [h]
    rfl

lemma trimEnd_map_toUpper (s : Text) :
    trimEnd (s.map toUpper) = (trimEnd s).map toUpper := by
  have hblank : isBlank ∘ toUpper = isBlank := funext isBlank_toUpper
  rw [trimEnd, List.rdropWhile, ← List.map_reverse, List.dropWhile_map, hblank, ← List.map_reverse]
  rfl

lemma trimRoomCode_map_toUpper (s : Text) :
    trimRoomCode (s.map toUpper) = (trimRoomCode s).map toUpper := by
  have hblank : isBlank ∘ toUpper = isBlank := funext isBlank_toUpper
  rw [trimRoomCode_eq, trimEnd_map_toUpper, List.dropWhile_map, hblank, trimRoomCode_eq]

lemma trimEnd_trimRoomCode (s : Text) : trimEnd (trimRoomCode s) = trimRoomCode s :=
  List.rdropWhile_idempotent _ _

lemma trimRoomCode_trimRoomCode (s : Text) : trimRoomCode (trimRoomCode s) = trimRoomCode s := by
  rw [trimRoomCode_eq, trimEnd_trimRoomCode, trimRoomCode_eq]
  exact List.dropWhile_idempotent _ _

/-- A text that does not fit is cut short, also without its blanks. -/
lemma trimRoomCode_take_of_lt {s : Text} {n : ℕ} (h : n < (trimEnd s).length) :
    trimRoomCode (s.take n) <+: trimRoomCode s ∧
      (trimRoomCode (s.take n)).length < (trimRoomCode s).length := by
  have hne : trimEnd s ≠ [] := List.ne_nil_of_length_pos (by omega)
  have hpos : 0 < (trimRoomCode s).length :=
    List.length_pos_iff.2 fun hnil => hne ((trimRoomCode_eq_nil_iff s).1 hnil)
  have htake : s.take n <+: trimEnd s := by
    obtain ⟨blanks, hs, -⟩ := trimEnd_append s
    have : s.take n = (trimEnd s).take n := by
      conv_lhs => rw [hs, List.take_append_of_le_length (by omega)]
    rw [this]
    exact List.take_prefix _ _
  obtain ⟨z, hz⟩ := (trimEnd_isPrefix (s.take n)).trans htake
  have hlen : (trimEnd (s.take n)).length ≤ n :=
    ((trimEnd_isPrefix _).length_le).trans (by simp)
  have hsplit : trimRoomCode s = (trimEnd (s.take n) ++ z).dropWhile isBlank := by
    rw [hz, trimRoomCode_eq]
  rw [List.dropWhile_append, ← trimRoomCode_eq] at hsplit
  split at hsplit
  · rename_i hempty
    have hnil : trimRoomCode (s.take n) = [] := List.isEmpty_iff.1 hempty
    rw [hnil]
    exact ⟨List.nil_prefix, hpos⟩
  · have hlen' : (trimEnd s).length = (trimEnd (s.take n)).length + z.length := by
      rw [← hz, List.length_append]
    have hlong : (trimRoomCode s).length = (trimRoomCode (s.take n)).length + z.length := by
      rw [hsplit, List.length_append]
    exact ⟨⟨z, hsplit.symm⟩, by omega⟩

lemma trimEnd_of_alnum {s : Text} (h : s.all isAlnumCodeChar = true) : trimEnd s = s := by
  rw [trimEnd, List.rdropWhile_eq_self_iff]
  intro hne
  have hlast := List.all_eq_true.1 h _ (List.getLast_mem hne)
  rw [not_isBlank_of_alnum _ hlast]
  simp

/-! ## The prefix -/

lemma length_codePrefix : codePrefix.length = 4 := by decide

lemma hasCodePrefix_iff (s : Text) :
    hasCodePrefix s = true ↔ (s.take 4).map toUpper = codePrefix :=
  beq_iff_eq

lemma length_of_hasCodePrefix {s : Text} (h : hasCodePrefix s = true) : 4 ≤ s.length := by
  have hlen := congrArg List.length ((hasCodePrefix_iff s).1 h)
  rw [List.length_map, List.length_take, length_codePrefix] at hlen
  omega

lemma hasCodePrefix_map_toUpper (s : Text) :
    hasCodePrefix (s.map toUpper) = hasCodePrefix s := by
  have hidem : toUpper ∘ toUpper = toUpper := funext toUpper_idem
  rw [hasCodePrefix, ← List.map_take, List.map_map, hidem]
  rfl

lemma hasCodePrefix_append (token : Text) : hasCodePrefix (codePrefix ++ token) = true := by
  rw [hasCodePrefix_iff, List.take_left' length_codePrefix]
  decide

/-- A longer text has the prefix too. -/
lemma hasCodePrefix_of_isPrefix {s s' : Text} (hs : s <+: s') (h : hasCodePrefix s = true) :
    hasCodePrefix s' = true := by
  obtain ⟨z, rfl⟩ := hs
  rw [hasCodePrefix, List.take_append_of_le_length (length_of_hasCodePrefix h)]
  exact h

/-- A shorter text has it if it is long enough. -/
lemma hasCodePrefix_of_le {s s' : Text} (hs : s <+: s') (hlen : 4 ≤ s.length)
    (h : hasCodePrefix s' = true) : hasCodePrefix s = true := by
  obtain ⟨z, rfl⟩ := hs
  rwa [hasCodePrefix, List.take_append_of_le_length hlen] at h

/-- A text of letters and digits has no prefix. -/
lemma hasCodePrefix_of_alnum {s : Text} (h : s.all isAlnumCodeChar = true) :
    hasCodePrefix s = false := by
  rw [← Bool.not_eq_true]
  intro hbegins
  have hall : ((s.take 4).map toUpper).all isAlnumCodeChar = true := by
    rw [List.all_map, List.all_eq_true]
    intro b hb
    rw [Function.comp_apply, isAlnumCodeChar_toUpper]
    exact List.all_eq_true.1 h b (List.mem_of_mem_take hb)
  rw [(hasCodePrefix_iff s).1 hbegins] at hall
  exact absurd hall (by decide)

/-- The token has the length of one, and is made of letters and digits. -/
def IsToken (token : Text) : Prop :=
  4 ≤ token.length ∧ token.length ≤ 20 ∧ token.all isAlnumCodeChar = true

lemma isToken_map_toUpper {token : Text} : IsToken (token.map toUpper) ↔ IsToken token := by
  have halnum : isAlnumCodeChar ∘ toUpper = isAlnumCodeChar :=
    funext isAlnumCodeChar_toUpper
  rw [IsToken, IsToken, List.length_map, List.all_map, halnum]

/-- A text with a prefix is read behind it. -/
lemma reads_iff_of_isPrefix {s code : Text} (h : hasCodePrefix s = true) :
    Reads s code ↔ IsToken (s.drop 4) ∧ code = s.map toUpper := by
  have hmap : (s.take 4).map toUpper = codePrefix := (hasCodePrefix_iff s).1 h
  constructor
  · rintro ⟨front, token, rfl, hfront, hmin, hmax, hall, rfl⟩
    rcases hfront with rfl | hfront
    · rw [List.nil_append, hasCodePrefix_of_alnum hall] at h
      cases h
    · have hlen : front.length = 4 := by
        simpa [length_codePrefix] using congrArg List.length hfront
      rw [List.drop_left' hlen, List.map_append, hfront]
      exact ⟨⟨hmin, hmax, hall⟩, rfl⟩
  · rintro ⟨⟨hmin, hmax, hall⟩, rfl⟩
    refine ⟨s.take 4, s.drop 4, (List.take_append_drop 4 s).symm, .inr hmap, hmin, hmax, hall, ?_⟩
    rw [← hmap, ← List.map_append, List.take_append_drop]

/-- A text without a prefix is a token. -/
lemma reads_iff_of_not_isPrefix {s code : Text} (h : hasCodePrefix s = false) :
    Reads s code ↔ IsToken s ∧ code = codePrefix ++ s.map toUpper := by
  constructor
  · rintro ⟨front, token, rfl, hfront, hmin, hmax, hall, rfl⟩
    rcases hfront with rfl | hfront
    · exact ⟨⟨hmin, hmax, hall⟩, rfl⟩
    · have hlen : front.length = 4 := by
        simpa [length_codePrefix] using congrArg List.length hfront
      have hbegins : hasCodePrefix (front ++ token) = true := by
        rw [hasCodePrefix_iff, List.take_left' hlen, hfront]
      rw [hbegins] at h
      cases h
  · rintro ⟨⟨hmin, hmax, hall⟩, rfl⟩
    exact ⟨[], s, rfl, .inl rfl, hmin, hmax, hall, rfl⟩

/-! ## The code -/

lemma truncate_of_noNul {n : ℕ} {s : Text} (hnul : 0 ∉ s) :
    CString.truncate n s = s.take (n - 1) := by
  rw [CString.truncate, CString.takeWhile_eq_self_iff_noNul.2 hnul]

lemma notMem_map_toUpper {s : Text} (hnul : 0 ∉ s) : 0 ∉ s.map toUpper := by
  rintro hmem
  obtain ⟨b, hb, hzero⟩ := List.mem_map.1 hmem
  exact toUpper_ne_zero b (fun h => hnul (h ▸ hb)) hzero

/-- What `IsShortRoomCode` says of a text that fits. -/
lemma isShortRoomCode_iff {s : Text} (hnul : 0 ∉ s) (hlen : s.length ≤ 31) :
    isShortRoomCode s = true ↔
      hasCodePrefix (trimRoomCode s) = true ∧ IsToken ((trimRoomCode s).drop 4) := by
  have hcopy : CString.truncate netplayRoomKeyLen s = s := by
    rw [truncate_of_noNul hnul]
    exact List.take_of_length_le hlen
  simp only [isShortRoomCode, hcopy, IsToken, Bool.and_eq_true, decide_eq_true_eq]
  tauto

lemma trimRoomCode_codePrefix_append (s : Text) :
    trimRoomCode (codePrefix ++ s) = codePrefix ++ trimEnd s := by
  obtain ⟨blanks, hs, hblanks⟩ := trimEnd_append s
  have hend : trimEnd (codePrefix ++ s) = codePrefix ++ trimEnd s := by
    conv_lhs => rw [hs, ← List.append_assoc, trimEnd_append_blanks _ hblanks]
    rcases List.eq_nil_or_concat (trimEnd s) with hnil | ⟨front, b, hlast⟩
    · rw [hnil]
      decide
    · have hself := trimEnd_trimEnd s
      have hb : ¬ isBlank b = true := by
        intro hb
        rw [hlast, List.concat_eq_append, trimEnd, List.rdropWhile_concat_pos _ _ _ hb] at hself
        have hle := congrArg List.length hself
        have hpre := (List.rdropWhile_prefix isBlank front).length_le
        simp only [List.length_append, List.length_singleton] at hle
        omega
      rw [hlast, List.concat_eq_append, ← List.append_assoc, trimEnd,
        List.rdropWhile_concat_neg _ _ _ hb]
  rw [trimRoomCode_eq, hend]
  exact List.dropWhile_cons_of_neg (by decide)

/-- The beginning of the input that is copied. -/
def copied (input : Text) : Text := trimRoomCode (input.take 31)

lemma copied_length_le (input : Text) : (copied input).length ≤ 31 := by
  have hdrop : ((trimEnd (input.take 31)).dropWhile isBlank).length ≤
      (trimEnd (input.take 31)).length :=
    (List.dropWhile_suffix isBlank).length_le
  have hend := (trimEnd_isPrefix (input.take 31)).length_le
  have htake := List.length_take_le 31 input
  rw [copied, trimRoomCode_eq]
  omega

lemma notMem_copied {input : Text} (hnul : 0 ∉ input) : 0 ∉ copied input := by
  intro hmem
  rw [copied, trimRoomCode_eq] at hmem
  have hmem' := (List.dropWhile_suffix isBlank).mem hmem
  exact hnul (List.mem_of_mem_take ((trimEnd_isPrefix _).mem hmem'))

/-- The buffer with `SF4-` in front. -/
def withCodePrefix (buf : Text) : Text :=
  if hasCodePrefix buf then buf else (codePrefix ++ buf).take 31

/-- `NormalizeRelayRoomCode` of an input in terms of what is copied of it. -/
lemma normalizeRelayRoomCode_eq {input : Text} (hnul : 0 ∉ input) :
    normalizeRelayRoomCode input =
      if isShortRoomCode ((withCodePrefix (copied input)).map toUpper) then
        some ((withCodePrefix (copied input)).map toUpper)
      else none := by
  have hcopy : CString.truncate netplayRoomKeyLen input = input.take 31 := truncate_of_noNul hnul
  rw [normalizeRelayRoomCode, hcopy]
  rfl

/-- **The code, with a prefix.** -/
lemma normalize_iff_of_isPrefix {input code : Text} (hnul : 0 ∉ input)
    (h : hasCodePrefix (copied input) = true) :
    normalizeRelayRoomCode input = some code ↔ Reads (copied input) code := by
  have hnul' := notMem_map_toUpper (notMem_copied hnul)
  have hlen : ((copied input).map toUpper).length ≤ 31 := by
    rw [List.length_map]
    exact copied_length_le input
  have htrim : trimRoomCode ((copied input).map toUpper) = (copied input).map toUpper := by
    rw [trimRoomCode_map_toUpper, copied, trimRoomCode_trimRoomCode]
  rw [normalizeRelayRoomCode_eq hnul, withCodePrefix, if_pos h, reads_iff_of_isPrefix h]
  have hshort := isShortRoomCode_iff hnul' hlen
  rw [htrim, hasCodePrefix_map_toUpper, ← List.map_drop, isToken_map_toUpper] at hshort
  split
  · rename_i hyes
    rw [Option.some.injEq, eq_comm]
    exact ⟨fun hcode => ⟨(hshort.1 hyes).2, hcode⟩, fun hcode => hcode.2⟩
  · rename_i hno
    exact iff_of_false (by simp) fun hcode => hno (hshort.2 ⟨h, hcode.1⟩)

/-- **The code, without a prefix.** -/
lemma normalize_iff_of_not_isPrefix {input code : Text} (hnul : 0 ∉ input)
    (h : hasCodePrefix (copied input) = false) :
    normalizeRelayRoomCode input = some code ↔
      IsToken (trimEnd ((copied input).take 27)) ∧
        code = codePrefix ++ ((copied input).take 27).map toUpper := by
  have hwith : withCodePrefix (copied input) = codePrefix ++ (copied input).take 27 := by
    rw [withCodePrefix, h, if_neg (by simp), List.take_append, length_codePrefix,
      List.take_of_length_le (by rw [length_codePrefix]; omega)]
  have hupper : (codePrefix ++ (copied input).take 27).map toUpper =
      codePrefix ++ ((copied input).take 27).map toUpper := by
    rw [List.map_append, show codePrefix.map toUpper = codePrefix by decide]
  have hnul'' : 0 ∉ codePrefix ++ ((copied input).take 27).map toUpper := by
    rw [List.mem_append, not_or]
    refine ⟨by decide, notMem_map_toUpper fun hmem => ?_⟩
    exact notMem_copied hnul (List.mem_of_mem_take hmem)
  have hlen : (codePrefix ++ ((copied input).take 27).map toUpper).length ≤ 31 := by
    have := List.length_take_le 27 (copied input)
    rw [List.length_append, List.length_map, length_codePrefix]
    omega
  have hdrop : ∀ token : Text, (codePrefix ++ token).drop 4 = token := fun token =>
    List.drop_left' length_codePrefix
  rw [normalizeRelayRoomCode_eq hnul, hwith, hupper]
  have hshort := isShortRoomCode_iff hnul'' hlen
  rw [trimRoomCode_codePrefix_append, trimEnd_map_toUpper, hdrop, isToken_map_toUpper]
    at hshort
  split
  · rename_i hyes
    rw [Option.some.injEq, eq_comm]
    exact ⟨fun hcode => ⟨(hshort.1 hyes).2, hcode⟩, fun hcode => hcode.2⟩
  · rename_i hno
    exact iff_of_false (by simp) fun hcode => hno (hshort.2 ⟨hasCodePrefix_append _, hcode.1⟩)

/-- A code is accepted when what is kept of the input is one. -/
lemma isSome_normalize_iff {input : Text} (hnul : 0 ∉ input) :
    (∃ code, normalizeRelayRoomCode input = some code) ↔ IsRoomCode (kept input) := by
  cases h : hasCodePrefix (copied input) with
  | true =>
    have hkept : kept input = copied input := if_pos h
    simp only [normalize_iff_of_isPrefix hnul h, hkept, IsRoomCode]
  | false =>
    have hkept : kept input = trimEnd ((copied input).take 27) :=
      if_neg (by rw [Bool.not_eq_true]; exact h)
    have hbegins : IsToken (trimEnd ((copied input).take 27)) →
        hasCodePrefix (trimEnd ((copied input).take 27)) = false := fun htoken =>
      hasCodePrefix_of_alnum htoken.2.2
    simp only [normalize_iff_of_not_isPrefix hnul h, hkept, IsRoomCode]
    constructor
    · rintro ⟨code, htoken, -⟩
      exact ⟨_, (reads_iff_of_not_isPrefix (hbegins htoken)).2 ⟨htoken, rfl⟩⟩
    · rintro ⟨code, hreads⟩
      refine ⟨_, ?_, rfl⟩
      cases hfront : hasCodePrefix (trimEnd ((copied input).take 27)) with
      | true =>
        -- then what is copied would have a prefix too
        have hpre : trimEnd ((copied input).take 27) <+: copied input :=
          (trimEnd_isPrefix _).trans (List.take_prefix _ _)
        rw [hasCodePrefix_of_isPrefix hpre hfront] at h
        cases h
      | false => exact ((reads_iff_of_not_isPrefix hfront).1 hreads).1

/-! ## What fits -/

lemma copied_eq_of_le {input : Text} (h : (trimEnd input).length ≤ 31) :
    copied input = trimRoomCode input := by
  rw [copied, trimRoomCode_eq, trimEnd_take_of_le h, trimRoomCode_eq]

/-- What is copied is the beginning of the input. -/
lemma copied_prefix (input : Text) : copied input <+: trimRoomCode input := by
  by_cases h : (trimEnd input).length ≤ 31
  · rw [copied_eq_of_le h]
  · exact (trimRoomCode_take_of_lt (not_le.1 h)).1

lemma kept_isPrefix (input : Text) : kept input <+: copied input := by
  unfold kept
  simp only
  split
  · exact List.prefix_rfl
  · exact (trimEnd_isPrefix _).trans (List.take_prefix _ _)

/-- Not all of the input is kept when it does not fit. -/
lemma length_kept_lt {input : Text} (h : ¬ FitsCode input) :
    (kept input).length < (trimRoomCode input).length := by
  by_cases hlen : (trimEnd input).length ≤ 31
  · have hcopied := copied_eq_of_le hlen
    have hnot : ¬ (hasCodePrefix (trimRoomCode input) = true ∨ (trimRoomCode input).length ≤ 27) :=
      fun hfits => h ⟨hlen, hfits⟩
    rw [not_or, not_le, Bool.not_eq_true] at hnot
    have hbegins : hasCodePrefix (copied input) = false := hcopied ▸ hnot.1
    have hkept : kept input = trimEnd ((copied input).take 27) :=
      if_neg (by rw [Bool.not_eq_true]; exact hbegins)
    have hle := (trimEnd_isPrefix ((copied input).take 27)).length_le
    have htake := List.length_take_le 27 (copied input)
    rw [hkept]
    omega
  · have hlt := (trimRoomCode_take_of_lt (not_le.1 hlen)).2
    exact (kept_isPrefix input).length_le.trans_lt hlt

/-- **What fits is read as the grammar says.** -/
lemma normalize_iff_of_fits {input code : Text} (hnul : 0 ∉ input) (h : FitsCode input) :
    normalizeRelayRoomCode input = some code ↔ Reads (trimRoomCode input) code := by
  obtain ⟨hlen, hfits⟩ := h
  have hcopied := copied_eq_of_le hlen
  cases hbegins : hasCodePrefix (trimRoomCode input) with
  | true => rw [normalize_iff_of_isPrefix hnul (hcopied ▸ hbegins), hcopied]
  | false =>
    have hshort : (trimRoomCode input).length ≤ 27 := by simpa [hbegins] using hfits
    rw [normalize_iff_of_not_isPrefix hnul (hcopied ▸ hbegins), hcopied,
      List.take_of_length_le hshort, trimEnd_trimRoomCode, reads_iff_of_not_isPrefix hbegins]

/-- **What does not fit is not.**  No code is read of the whole input that would be read of its
beginning. -/
lemma not_reads_of_not_fits {input code : Text} (hnul : 0 ∉ input) (h : ¬ FitsCode input)
    (hcode : normalizeRelayRoomCode input = some code) :
    ¬ Reads (trimRoomCode input) code := by
  intro hreads
  have hlt := length_kept_lt h
  have hpre := copied_prefix input
  cases hbegins : hasCodePrefix (copied input) with
  | true =>
    have hkept : kept input = copied input := if_pos hbegins
    rw [normalize_iff_of_isPrefix hnul hbegins, reads_iff_of_isPrefix hbegins] at hcode
    rw [reads_iff_of_isPrefix (hasCodePrefix_of_isPrefix hpre hbegins), hcode.2] at hreads
    have hlen := congrArg List.length hreads.2
    rw [List.length_map, List.length_map, ← hkept] at hlen
    omega
  | false =>
    have hkept : kept input = trimEnd ((copied input).take 27) :=
      if_neg (by rw [Bool.not_eq_true]; exact hbegins)
    have hend : trimEnd (copied input) = copied input := trimEnd_trimRoomCode _
    rw [normalize_iff_of_not_isPrefix hnul hbegins] at hcode
    obtain ⟨⟨hmin, -, -⟩, rfl⟩ := hcode
    have htake : ((copied input).take 27).length = min 27 (copied input).length :=
      List.length_take
    have hmin' := (trimEnd_isPrefix ((copied input).take 27)).length_le
    cases hwhole : hasCodePrefix (trimRoomCode input) with
    | true =>
      -- the input has the prefix, and so has what is copied of it
      rw [hasCodePrefix_of_le hpre (by omega) hwhole] at hbegins
      cases hbegins
    | false =>
      rw [reads_iff_of_not_isPrefix hwhole] at hreads
      have hlen := congrArg List.length (List.append_cancel_left hreads.2)
      rw [List.length_map, List.length_map] at hlen
      have hle := hpre.length_le
      have hsame : (copied input).take 27 = copied input := List.take_of_length_le (by omega)
      rw [hkept, hsame, hend] at hlt
      omega

/-! ## Codes -/

/-- A code as the broker gives it out. -/
def IsCode (code : Text) : Prop := ∃ token, IsToken token ∧ code = codePrefix ++ token.map toUpper

lemma Reads.isCode {s code : Text} (h : Reads s code) : IsCode code := by
  obtain ⟨front, token, -, -, hmin, hmax, hall, hcode⟩ := h
  exact ⟨token, ⟨hmin, hmax, hall⟩, hcode⟩

namespace IsCode

variable {code : Text}

/-- A code fits, and it is read as itself. -/
lemma fixed (h : IsCode code) : normalizeRelayRoomCode code = some code := by
  obtain ⟨token, htoken, rfl⟩ := h
  have hupper : IsToken (token.map toUpper) := isToken_map_toUpper.2 htoken
  have hend : trimEnd (codePrefix ++ token.map toUpper) =
      codePrefix ++ token.map toUpper := by
    have htrim := trimRoomCode_codePrefix_append (token.map toUpper)
    rw [trimEnd_of_alnum hupper.2.2] at htrim
    have hself := trimEnd_trimRoomCode (codePrefix ++ token.map toUpper)
    rwa [htrim] at hself
  have htrim : trimRoomCode (codePrefix ++ token.map toUpper) =
      codePrefix ++ token.map toUpper := by
    rw [trimRoomCode_codePrefix_append, trimEnd_of_alnum hupper.2.2]
  have hlen : (codePrefix ++ token.map toUpper).length ≤ 31 := by
    have := hupper.2.1
    rw [List.length_append, length_codePrefix]
    omega
  have hnul : 0 ∉ codePrefix ++ token.map toUpper := by
    rw [List.mem_append, not_or]
    refine ⟨by decide, fun hmem => ?_⟩
    obtain ⟨b, hb, hzero⟩ := List.mem_map.1 hmem
    exact ne_zero_of_alnum b (List.all_eq_true.1 htoken.2.2 b hb) hzero
  have hbegins := hasCodePrefix_append (token.map toUpper)
  have hfits : FitsCode (codePrefix ++ token.map toUpper) :=
    ⟨hend.symm ▸ hlen, .inl (htrim.symm ▸ hbegins)⟩
  have hidem : toUpper ∘ toUpper = toUpper := funext toUpper_idem
  have hdrop : (codePrefix ++ token.map toUpper).drop 4 = token.map toUpper :=
    List.drop_left' length_codePrefix
  rw [normalize_iff_of_fits hnul hfits, htrim, reads_iff_of_isPrefix hbegins, hdrop,
    List.map_append, List.map_map, hidem]
  exact ⟨hupper, by rw [show codePrefix.map toUpper = codePrefix by decide]⟩

/-- The characters of a code. -/
lemma chars (h : IsCode code) : ∃ token : List Char, token ≠ [] ∧
    (asciiText code).toList = ['S', 'F', '4', '-'] ++ token ∧
    ∀ c ∈ token, c.toUpper = c ∧ c.isAlphanum = true ∧ c ≠ '/' ∧ Broker.isSpace c = false := by
  obtain ⟨token, ⟨hmin, -, hall⟩, rfl⟩ := h
  refine ⟨(token.map toUpper).map fun b => Char.ofNat b.toNat, ?_, ?_, ?_⟩
  · rintro hnil
    rw [List.map_eq_nil_iff, List.map_eq_nil_iff] at hnil
    simp [hnil] at hmin
  · rw [asciiText, String.toList_ofList, List.map_append]
    rfl
  · intro c hc
    obtain ⟨b, hb, rfl⟩ := List.mem_map.1 hc
    obtain ⟨b', hb', rfl⟩ := List.mem_map.1 hb
    exact char_of_alnum b' (List.all_eq_true.1 hall b' hb')

/-- Nothing is trimmed where there are no blanks. -/
lemma trimChars_of_no_space {s : List Char} (h : ∀ c ∈ s, Broker.isSpace c = false) :
    Broker.trimChars s = s := by
  have hdrop : ∀ s : List Char, (∀ c ∈ s, Broker.isSpace c = false) →
      s.dropWhile Broker.isSpace = s := by
    intro s hs
    cases s with
    | nil => rfl
    | cons c s => exact List.dropWhile_cons_of_neg (by simp [hs c List.mem_cons_self])
  rw [Broker.trimChars, hdrop s h, hdrop s.reverse fun c hc => h c (List.mem_reverse.1 hc),
    List.reverse_reverse]

/-- The characters in front of a token. -/
lemma forall_mem_codeFront {p : Char → Prop} (hS : p 'S') (hF : p 'F') (h4 : p '4')
    (hdash : p '-') : ∀ c ∈ ['S', 'F', '4', '-'], p c := by
  simp only [List.forall_mem_cons, List.not_mem_nil, false_imp_iff, implies_true, and_true]
  exact ⟨hS, hF, h4, hdash⟩

/-- The broker takes a code as it is. -/
lemma normalizeCode_eq (h : IsCode code) :
    Broker.normalizeCode (asciiText code) = asciiText code := by
  obtain ⟨token, -, hchars, htoken⟩ := h.chars
  have hfront : ∀ c ∈ ['S', 'F', '4', '-'], Broker.isSpace c = false ∧ c.toUpper = c :=
    forall_mem_codeFront (by decide) (by decide) (by decide) (by decide)
  have hspace : ∀ c ∈ (asciiText code).toList, Broker.isSpace c = false := by
    rw [hchars]
    intro c hc
    rcases List.mem_append.1 hc with hc | hc
    · exact (hfront c hc).1
    · exact (htoken c hc).2.2.2
  have hupper : (asciiText code).toList.map Char.toUpper = (asciiText code).toList := by
    have hself : ∀ c ∈ (asciiText code).toList, c.toUpper = id c := by
      rw [hchars]
      intro c hc
      rcases List.mem_append.1 hc with hc | hc
      · exact (hfront c hc).2
      · exact (htoken c hc).1
    rw [List.map_congr_left hself, List.map_id]
  rw [Broker.normalizeCode]
  simp only [trimChars_of_no_space hspace, hupper]
  rw [if_pos, String.ofList_toList]
  rw [hchars]
  rfl

/-- The part of a path is stripped. -/
lemma stripPart_append {part : String} {front : List Char}
    (hlower : Broker.lower front = part.toList) (rest : List Char) :
    Broker.stripPart part (front ++ rest) = some rest := by
  have hlen : front.length = part.length := by
    have := congrArg List.length hlower
    rwa [Broker.lower, List.length_map, String.length_toList] at this
  rw [Broker.stripPart, List.take_left' hlen, List.drop_left' hlen, if_pos hlower]

/-- The path of a code is that of a room. -/
lemma route_eq (h : IsCode code) :
    Broker.route "GET" ("/v1/rooms/" ++ asciiText code) = .room .lookup (asciiText code) := by
  obtain ⟨token, hne, hchars, htoken⟩ := h.chars
  have hpath : ("/v1/rooms/" ++ asciiText code).toList =
      "/v1/rooms/".toList ++ (['S', 'F', '4', '-'] ++ token) := by
    rw [String.toList_append, hchars]
  have hother : ∀ path : String, path.toList.length ≤ 9 ∨ path.toList.take 9 ≠ "/v1/rooms".toList →
      "/v1/rooms/" ++ asciiText code ≠ path := by
    rintro path hpath' rfl
    rcases hpath' with hlen | htake
    · have hten : "/v1/rooms/".toList.length = 10 := by decide
      rw [hpath, List.length_append, hten] at hlen
      omega
    · rw [hpath] at htake
      exact htake rfl
  have hcode : (['S', 'F', '4', '-'] ++ token).takeWhile (· != '/') =
      ['S', 'F', '4', '-'] ++ token := by
    have hfront : ∀ c ∈ ['S', 'F', '4', '-'], (c != '/') = true :=
      forall_mem_codeFront (by decide) (by decide) (by decide) (by decide)
    rw [List.takeWhile_eq_self_iff]
    intro c hc
    rcases List.mem_append.1 hc with hc | hc
    · exact hfront c hc
    · simpa using (htoken c hc).2.2.1
  have hrest : (['S', 'F', '4', '-'] ++ token).dropWhile (· != '/') = [] := by
    have hsplit := @List.takeWhile_append_dropWhile _ (· != '/') (['S', 'F', '4', '-'] ++ token)
    rw [hcode] at hsplit
    simpa using hsplit
  have hpart : Broker.isCodePart (['S', 'F', '4', '-'] ++ token) = true := by
    rw [Broker.isCodePart, stripPart_append (by decide) token]
    simp only [Bool.and_eq_true, bne_iff_ne, List.all_eq_true]
    exact ⟨hne, fun c hc => (htoken c hc).2.1⟩
  have htext : String.ofList (['S', 'F', '4', '-'] ++ token) = asciiText code := by
    rw [← hchars, String.ofList_toList]
  have hroom : Broker.roomPath ("/v1/rooms/" ++ asciiText code).toList =
      some (asciiText code, []) := by
    rw [hpath, Broker.roomPath, stripPart_append (by decide), Option.bind_some]
    simp only [hcode, hrest, hpart, if_true, htext, h.normalizeCode_eq]
    rfl
  rw [Broker.route, if_neg (hother _ (.inr (by decide))), if_neg (hother _ (.inr (by decide))),
    if_neg (hother _ (.inl (by decide))), if_neg (hother _ (.inr (by decide))), Broker.routeBelow,
    hroom]
  rfl

end IsCode

/-! ## The property -/

/-- Two inputs are the same but for case and blanks around them. -/
def SameInput (input input' : Text) : Prop :=
  (trimRoomCode input).map toUpper = (trimRoomCode input').map toUpper

/-- Case does not matter. -/
lemma Reads.of_same {s s' code : Text} (h : Reads s code)
    (hsame : s.map toUpper = s'.map toUpper) : Reads s' code := by
  obtain ⟨front, token, rfl, hfront, hmin, hmax, hall, rfl⟩ := h
  have hupper : (s'.take front.length).map toUpper = front.map toUpper := by
    rw [List.map_take, ← hsame, List.map_append, List.take_left' (by simp)]
  have hupper' : (s'.drop front.length).map toUpper = token.map toUpper := by
    rw [List.map_drop, ← hsame, List.map_append, List.drop_left' (by simp)]
  have hlen : (s'.drop front.length).length = token.length := by
    simpa using congrArg List.length hupper'
  have halnum : isAlnumCodeChar ∘ toUpper = isAlnumCodeChar := funext isAlnumCodeChar_toUpper
  refine ⟨s'.take front.length, s'.drop front.length, (List.take_append_drop _ _).symm, ?_,
    hlen ▸ hmin, hlen ▸ hmax, ?_, ?_⟩
  · rcases hfront with rfl | hfront
    · exact .inl rfl
    · exact .inr (hupper.trans hfront)
  · rw [← halnum, ← List.all_map, hupper', List.all_map, halnum]
    exact hall
  · rw [hupper']

/-- **Normalisation of room codes.** An input is read as the grammar says exactly when nothing of
it is cut off, or when neither the input nor its beginning is a code.  Among such inputs neither
case nor the blanks around matter. -/
theorem normalizedWell_iff {input : Text} (hnul : 0 ∉ input) :
    (NormalizedWell input ↔ ReadWhole input) ∧
      ∀ input', 0 ∉ input' → ReadWhole input → ReadWhole input' → SameInput input input' →
        normalizeRelayRoomCode input = normalizeRelayRoomCode input' := by
  have hreads : ∀ {input : Text}, 0 ∉ input → ReadWhole input → ∀ code,
      normalizeRelayRoomCode input = some code ↔ Reads (trimRoomCode input) code := by
    rintro input hnul (hfits | ⟨hno, hno'⟩) code
    · exact normalize_iff_of_fits hnul hfits
    · refine iff_of_false (fun hcode => hno' ((isSome_normalize_iff hnul).1 ⟨code, hcode⟩)) ?_
      exact fun hcode => hno ⟨code, hcode⟩
  refine ⟨⟨fun hwell => ?_, fun hwhole => ?_⟩, fun input' hnul' h h' hsame => ?_⟩
  · by_cases hfits : FitsCode input
    · exact .inl hfits
    · have hnot : ∀ code, normalizeRelayRoomCode input ≠ some code := fun code hcode =>
        not_reads_of_not_fits hnul hfits hcode ((hwell.reads code).1 hcode)
      refine .inr ⟨fun ⟨code, hcode⟩ => hnot code ((hwell.reads code).2 hcode), fun hkept => ?_⟩
      obtain ⟨code, hcode⟩ := (isSome_normalize_iff hnul).2 hkept
      exact hnot code hcode
  · have hcode : ∀ {code : Text}, normalizeRelayRoomCode input = some code → IsCode code :=
      fun hcode => ((hreads hnul hwhole _).1 hcode).isCode
    exact ⟨hreads hnul hwhole, fun code h => (hcode h).fixed,
      fun code h => (hcode h).normalizeCode_eq, fun code h => (hcode h).route_eq⟩
  · refine Option.ext fun code => ?_
    rw [hreads hnul h, hreads hnul' h']
    exact ⟨fun hread => hread.of_same hsame, fun hread => hread.of_same hsame.symm⟩

/-- A code with blanks around it, in small letters. -/
theorem normalizedWell_iff_blanks :
    NormalizedWell (ascii "  sf4-a1b2 ") ∧
      normalizeRelayRoomCode (ascii "  sf4-a1b2 ") = some (ascii "SF4-A1B2") := by
  have hwhole : ReadWhole (ascii "  sf4-a1b2 ") :=
    .inl ⟨by decide +kernel, .inl (by decide +kernel)⟩
  exact ⟨(normalizedWell_iff (by decide +kernel)).1.2 hwhole, by decide +kernel⟩

/-- A code behind 28 blanks is refused, and a text with blanks in the middle is accepted when they
reach to the end of the buffer. -/
theorem not_normalizedWell_long :
    ¬ NormalizedWell (.replicate 28 32 ++ ascii "A1B2") ∧
      ¬ NormalizedWell (ascii "A1B2" ++ .replicate 23 32 ++ ascii "Z") := by
  refine ⟨fun h => ?_, fun h => ?_⟩
  · have hreads : Reads (trimRoomCode (.replicate 28 32 ++ ascii "A1B2")) (ascii "SF4-A1B2") := by
      have htrim : trimRoomCode (.replicate 28 32 ++ ascii "A1B2") = ascii "A1B2" := by
        decide +kernel
      rw [htrim, reads_iff_of_not_isPrefix (by decide +kernel)]
      exact ⟨⟨by decide +kernel, by decide +kernel, by decide +kernel⟩, by decide +kernel⟩
    have hnone : normalizeRelayRoomCode (.replicate 28 32 ++ ascii "A1B2") = none := by
      decide +kernel
    rw [(h.reads _).2 hreads] at hnone
    cases hnone
  · have hcode : normalizeRelayRoomCode (ascii "A1B2" ++ .replicate 23 32 ++ ascii "Z") =
        some (ascii "SF4-A1B2" ++ .replicate 23 32) := by
      decide +kernel
    have hblank := (((h.reads _).1 hcode).isCode).fixed
    have hnot : normalizeRelayRoomCode (ascii "SF4-A1B2" ++ .replicate 23 32) =
        some (ascii "SF4-A1B2") := by
      decide +kernel
    rw [hnot, Option.some.injEq] at hblank
    exact absurd hblank (by decide +kernel)

end Launcher
end Sf4e
