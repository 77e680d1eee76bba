/-
# Which release is newer

`CompareVersions` compares the three numbers at the beginning of two version tags.  What comes
behind them is not looked at, so that a release candidate and its release count as the same
version, and so do two release candidates: the order agrees with the precedence of semantic
versions only between tags with different numbers, and between tags whose pre-release parts
have the same precedence.  `CheckForUpdate` offers the latest release by that order.
-/
import Mathlib.Data.List.DropRight
import Mathlib.Order.Compare
import Sf4e.Update.Atoi
import Sf4e.Wire.Json

namespace Sf4e
namespace Update

open Wire
open Relay (ascii)

/-! ## Comparing versions -/

/-- `'.'` -/
def period : UInt8 := 46
/-- `'-'` -/
def hyphen : UInt8 := 45

/-- What `%d` keeps of a number: the library reads 64 bits and stores the lower 32. -/
def storedInt (n : ℤ) : ℤ := (max (-2 ^ 63) (min (2 ^ 63 - 1) n)).bmod (2 ^ 32)

/-- `%d` of `sscanf`: the number and what stands behind it. -/
def scanInt (s : Text) : Option (ℤ × Text) :=
  let s := s.dropWhile isspace
  let negative := s.head? == some 45
  let digits := if negative || s.head? == some 43 then s.tail else s
  let value : ℤ := Inet.decimal (digits.takeWhile isDigit)
  if digits.takeWhile isDigit = [] then none
  else some (storedInt (if negative then -value else value), digits.dropWhile isDigit)

/-- `.%d` of `sscanf`. -/
def scanDotInt : Text → Option (ℤ × Text)
  | [] => none
  | b :: s => if b = period then scanInt s else none

/-- What `ParseVersionTriple` yields. -/
@[ext] structure VersionTriple where
  major : ℤ := 0
  minor : ℤ := 0
  patch : ℤ := 0
deriving DecidableEq, Repr

/-- `ParseVersionTriple`. -/
def parseVersionTriple (tag : Text) : VersionTriple :=
  match scanInt (tag.dropWhile fun b => b == 118 || b == 86) with
  | none => {}
  | some (major, rest) =>
    match scanDotInt rest with
    | none => { major }
    | some (minor, rest) =>
      match scanDotInt rest with
      | none => { major, minor }
      | some (patch, _) => { major, minor, patch }

/-- The difference of two `int`s, in 32 bits. -/
def intSub (a b : ℤ) : ℤ := (a - b).bmod (2 ^ 32)

/-- `CompareVersions`. -/
def compareVersions (a b : Text) : ℤ :=
  let a := parseVersionTriple a
  let b := parseVersionTriple b
  if a.major ≠ b.major then intSub a.major b.major
  else if a.minor ≠ b.minor then intSub a.minor b.minor
  else intSub a.patch b.patch

/-! ## The installed version -/

/-- A blank or a tab. -/
def isBlank (b : UInt8) : Bool := b == 32 || b == 9

/-- The version that a line of the build information names, if it names one. -/
def versionOfLine (line : Text) : Option Text :=
  let line := line.dropWhile fun b => isBlank b || b == 13
  [ascii "Release:", ascii "Label:"].findSome? fun label =>
    if stricmpEq (line.take label.length) label then
      some ((line.drop label.length).dropWhile isBlank)
    else none

/-- `ReadInstalledVersion`, with the version that was compiled in and what `BUILD_INFO.txt`
says. -/
def readInstalledVersion (outVersionLen : ℕ) (appVersion : Text) (info : Option Text) : Text :=
  let buf := CString.truncate 4096 (info.getD [])
  match (buf.splitOn 10).findSome? versionOfLine with
  | some version =>
    (CString.truncate outVersionLen version).rdropWhile fun b => b == 32 || b == 13
  | none => CString.truncate outVersionLen appVersion

/-! ## The check -/

/-- `UpdateCheckResult`. -/
structure UpdateCheckResult where
  ok : Bool := false
  error : String := ""
  installedVersion : Text := []
  latestVersion : Text := []
  updateAvailable : Bool := false
  releaseNotes : Text := []
  releaseUrl : Text := []
  zipDownloadUrl : Text := []
  zipApiUrl : Text := []
  expectedSha256 : Text := []
deriving DecidableEq

/-- The download of an asset. -/
structure Zip where
  downloadUrl : Text := []
  apiUrl : Text := []
  sha256 : Text := []
deriving DecidableEq

/-- What GitHub answers. -/
inductive Response
  /-- Nothing came back. -/
  | unreachable
  /-- A body that is no JSON, or that was cut off at the end of the buffer. -/
  | garbage
  | release (j : Json)

/-- `name.find(part) != npos`. -/
def finds (part : String) (name : Text) : Bool := decide (ascii part <:+: name)

/-- `parseSha256Digest`. -/
def parseSha256Digest (digest : Text) : Text :=
  if digest.length > 7 ∧ digest.take 7 = ascii "sha256:" then digest.drop 7 else []

/-- `j.value(key, "")`; an exception leaves what has been found so far. -/
def textMember {σ : Type} (soFar : σ) (j : Json) (key : String) : Except σ Text :=
  match j.value Json.toText key [] with
  | some s => .ok s
  | none => .error soFar

/-- The choice after the loop over the assets. -/
def chooseZip (found legacy : Zip) : Zip :=
  if found.downloadUrl = [] ∧ legacy.downloadUrl ≠ [] then legacy else found

/-- The loop over the assets, with the zip that has been found and the one of the old name. -/
def readAssets (found legacy : Zip) : List Json → Except Zip Zip
  | [] => .ok (chooseZip found legacy)
  | asset :: assets => do
    let name ← textMember found asset "name"
    if ¬ finds ".zip" name then readAssets found legacy assets
    else if finds "sf4-netplay-launcher" name then
      let downloadUrl ← textMember found asset "browser_download_url"
      let found := { found with downloadUrl }
      let apiUrl ← textMember found asset "url"
      let found := { found with apiUrl }
      let digest ← textMember found asset "digest"
      .ok (chooseZip { found with sha256 := parseSha256Digest digest } legacy)
    else if finds "sf4-enhanced-team" name then
      let downloadUrl ← textMember found asset "browser_download_url"
      let apiUrl ← textMember found asset "url"
      let digest ← textMember found asset "digest"
      readAssets found ⟨downloadUrl, apiUrl, parseSha256Digest digest⟩ assets
    else readAssets found legacy assets

/-- The assets of a release. -/
def releaseZip (release : Json) : Except Zip Zip :=
  match release.member? "assets" with
  | some (.arr assets) => readAssets {} {} assets
  | _ => .ok {}

namespace UpdateCheckResult

/-- The result with a zip. -/
def withZip (result : UpdateCheckResult) (zip : Zip) : UpdateCheckResult :=
  { result with
    zipDownloadUrl := zip.downloadUrl
    zipApiUrl := zip.apiUrl
    expectedSha256 := zip.sha256 }

/-- The last part of `CheckForUpdate`: the zip and the comparison. -/
def finish (result : UpdateCheckResult) (release : Json) :
    Except UpdateCheckResult UpdateCheckResult :=
  match releaseZip release with
  | .error zip => .error (result.withZip zip)
  | .ok zip =>
    let result := result.withZip zip
    if result.zipDownloadUrl = [] then
      .ok { result with error := "Latest release has no sf4-netplay-launcher zip asset." }
    else
      .ok { result with
        updateAvailable := compareVersions (result.latestVersion.takeWhile (· != 0))
          result.installedVersion > 0
        ok := true }

/-- An assignment of a member to a field; an exception leaves the result as it is. -/
def assign (result : UpdateCheckResult) (j : Json) (key : String)
    (set : Text → UpdateCheckResult) : Except UpdateCheckResult UpdateCheckResult :=
  match j.value Json.toText key [] with
  | some s => .ok (set s)
  | none => .error result

/-- The members of the release that are kept. -/
def readRelease (result : UpdateCheckResult) (release : Json) :
    Except UpdateCheckResult UpdateCheckResult := do
  let result ← result.assign release "tag_name" fun s => { result with latestVersion := s }
  let result ← result.assign release "body" fun s => { result with releaseNotes := s }
  result.assign release "html_url" fun s => { result with releaseUrl := s }

/-- Long notes are cut. -/
def cutNotes (result : UpdateCheckResult) : UpdateCheckResult :=
  { result with
    releaseNotes :=
      if result.releaseNotes.length > 2000 then result.releaseNotes.take 2000 ++ ascii "..."
      else result.releaseNotes }

/-- What `CheckForUpdate` does with a release; an exception leaves the result so far. -/
def ofRelease (result : UpdateCheckResult) (release : Json) :
    Except UpdateCheckResult UpdateCheckResult :=
  match result.readRelease release with
  | .error result => .error result
  | .ok result =>
    if result.latestVersion = [] then
      .ok { result.cutNotes with error := "GitHub release has no version tag." }
    else result.cutNotes.finish release

end UpdateCheckResult

/-- `CheckForUpdate`. -/
def checkForUpdate (appVersion : Text) (info : Option Text) (response : Response) :
    UpdateCheckResult :=
  let result : UpdateCheckResult :=
    { installedVersion := readInstalledVersion 64 appVersion info }
  match response with
  | .unreachable =>
    { result with
      error := "Could not reach GitHub. Check your internet connection and try again." }
  | .garbage => { result with error := "Could not parse GitHub release response." }
  | .release release =>
    match result.ofRelease release with
    | .ok result => result
    | .error result => { result with error := "Could not parse GitHub release response." }

/-! ## Precedence -/

/-- A number of a version tag. -/
structure Component where
  /-- Its digits. -/
  text : Text
  /-- There is one. -/
  ne_nil : text ≠ []
  /-- There is nothing else. -/
  digits : text.all isDigit = true
  /-- An `int` holds the number. -/
  value_lt : Inet.decimal text < 2 ^ 31

/-- The number. -/
def Component.value (c : Component) : ℕ := Inet.decimal c.text

/-- The bytes of a pre-release part: letters, digits, hyphens and the dots between its
identifiers. -/
def isPreRelease (b : UInt8) : Bool :=
  isDigit b || (65 ≤ b && b ≤ 90) || (97 ≤ b && b ≤ 122) || b == hyphen || b == period

/-- A version tag, `v?N.N.N` with an optional `-suffix`. -/
structure Tag where
  /-- There is a `v`. -/
  v : Bool
  major : Component
  minor : Component
  patch : Component
  /-- What stands behind the hyphen. -/
  pre : Option Text
  /-- It is the pre-release part of a semantic version. -/
  pre_ok : ∀ s ∈ pre, s.all isPreRelease = true

/-- The compared identifiers are numbers, or they are words; a number comes before a word. -/
def compareIdent (a b : Text) : Ordering :=
  match decide (a ≠ []) && a.all isDigit, decide (b ≠ []) && b.all isDigit with
  | true, true => compare (Inet.decimal a) (Inet.decimal b)
  | true, false => .lt
  | false, true => .gt
  | false, false => compare a b

/-- The precedence of pre-release parts: none comes last, and of two the identifiers decide from
left to right, where the shorter list comes first. -/
def comparePre : Option Text → Option Text → Ordering
  | none, none => .eq
  | none, some _ => .gt
  | some _, none => .lt
  | some a, some b => List.compareLex compareIdent (a.splitOn period) (b.splitOn period)

example : comparePre (some (ascii "alpha")) (some (ascii "alpha.1")) = .lt := by decide

example : comparePre (some (ascii "beta.11")) (some (ascii "beta.2")) = .gt := by decide

namespace Tag

/-- What stands behind the three numbers. -/
def suffix (t : Tag) : Text :=
  match t.pre with
  | none => []
  | some s => hyphen :: s

/-- The tag as it is written. -/
def text (t : Tag) : Text :=
  (if t.v then [118] else []) ++ (t.major.text ++ period :: (t.minor.text ++ period ::
    (t.patch.text ++ t.suffix)))

/-- The three numbers. -/
def core (t : Tag) : VersionTriple := ⟨t.major.value, t.minor.value, t.patch.value⟩

/-- The order of the three numbers. -/
def compareCore (a b : Tag) : Ordering :=
  (compare a.major.value b.major.value).then
    ((compare a.minor.value b.minor.value).then (compare a.patch.value b.patch.value))

/-- The precedence of semantic versions. -/
def precedence (a b : Tag) : Ordering := (compareCore a b).then (comparePre a.pre b.pre)

end Tag

/-- Comparing the latest tag with the installed one is right. -/
structure ComparedWell (latest installed : Tag) : Prop where
  /-- The order is total. -/
  total : compareVersions latest.text installed.text ≤ 0 ∨
    compareVersions installed.text latest.text ≤ 0
  /-- The order is transitive. -/
  trans : ∀ other : Tag, compareVersions latest.text installed.text ≤ 0 →
    compareVersions installed.text other.text ≤ 0 → compareVersions latest.text other.text ≤ 0
  /-- It is the precedence of semantic versions. -/
  agrees : compare (compareVersions latest.text installed.text) 0 =
    Tag.precedence latest installed
  /-- A check that succeeds offers the latest release exactly if it is newer. -/
  offers : ∀ appVersion info release,
    readInstalledVersion 64 appVersion info = installed.text →
    release.value Json.toText "tag_name" [] = some latest.text →
    (checkForUpdate appVersion info (.release release)).ok = true →
    ((checkForUpdate appVersion info (.release release)).updateAvailable = true ↔
      Tag.precedence latest installed = .gt)

/-! ## Reading a tag -/

/-- A number before something else is read as it is. -/
lemma scanInt_append (c : Component) {rest : Text} (hrest : ∀ b ∈ rest.head?, isDigit b = false) :
    scanInt (c.text ++ rest) = some ((c.value : ℤ), rest) := by
  obtain ⟨text, hne, hdigits, hlt⟩ := c
  cases text with
  | nil => exact absurd rfl hne
  | cons d s =>
    obtain ⟨hspace, hminus, hplus, -⟩ := ne_of_isDigit (List.all_eq_true.1 hdigits d (by simp))
    have hdrop : (d :: s ++ rest).dropWhile isspace = d :: s ++ rest :=
      List.dropWhile_cons_of_neg (by rw [hspace]; exact Bool.false_ne_true)
    have hhead : ∀ b : UInt8, d ≠ b → ((d :: s ++ rest).head? == some b) = false := by
      intro b hb
      rw [beq_eq_false_iff_ne]
      exact fun heq => hb (Option.some.inj heq)
    have hsplit : (d :: s ++ rest).takeWhile isDigit = d :: s ∧
        (d :: s ++ rest).dropWhile isDigit = rest := by
      rw [List.takeWhile_append_of_pos (List.all_eq_true.1 hdigits),
        List.dropWhile_append_of_pos (List.all_eq_true.1 hdigits)]
      cases rest with
      | nil => exact ⟨List.append_nil _, rfl⟩
      | cons b rest =>
        have hb : ¬ isDigit b = true := by rw [hrest b rfl]; exact Bool.false_ne_true
        rw [List.takeWhile_cons_of_neg hb, List.dropWhile_cons_of_neg hb]
        exact ⟨List.append_nil _, rfl⟩
    have hstored : storedInt (Inet.decimal (d :: s) : ℤ) = Inet.decimal (d :: s) := by
      have hsmall : (Inet.decimal (d :: s) : ℤ) < 2 ^ 31 := by exact_mod_cast hlt
      rw [storedInt, Int.bmod_eq_of_le] <;> omega
    simp only [scanInt, hdrop, hhead 45 hminus, hhead 43 hplus, Bool.or_self, Bool.false_eq_true,
      if_false, hsplit.1, hsplit.2, hstored, reduceCtorEq]
    rfl

lemma scanDotInt_append (c : Component) {rest : Text}
    (hrest : ∀ b ∈ rest.head?, isDigit b = false) :
    scanDotInt (period :: (c.text ++ rest)) = some ((c.value : ℤ), rest) := by
  rw [scanDotInt, if_pos rfl, scanInt_append c hrest]

namespace Tag

/-- No digit stands behind the numbers. -/
lemma head?_suffix (t : Tag) : ∀ b ∈ t.suffix.head?, isDigit b = false := by
  intro b hb
  rw [suffix] at hb
  cases hpre : t.pre with
  | none =>
    rw [hpre] at hb
    exact absurd hb (by simp)
  | some s =>
    rw [hpre] at hb
    obtain rfl := Option.some.inj hb
    decide

/-- The three numbers are read, and nothing else. -/
lemma parseVersionTriple_text (t : Tag) : parseVersionTriple t.text = t.core := by
  have hdot : ∀ s : Text, ∀ b ∈ (period :: s).head?, isDigit b = false := by
    intro s b hb
    obtain rfl := Option.some.inj hb
    decide
  have hdrop : t.text.dropWhile (fun b => b == 118 || b == 86) =
      t.major.text ++ period :: (t.minor.text ++ period :: (t.patch.text ++ t.suffix)) := by
    have hmajor : ∀ rest : Text, (t.major.text ++ rest).dropWhile (fun b => b == 118 || b == 86) =
        t.major.text ++ rest := by
      intro rest
      cases htext : t.major.text with
      | nil => exact absurd htext t.major.ne_nil
      | cons d s =>
        have hd : isDigit d = true := by
          have hall := t.major.digits
          rw [htext] at hall
          exact List.all_eq_true.1 hall d List.mem_cons_self
        rw [isDigit_iff] at hd
        refine List.dropWhile_cons_of_neg ?_
        rw [Bool.or_eq_true, beq_iff_eq, beq_iff_eq]
        rintro (rfl | rfl)
        · exact absurd hd.2 (by decide)
        · exact absurd hd.2 (by decide)
    rw [text]
    cases t.v with
    | false => exact hmajor _
    | true => exact hmajor _
  rw [parseVersionTriple, hdrop, scanInt_append _ (hdot _)]
  simp only [scanDotInt_append _ (hdot _), scanDotInt_append _ t.head?_suffix]
  rfl

end Tag

/-! ## The order of the numbers -/

/-- The difference of two numbers of tags is not cut. -/
lemma intSub_value (a b : Component) : intSub a.value b.value = (a.value : ℤ) - b.value := by
  have ha : (a.value : ℤ) < 2 ^ 31 := by exact_mod_cast a.value_lt
  have hb : (b.value : ℤ) < 2 ^ 31 := by exact_mod_cast b.value_lt
  rw [intSub, Int.bmod_eq_of_le] <;> omega

/-- The order of two numbers by the sign of their difference. -/
lemma compare_sub_zero (m n : ℕ) : compare ((m : ℤ) - n) 0 = compare m n := by
  rcases lt_trichotomy m n with h | h | h
  · rw [compare_lt_iff_lt.2 h, compare_lt_iff_lt]
    omega
  · rw [compare_eq_iff_eq.2 h, compare_eq_iff_eq]
    omega
  · rw [compare_gt_iff_gt.2 h, compare_gt_iff_gt]
    omega

/-- `CompareVersions` orders by the three numbers. -/
theorem compare_compareVersions (a b : Tag) :
    compare (compareVersions a.text b.text) 0 = Tag.compareCore a b := by
  have hdecide : ∀ (x y : Component) (r : Ordering) (d : ℤ), compare d 0 = r →
      compare (if (x.value : ℤ) ≠ y.value then intSub x.value y.value else d) 0 =
        (compare x.value y.value).then r := by
    rintro x y r d rfl
    by_cases h : x.value = y.value
    · rw [if_neg (not_not.2 (congrArg Nat.cast h)), compare_eq_iff_eq.2 h]
      rfl
    · rw [if_pos (by exact_mod_cast h), intSub_value, compare_sub_zero]
      cases hcmp : compare x.value y.value with
      | eq => exact absurd (compare_eq_iff_eq.1 hcmp) h
      | lt => rfl
      | gt => rfl
  have hpatch : compare (intSub a.patch.value b.patch.value) 0 =
      compare a.patch.value b.patch.value := by
    rw [intSub_value, compare_sub_zero]
  rw [compareVersions, Tag.parseVersionTriple_text, Tag.parseVersionTriple_text]
  exact hdecide _ _ _ _ (hdecide _ _ _ _ hpatch)

/-- A tag comes no later than another. -/
lemma compareVersions_nonpos_iff {a b : Tag} : compareVersions a.text b.text ≤ 0 ↔
    a.major.value < b.major.value ∨ a.major.value = b.major.value ∧
      (a.minor.value < b.minor.value ∨ a.minor.value = b.minor.value ∧
        a.patch.value ≤ b.patch.value) := by
  rw [compareVersions, Tag.parseVersionTriple_text, Tag.parseVersionTriple_text]
  show (if (a.major.value : ℤ) ≠ b.major.value then intSub a.major.value b.major.value
    else if (a.minor.value : ℤ) ≠ b.minor.value then intSub a.minor.value b.minor.value
    else intSub a.patch.value b.patch.value) ≤ 0 ↔ _
  simp only [intSub_value]
  split
  · omega
  · split <;> omega

/-- Of two tags one comes no later than the other. -/
lemma compareVersions_total (a b : Tag) :
    compareVersions a.text b.text ≤ 0 ∨ compareVersions b.text a.text ≤ 0 := by
  rw [compareVersions_nonpos_iff, compareVersions_nonpos_iff]
  omega

/-- The order is transitive. -/
lemma compareVersions_trans {a b c : Tag} (hab : compareVersions a.text b.text ≤ 0)
    (hbc : compareVersions b.text c.text ≤ 0) : compareVersions a.text c.text ≤ 0 := by
  rw [compareVersions_nonpos_iff] at hab hbc ⊢
  omega

/-! ## The offer -/

namespace UpdateCheckResult

variable {result r : UpdateCheckResult} {release : Json}

/-- The program goes on behind an assignment, or the result stays as it is. -/
lemma assign_bind_cases {key : String} {set : Text → UpdateCheckResult}
    {f : UpdateCheckResult → Except UpdateCheckResult UpdateCheckResult}
    {x : Except UpdateCheckResult UpdateCheckResult}
    (h : (result.assign release key set >>= f) = x) :
    (∃ s, release.value Json.toText key [] = some s ∧ f (set s) = x) ∨ x = .error result := by
  subst h
  rw [assign]
  cases release.value Json.toText key [] with
  | none => exact .inr rfl
  | some s => exact .inl ⟨s, rfl, rfl⟩

/-- Reading the members of a release is no success yet; it fetches the tag. -/
lemma readRelease_cases {x : Except UpdateCheckResult UpdateCheckResult}
    (h : result.readRelease release = x) :
    (∃ r, x = .ok r ∧ r.ok = result.ok ∧ r.installedVersion = result.installedVersion ∧
      release.value Json.toText "tag_name" [] = some r.latestVersion) ∨
    ∃ r, x = .error r ∧ r.ok = result.ok := by
  obtain ⟨tag, htag, h⟩ | rfl := assign_bind_cases h
  · obtain ⟨notes, -, h⟩ | rfl := assign_bind_cases h
    · rw [← bind_pure (assign _ _ _ _)] at h
      obtain ⟨url, -, rfl⟩ | rfl := assign_bind_cases h
      · exact .inl ⟨_, rfl, rfl, rfl, htag⟩
      · exact .inr ⟨_, rfl, rfl⟩
    · exact .inr ⟨_, rfl, rfl⟩
  · exact .inr ⟨_, rfl, rfl⟩

/-- Without a zip there is no success, and with one the tags are compared. -/
lemma finish_cases {x : Except UpdateCheckResult UpdateCheckResult}
    (h : result.finish release = x) :
    (∃ r, x = .ok r ∧ (r.ok = result.ok ∨
      r.updateAvailable = decide (compareVersions (result.latestVersion.takeWhile (· != 0))
        result.installedVersion > 0))) ∨
    ∃ r, x = .error r ∧ r.ok = result.ok := by
  subst h
  rw [finish]
  cases releaseZip release with
  | error zip => exact .inr ⟨_, rfl, rfl⟩
  | ok zip =>
    dsimp only
    split
    · exact .inl ⟨_, rfl, .inl rfl⟩
    · exact .inl ⟨_, rfl, .inr rfl⟩

/-- A release that is read to its end is offered by its tag. -/
lemma ofRelease_cases {x : Except UpdateCheckResult UpdateCheckResult} {tag : Text}
    (htag : release.value Json.toText "tag_name" [] = some tag)
    (h : result.ofRelease release = x) :
    (∃ r, x = .ok r ∧ (r.ok = result.ok ∨
      r.updateAvailable = decide (compareVersions (tag.takeWhile (· != 0))
        result.installedVersion > 0))) ∨
    ∃ r, x = .error r ∧ r.ok = result.ok := by
  rw [ofRelease] at h
  obtain ⟨r, hr, hok, hinstalled, hlatest⟩ | ⟨r, hr, hok⟩ :=
    readRelease_cases (rfl : result.readRelease release = _)
  · rw [hr] at h
    obtain rfl : tag = r.latestVersion := Option.some.inj (htag.symm.trans hlatest)
    dsimp only at h
    split at h
    · exact .inl ⟨_, h.symm, .inl hok⟩
    · have hfinish := finish_cases h
      rwa [show r.cutNotes.ok = r.ok from rfl, hok,
        show r.cutNotes.installedVersion = r.installedVersion from rfl, hinstalled] at hfinish
  · rw [hr] at h
    exact .inr ⟨r, h.symm, hok⟩

end UpdateCheckResult

/-- A check that succeeds offers the release by its tag. -/
lemma updateAvailable_of_ok {appVersion : Text} {info : Option Text} {release : Json} {tag : Text}
    (htag : release.value Json.toText "tag_name" [] = some tag)
    (hok : (checkForUpdate appVersion info (.release release)).ok = true) :
    (checkForUpdate appVersion info (.release release)).updateAvailable =
      decide (compareVersions (tag.takeWhile (· != 0))
        (readInstalledVersion 64 appVersion info) > 0) := by
  rw [checkForUpdate] at hok ⊢
  obtain ⟨r, hr, hoffer⟩ | ⟨r, hr, hstart⟩ := UpdateCheckResult.ofRelease_cases htag
    (rfl : UpdateCheckResult.ofRelease
      { installedVersion := readInstalledVersion 64 appVersion info } release = _)
  · rw [hr] at hok ⊢
    obtain hstart | hoffer := hoffer
    · exact absurd (hstart.symm.trans hok) Bool.false_ne_true
    · exact hoffer
  · rw [hr] at hok
    exact absurd (hstart.symm.trans hok) Bool.false_ne_true

/-- The tag is read up to its end. -/
lemma Tag.noNul (t : Tag) : (0 : UInt8) ∉ t.text := by
  have hcomponent : ∀ c : Component, (0 : UInt8) ∉ c.text := by
    intro c h
    exact absurd (List.all_eq_true.1 c.digits _ h) (by decide)
  have hsuffix : (0 : UInt8) ∉ t.suffix := by
    intro h
    rw [suffix] at h
    split at h
    · exact absurd h (List.not_mem_nil)
    · next s hs =>
      obtain h | h := List.mem_cons.1 h
      · exact absurd h (by decide)
      · exact absurd (List.all_eq_true.1 (t.pre_ok s hs) _ h) (by decide)
  rw [text]
  simp only [List.mem_append, List.mem_cons, hcomponent, hsuffix, or_false, false_or]
  rintro (h | h | h)
  · split at h <;> exact absurd h (by decide)
  · exact absurd h (by decide)
  · exact absurd h (by decide)

/-- A positive difference is the order `gt`. -/
lemma compare_zero_eq_gt {d : ℤ} : compare d 0 = .gt ↔ d > 0 := compare_gt_iff_gt

/-- The tags are compared by precedence exactly if their numbers differ, or their pre-release
parts have the same precedence. -/
theorem comparedWell_iff (latest installed : Tag) : ComparedWell latest installed ↔
    Tag.compareCore latest installed ≠ .eq ∨ comparePre latest.pre installed.pre = .eq := by
  have hprecedence : Tag.compareCore latest installed = Tag.precedence latest installed ↔
      Tag.compareCore latest installed ≠ .eq ∨ comparePre latest.pre installed.pre = .eq := by
    rw [Tag.precedence]
    cases Tag.compareCore latest installed with
    | eq => simp [eq_comm]
    | lt => simp
    | gt => simp
  rw [← hprecedence, ← compare_compareVersions]
  constructor
  · intro h
    exact h.agrees
  · intro hagrees
    refine ⟨compareVersions_total _ _, fun other => compareVersions_trans, hagrees, ?_⟩
    intro appVersion info release hinstalled htag hok
    rw [updateAvailable_of_ok htag hok, hinstalled,
      CString.takeWhile_eq_self_iff_noNul.2 latest.noNul, ← hagrees, compare_zero_eq_gt,
      decide_eq_true_eq]

/-! ## A release after its candidate -/

/-- The number of one digit. -/
def digitComponent (b : UInt8) (h : isDigit b = true) : Component where
  text := [b]
  ne_nil := List.cons_ne_nil _ _
  digits := by rw [List.all_cons, h]; rfl
  value_lt := by
    have hb := isDigit_iff.1 h
    show 10 * 0 + (b.toNat - 48) < 2 ^ 31
    omega

/-- `v0.6.0` -/
def finalTag : Tag where
  v := true
  major := digitComponent 48 rfl
  minor := digitComponent 54 rfl
  patch := digitComponent 48 rfl
  pre := none
  pre_ok := fun _ h => absurd h (Option.not_mem_none _)

/-- `v0.6.0-rc1` -/
def candidateTag : Tag where
  v := true
  major := digitComponent 48 rfl
  minor := digitComponent 54 rfl
  patch := digitComponent 48 rfl
  pre := some (ascii "rc1")
  pre_ok := fun _ h => by
    obtain rfl := Option.some.inj h
    decide

/-- What GitHub says about the release. -/
def finalRelease : Json :=
  .obj [("tag_name", .str (ascii "v0.6.0")), ("assets", .arr [.obj [
    ("name", .str (ascii "sf4-netplay-launcher.zip")),
    ("browser_download_url", .str (ascii "https://github.com/a.zip"))]])]

/-- Who runs the release candidate is not offered the release. -/
theorem not_comparedWell_candidate : ¬ ComparedWell finalTag candidateTag := by
  intro h
  have hinstalled : readInstalledVersion 64 (ascii "0.5.0")
      (some (ascii "Release: v0.6.0-rc1\r\n")) = candidateTag.text := by decide
  have hoffer := (h.offers _ _ finalRelease hinstalled (by decide) (by decide)).2 (by decide)
  exact absurd hoffer (by decide)

end Update
end Sf4e
