/-
# What an update installs

`DownloadAndApplyUpdate` downloads a zip, checks its digest, extracts it into a folder of the
temporary directory and hands the folder of the package that it finds there to the Updater, which
mirrors it over the installation.  The digest protects the zip.  The folder has a name that
depends on the version only, and is used as it is if there is one.

`InstallsVerified` says that what is handed over is what the zip holds, and
`installsVerified_iff` that it fails exactly where a file that is left over comes to lie in a
package.
-/
import Sf4e.Update.Package

namespace Sf4e
namespace Update

open Wire Relay

/-! ## What the code calls -/

/-- What the code relies on. -/
structure Platform where
  /-- `MultiByteToWideChar` with `CP_UTF8`. -/
  utf8ToWide : Text → Wide
  /-- `WideCharToMultiByte` with `CP_UTF8`. -/
  wideToUtf8 : Wide → Text
  /-- SHA-256. -/
  sha256 : Bytes → Vector UInt8 32
  /-- What a file holds, if it is an archive. -/
  contents : Bytes → Option Tree

/-- What the calls about the temporary directory return. -/
structure TempCalls where
  /-- `GetTempPathW` for the folder. -/
  getsTempPath : Bool := true
  /-- `GetTempPathW` for the zip. -/
  getsTempPathAgain : Bool := true
  /-- The error of `SHCreateDirectoryExW` for the folder. -/
  createTempRoot : Option ℕ := none
  /-- The error of `SHCreateDirectoryExW` for its folder `extract`. -/
  createExtract : Option ℕ := none

/-- The circumstances of a call. -/
structure Circumstances where
  /-- `IsGameProcessRunning`. -/
  gameRunning : Bool
  /-- `GetLauncherInstallDir` succeeds. -/
  installDirFound : Bool
  tempCalls : TempCalls
  /-- The body of a response, or `HttpDownloadErrorMessage`. -/
  fetch : HttpUrl → Except String Bytes
  /-- `ComputeFileSha256Hex` succeeds. -/
  hashComputed : Bool
  /-- What `tar` makes of a directory, if it succeeds. -/
  tar : Bytes → Tree → Option Tree
  /-- `SpawnUpdater` succeeds. -/
  updaterStarts : Bool
  /-- `GetGithubRepo`. -/
  githubRepo : String

/-- The temporary directory. -/
structure TempDirectory where
  path : Wide
  content : Tree

/-- The arguments of `DownloadAndApplyUpdate`. -/
structure UpdateCall where
  zipDownloadUrl : Text
  zipApiUrl : Text
  latestVersionTag : Text
  expectedSha256 : Text

/-- What is handed to the Updater. -/
structure Handover where
  /-- The zip, for reference. -/
  zip : Bytes
  /-- The path of the package in the folder `extract`. -/
  stagingRoot : Path
  /-- What the directory holds that the Updater mirrors. -/
  tree : Tree
deriving DecidableEq

/-! ## Results -/

/-- The error, if the check fails. -/
def check (ok : Bool) (error : String) : Except String Unit := if ok then .ok () else .error error

/-- The value, or the error if there is none. -/
def orError {α : Type} (value : Option α) (error : String) : Except String α :=
  value.elim (.error error) .ok

/-- An error with its reason in parentheses. -/
def explain {α : Type} (text : String) (result : Except String α) : Except String α :=
  result.mapError fun reason => text ++ " (" ++ reason ++ ")."

section

variable {α γ : Type} {a : α} {c : γ} {result : Except String α}

lemma bind_eq_ok_iff {x : Except String α} {f : α → Except String γ} :
    x >>= f = .ok c ↔ ∃ a, x = .ok a ∧ f a = .ok c := by
  cases x with
  | error e => simp [bind, Except.bind]
  | ok a => simp [bind, Except.bind]

@[simp] lemma check_eq_ok_iff {ok : Bool} {error : String} {u : Unit} :
    check ok error = .ok u ↔ ok = true := by
  cases ok <;> simp [check]

@[simp] lemma orError_eq_ok_iff {value : Option α} {error : String} :
    orError value error = .ok a ↔ value = some a := by
  cases value <;> simp [orError]

@[simp] lemma mapError_eq_ok_iff {f : String → String} :
    result.mapError f = .ok a ↔ result = .ok a := by
  cases result <;> simp [Except.mapError]

@[simp] lemma explain_eq_ok_iff {text : String} :
    explain text result = .ok a ↔ result = .ok a :=
  mapError_eq_ok_iff

lemma eq_ok_of_toOption (h : result.toOption = some a) : result = .ok a := by
  cases result with
  | error e => cases h
  | ok b => rw [Option.some.inj h]

end

/-! ## The temporary directory -/

/-- The characters that `SanitizeTagForPath` replaces. -/
def replacedPathChars : Text := ascii "\\/:*?\"<>|"

/-- `SanitizeTagForPath`, into a buffer of 64 characters. -/
def sanitizeTagForPath (tag : Text) : Text :=
  (tag.take 63).map fun c => if c ∈ replacedPathChars then 95 else c

/-- The name of the folder of `BuildUpdateTempRoot`. -/
def tempFolderName (p : Platform) (tag : Text) : Wide :=
  wide "sf4-netplay-update-" ++ p.utf8ToWide (sanitizeTagForPath tag)

/-- `zipName`. -/
def zipName (tag : Text) : Wide :=
  wide "sf4-netplay-update-package-" ++ (sanitizeTagForPath tag).map (·.toUInt16) ++ wide ".zip"

/-- A name as the file system reads it, which takes dots and blanks off its end. -/
def canonical (name : Wide) : Wide :=
  ((name.map towlower).reverse.dropWhile fun c => c == dot || c == 32).reverse

/-- `EnsureDirectoryExistsW`: what is in the directory. -/
def ensureDirectoryExists (parent : Tree) (name : Wide) (createError : Option ℕ) :
    Except String Tree :=
  (parent.subfolder? (canonical name)).elim
    (if canonical name ∈ parent.names then .error "path exists but is not a directory"
    else createError.elim (.ok .nil) fun code =>
      .error ("could not create directory (Win32 " ++ toString code ++ ")")) .ok

/-- The folder into which the zip is extracted. -/
structure ExtractDir where
  path : Wide
  /-- What is in it before. -/
  content : Tree
deriving DecidableEq

/-- The part of `DownloadAndApplyUpdate` that prepares the folders. -/
def prepareExtractDir (p : Platform) (calls : TempCalls) (temp : TempDirectory) (tag : Text) :
    Except String ExtractDir := do
  check calls.getsTempPath "Could not build update temp path (GetTempPathW failed)."
  check (fits temp.path [tempFolderName p tag])
    "Could not build update temp path (PathCchCombine failed)."
  let tempRoot ← explain "Could not create update temp folder"
    (ensureDirectoryExists temp.content (tempFolderName p tag) calls.createTempRoot)
  check calls.getsTempPathAgain "Could not access temp directory."
  check (fits temp.path [zipName tag]) "Could not build update zip path."
  check (fits temp.path [tempFolderName p tag, wide "extract"])
    "Could not create update extract folder (empty directory path)."
  let content ← explain "Could not create update extract folder"
    (ensureDirectoryExists tempRoot (wide "extract") calls.createExtract)
  return ⟨joinPath temp.path [tempFolderName p tag, wide "extract"], content⟩

/-! ## The download -/

/-- `TryHttpDownload`: what is in the zip file then. -/
def attemptDownload (fetch : HttpUrl → Except String Bytes) (url : Text) :
    Except String Bytes := do
  check (url != []) "missing URL"
  check (isAllowedUpdateUrl url) "download URL host is not allowlisted"
  let server ← orError (parseHttpUrl url) "invalid download URL"
  let body ← fetch server
  check (body != []) "empty response"
  return body

/-- The attempts of `DownloadReleaseZip`, with what has failed before. -/
def tryAttempts (fetch : HttpUrl → Except String Bytes) :
    List (String × Text) → List String → Except String Bytes
  | [], failed =>
    .error (if failed.isEmpty then "all download methods failed" else "; ".intercalate failed)
  | (label, url) :: rest, failed =>
    match attemptDownload fetch url with
    | .ok body => .ok body
    | .error error =>
      tryAttempts fetch rest (if error.isEmpty then failed else failed ++ [label ++ ": " ++ error])

/-- `DownloadReleaseZip`. -/
def downloadReleaseZip (fetch : HttpUrl → Except String Bytes) (call : UpdateCall) :
    Except String Bytes :=
  tryAttempts fetch ([("browser", call.zipDownloadUrl), ("api", call.zipApiUrl)].filter
    fun attempt => attempt.2 != []) []

/-- `releasePage`, in a buffer of 256 characters. -/
def releasePage (githubRepo : String) (tag : Text) : String :=
  let text := "https://github.com/" ++ githubRepo ++ "/releases/tag/" ++
    .ofList (tag.map fun b => Char.ofNat b.toNat)
  .ofList (text.toList.take 255)

/-- The error of a download that has failed. -/
def downloadError (githubRepo : String) (tag : Text) (reason : String) : String :=
  "Download failed (" ++ reason ++ "). Manual download: " ++ releasePage githubRepo tag ++
    " — details in %TEMP%\\sf4-netplay-update.log"

/-! ## The digest -/

/-- A digit of `%02x`. -/
def hexDigit (n : UInt8) : UInt8 := if n < 10 then 48 + n else 87 + n

/-- The digest as `ComputeFileSha256Hex` writes it. -/
def hex (digest : Vector UInt8 32) : Text :=
  digest.toList.flatMap fun b => [hexDigit (b / 16), hexDigit (b % 16)]

/-- `HexEqualsIgnoreCase`. -/
def hexEqualsIgnoreCase (a b : Text) : Bool := stricmpEq a b

/-- The check of the digest, which is left out if none has been published. -/
def verifyDigest (p : Platform) (hashComputed : Bool) (zip : Bytes) (expectedSha256 : Text) :
    Except String Unit :=
  if expectedSha256 = [] then .ok ()
  else do
    check hashComputed "Could not verify the update download. Try again."
    check (hexEqualsIgnoreCase (hex (p.sha256 zip)) expectedSha256)
      ("The update download failed its integrity check and was not installed. " ++
        "This can happen if the download was corrupted; try again, or download " ++
        "the release manually from GitHub.")

/-! ## The update -/

/-- The path of the package can be converted for the log. -/
def readable (p : Platform) (stagingDir : Wide) : Bool :=
  (p.wideToUtf8 stagingDir).length < maxPath * 2

/-- `DownloadAndApplyUpdate`. -/
def downloadAndApplyUpdate (p : Platform) (s : Circumstances) (temp : TempDirectory)
    (call : UpdateCall) : Except String Handover := do
  check (call.zipDownloadUrl != [] || call.zipApiUrl != []) "Missing download URL."
  check (call.latestVersionTag != []) "Missing version tag."
  check (!s.gameRunning) "Close Ultra Street Fighter IV before installing an update."
  check s.installDirFound "Could not determine install directory."
  let dir ← prepareExtractDir p s.tempCalls temp call.latestVersionTag
  let zip ← (downloadReleaseZip s.fetch call).mapError
    (downloadError s.githubRepo call.latestVersionTag)
  verifyDigest p s.hashComputed zip call.expectedSha256
  let after ← orError (s.tar zip dir.content) "Could not extract update package."
  check (validateExtractedTree dir.path after) "Downloaded package contains invalid paths."
  let root ← orError (findPackageRoot dir.path after)
    "Downloaded package is missing Launcher.exe or Sidecar.dll."
  let staged := (after.folder? root).getD .nil
  check (readable p (joinPath dir.path root)) "Could not read staging path."
  check (validateStagedPackage (joinPath dir.path root) staged)
    "Downloaded package failed validation (missing required files)."
  check s.updaterStarts "Could not start Updater.exe. Reinstall from a fresh zip."
  return ⟨zip, root, staged⟩

/-! ## The property -/

/-- The files that `tar` leaves in a directory: those of the archive are created or overwritten,
and the others are what they were. -/
def extractedFiles (archive before : Tree) : List (Path × Bytes) :=
  archive.files ++ before.files.filter fun x => decide (∀ y ∈ archive.files, y.1 ≠ x.1)

/-- The folders that `tar` leaves in a directory. -/
def extractedFolders (archive before : Tree) : List Path := archive.folders ++ before.folders

/-- The directory after `tar`. -/
structure Extracts (archive before after : Tree) : Prop where
  wellFormed : after.WellFormed
  files : ∀ x, x ∈ after.files ↔ x ∈ extractedFiles archive before
  folders : ∀ path, path ∈ after.folders ↔ path ∈ extractedFolders archive before

instance (archive before after : Tree) : Decidable (Extracts archive before after) :=
  decidable_of_iff (after.WellFormed ∧
      (after.files ⊆ extractedFiles archive before ∧
        extractedFiles archive before ⊆ after.files) ∧
      after.folders ⊆ extractedFolders archive before ∧
        extractedFolders archive before ⊆ after.folders)
    ⟨fun ⟨h, ⟨h₁, h₂⟩, h₃, h₄⟩ => ⟨h, fun _ => ⟨@h₁ _, @h₂ _⟩, fun _ => ⟨@h₃ _, @h₄ _⟩⟩,
      fun h => ⟨h.wellFormed, ⟨fun _ => (h.files _).1, fun _ => (h.files _).2⟩,
        fun _ => (h.folders _).1, fun _ => (h.folders _).2⟩⟩

/-- `tar` extracts archives, in whatever order the file system lists them then. -/
def Circumstances.TarExtracts (p : Platform) (s : Circumstances) : Prop :=
  ∀ zip before after, s.tar zip before = some after →
    ∃ archive, p.contents zip = some archive ∧ Extracts archive before after

/-- What is handed over is a folder of the archive in the zip, and the zip has the digest. -/
structure Verified (p : Platform) (expectedSha256 : Text) (h : Handover) : Prop where
  digest : hexEqualsIgnoreCase (hex (p.sha256 h.zip)) expectedSha256 = true
  exactly : ∃ archive, p.contents h.zip = some archive ∧
    ∀ path b, (path, b) ∈ h.tree.files ↔ (h.stagingRoot ++ path, b) ∈ archive.files

/-- An update to this version from this zip, with a published digest, hands over what has been
verified if it succeeds. -/
def InstallsVerified (p : Platform) (temp : TempDirectory) (tag : Text) (zip : Bytes) : Prop :=
  ∀ s : Circumstances, s.TarExtracts p → ∀ call : UpdateCall, call.latestVersionTag = tag →
    call.expectedSha256 ≠ [] → ∀ h, downloadAndApplyUpdate p s temp call = .ok h → h.zip = zip →
      Verified p call.expectedSha256 h

/-- The package that a directory is taken for, if it comes first in the listing. -/
structure Accepts (p : Platform) (extractDir : Wide) (tree : Tree) (root : Path)
    (found : Tree) : Prop where
  outermost : Listing.Outermost (searched extractDir) (hasPackage extractDir) found [] tree root
  readable : readable p (joinPath extractDir root) = true
  valid : validateStagedPackage (joinPath extractDir root) found = true

/-- No package in the folder `extract` has a file that is left over, once the zip is extracted:
the zip overwrites the files of earlier updates in it. -/
def OverwritesLeftovers (p : Platform) (temp : TempDirectory) (tag : Text) (zip : Bytes) :
    Prop :=
  tag ≠ [] → zip ≠ [] → ∀ dir, prepareExtractDir p {} temp tag = .ok dir →
    ∀ archive, p.contents zip = some archive → ∀ after, Extracts archive dir.content after →
      validateExtractedTree dir.path after = true →
        ∀ root found, Accepts p dir.path after root found →
          ∀ x ∈ dir.content.files, root <+: x.1 → ∃ y ∈ archive.files, y.1 = x.1

/-! ## Success -/

section

variable {p : Platform} {s : Circumstances} {temp : TempDirectory} {call : UpdateCall}

/-- **Inversion.** What has happened when an update succeeds. -/
lemma downloadAndApplyUpdate_eq_ok_iff {h : Handover} :
    downloadAndApplyUpdate p s temp call = .ok h ↔
      (call.zipDownloadUrl != [] || call.zipApiUrl != []) = true ∧
      (call.latestVersionTag != []) = true ∧ (!s.gameRunning) = true ∧
      s.installDirFound = true ∧
      ∃ dir, prepareExtractDir p s.tempCalls temp call.latestVersionTag = .ok dir ∧
      ∃ zip, downloadReleaseZip s.fetch call = .ok zip ∧
      verifyDigest p s.hashComputed zip call.expectedSha256 = .ok () ∧
      ∃ after, s.tar zip dir.content = some after ∧
      validateExtractedTree dir.path after = true ∧
      ∃ root, findPackageRoot dir.path after = some root ∧
      readable p (joinPath dir.path root) = true ∧
      validateStagedPackage (joinPath dir.path root) ((after.folder? root).getD .nil) = true ∧
      s.updaterStarts = true ∧ ⟨zip, root, (after.folder? root).getD .nil⟩ = h := by
  simp only [downloadAndApplyUpdate, bind_eq_ok_iff, check_eq_ok_iff, orError_eq_ok_iff,
    mapError_eq_ok_iff, pure, Except.pure, Except.ok.injEq, Unique.exists_iff,
    PUnit.default_eq_unit]

/-- The zip has the digest that was published. -/
lemma verifyDigest_eq_ok_iff {hashComputed : Bool} {zip : Bytes} {expectedSha256 : Text}
    (hne : expectedSha256 ≠ []) : verifyDigest p hashComputed zip expectedSha256 = .ok () ↔
      hashComputed = true ∧ hexEqualsIgnoreCase (hex (p.sha256 zip)) expectedSha256 = true := by
  simp only [verifyDigest, if_neg hne, bind_eq_ok_iff, check_eq_ok_iff, exists_const]

lemma ensureDirectoryExists_of_ok {parent tree : Tree} {name : Wide} {createError : Option ℕ}
    (h : ensureDirectoryExists parent name createError = .ok tree) :
    ensureDirectoryExists parent name none = .ok tree := by
  unfold ensureDirectoryExists at h ⊢
  cases hsub : parent.subfolder? (canonical name) with
  | some inside =>
    rw [hsub] at h
    exact h
  | none =>
    rw [hsub, Option.elim_none] at h
    rw [Option.elim_none]
    by_cases hname : canonical name ∈ parent.names
    · rw [if_pos hname] at h
      cases h
    · rw [if_neg hname] at h ⊢
      cases createError with
      | none => exact h
      | some code => cases h

/-- What the folder holds does not depend on the calls, if they succeed. -/
lemma prepareExtractDir_of_ok {calls : TempCalls} {tag : Text} {dir : ExtractDir}
    (h : prepareExtractDir p calls temp tag = .ok dir) :
    prepareExtractDir p {} temp tag = .ok dir := by
  simp only [prepareExtractDir, bind_eq_ok_iff, check_eq_ok_iff, explain_eq_ok_iff,
    exists_const] at h ⊢
  obtain ⟨-, hroot, tempRoot, htemp, -, hzip, hextract, content, hcontent, hdir⟩ := h
  exact ⟨trivial, hroot, tempRoot, ensureDirectoryExists_of_ok htemp, trivial, hzip, hextract,
    content, ensureDirectoryExists_of_ok hcontent, hdir⟩

/-- A zip that has been downloaded is not empty. -/
lemma ne_nil_of_attempts {fetch : HttpUrl → Except String Bytes} {attempts : List (String × Text)}
    {failed : List String} {zip : Bytes} (h : tryAttempts fetch attempts failed = .ok zip) :
    zip ≠ [] := by
  induction attempts generalizing failed with
  | nil => cases h
  | cons attempt rest ih =>
    obtain ⟨label, url⟩ := attempt
    rw [tryAttempts] at h
    split at h
    · rename_i body hbody
      obtain rfl := Except.ok.inj h
      simp only [attemptDownload, bind_eq_ok_iff, check_eq_ok_iff, exists_const] at hbody
      obtain ⟨-, -, server, -, body', -, hne, heq⟩ := hbody
      obtain rfl := Except.ok.inj heq
      simpa using hne
    · exact ih h

end

/-! ## What is left over -/

section

variable {p : Platform} {temp : TempDirectory} {tag : Text} {zip : Bytes}
variable {archive before after tree : Tree}

lemma mem_extractedFiles {x : Path × Bytes} : x ∈ extractedFiles archive before ↔
    x ∈ archive.files ∨ x ∈ before.files ∧ ∀ y ∈ archive.files, y.1 ≠ x.1 := by
  rw [extractedFiles, List.mem_append, List.mem_filter, decide_eq_true_eq]

/-- The order of the listing is the file system's. -/
lemma Extracts.of_reordered (h : Extracts archive before after) (horder : after.Reordered tree) :
    Extracts archive before tree where
  wellFormed := horder.wellFormed h.wellFormed
  files x := (horder.mem_files x).trans (h.files x)
  folders path := horder.folders.mem_iff.trans (h.folders path)

/-- In a package without leftovers there are the files of the archive. -/
lemma mem_files_of_overwritten {root : Path} {found : Tree} (h : Extracts archive before after)
    (hfound : after.folder? root = some found)
    (hover : ∀ x ∈ before.files, root <+: x.1 → ∃ y ∈ archive.files, y.1 = x.1) (path : Path)
    (b : Bytes) : (path, b) ∈ found.files ↔ (root ++ path, b) ∈ archive.files := by
  rw [Listing.mem_files_folder? h.wellFormed hfound, h.files, mem_extractedFiles]
  constructor
  · rintro (hnew | ⟨hold, hkept⟩)
    · exact hnew
    · obtain ⟨y, hy, hpath⟩ := hover _ hold (List.prefix_append root path)
      exact absurd hpath (hkept y hy)
  · exact .inl

/-- The package that is found is one that the directory is taken for. -/
lemma exists_accepts {extractDir : Wide} {root : Path} (hwf : after.WellFormed)
    (hfind : findPackageRoot extractDir after = some root)
    (hread : readable p (joinPath extractDir root) = true)
    (hvalid : validateStagedPackage (joinPath extractDir root)
      ((after.folder? root).getD .nil) = true) :
    ∃ found, after.folder? root = some found ∧ Accepts p extractDir after root found := by
  obtain ⟨below, found, hroot, hout⟩ := Listing.outermost_of_search hwf hfind
  rw [List.nil_append] at hroot
  subst hroot
  have hfolder := hout.folder?
  rw [hfolder, Option.getD_some] at hvalid
  exact ⟨found, hfolder, hout, hread, hvalid⟩

/-- A package that has a file that is left over, in a listing in which it comes first. -/
lemma Accepts.front {extractDir : Wide} {root : Path} {found : Tree}
    (h : Accepts p extractDir after root found) :
    findPackageRoot extractDir (after.front root) = some root ∧
      (after.front root).folder? root = some found := by
  obtain ⟨hout, hfind⟩ := h.outermost.front fun here _ _ horder =>
    hasPackage_of_reordered here horder
  exact ⟨hfind, hout.folder?⟩

/-- The digest is not the empty string. -/
lemma hex_ne_nil (digest : Vector UInt8 32) : hex digest ≠ [] := by
  intro hnil
  have hlen := congrArg List.length hnil
  rw [hex, List.length_flatMap] at hlen
  simp at hlen

/-- The circumstances in which the zip is downloaded and extracted, and everything succeeds. -/
def Circumstances.favourable (zip : Bytes) (before after : Tree) : Circumstances where
  gameRunning := false
  installDirFound := true
  tempCalls := {}
  fetch _ := .ok zip
  hashComputed := true
  tar file tree := if file = zip ∧ tree = before then some after else none
  updaterStarts := true
  githubRepo := "Confetti3/SF4-Netplay-Launcher"

/-- The zip is downloaded from the release, and its digest has been published. -/
def UpdateCall.published (p : Platform) (tag : Text) (zip : Bytes) : UpdateCall where
  zipDownloadUrl := ascii "https://github.com/update.zip"
  zipApiUrl := []
  latestVersionTag := tag
  expectedSha256 := hex (p.sha256 zip)

lemma tarExtracts_favourable (harchive : p.contents zip = some archive)
    (h : Extracts archive before after) :
    (Circumstances.favourable zip before after).TarExtracts p := by
  intro file tree result htar
  simp only [Circumstances.favourable, Option.ite_none_right_eq_some, Option.some.injEq] at htar
  obtain ⟨⟨rfl, rfl⟩, rfl⟩ := htar
  exact ⟨archive, harchive, h⟩

lemma downloadReleaseZip_favourable (hzip : zip ≠ []) :
    downloadReleaseZip (Circumstances.favourable zip before after).fetch
      (.published p tag zip) = .ok zip := by
  have hurl : (UpdateCall.published p tag zip).zipDownloadUrl =
    ascii "https://github.com/update.zip" := rfl
  have hattempt : attemptDownload (fun _ => .ok zip) (ascii "https://github.com/update.zip") =
      .ok zip := by
    simp only [attemptDownload, bind_eq_ok_iff, check_eq_ok_iff, orError_eq_ok_iff, exists_const]
    refine ⟨by decide, by decide, _, rfl, zip, rfl, by simpa using hzip, rfl⟩
  rw [downloadReleaseZip, hurl]
  show tryAttempts (fun _ => .ok zip)
    [("browser", ascii "https://github.com/update.zip")] [] = .ok zip
  rw [tryAttempts, hattempt]

/-- An update that hands over an accepted package. -/
lemma downloadAndApplyUpdate_favourable {dir : ExtractDir} {root : Path} {found : Tree}
    (htag : tag ≠ []) (hzip : zip ≠ []) (hdir : prepareExtractDir p {} temp tag = .ok dir)
    (hpaths : validateExtractedTree dir.path after = true)
    (h : Accepts p dir.path after root found) :
    downloadAndApplyUpdate p (.favourable zip dir.content (after.front root)) temp
      (.published p tag zip) = .ok ⟨zip, root, found⟩ := by
  obtain ⟨hfind, hfolder⟩ := h.front
  have hdigest : verifyDigest p true zip (hex (p.sha256 zip)) = .ok () :=
    (verifyDigest_eq_ok_iff (hex_ne_nil _)).2 ⟨rfl, beq_self_eq_true _⟩
  have hpaths' : validateExtractedTree dir.path (after.front root) = true := by
    rw [validateExtractedTree_of_reordered (Listing.reordered_front after root), hpaths]
  refine downloadAndApplyUpdate_eq_ok_iff.2 ⟨rfl, by simpa [UpdateCall.published] using htag,
    rfl, rfl, dir, hdir, zip, downloadReleaseZip_favourable hzip, hdigest, after.front root, ?_,
    hpaths', root, hfind, h.readable, ?_, rfl, ?_⟩
  · exact if_pos ⟨rfl, rfl⟩
  · rw [hfolder, Option.getD_some]
    exact h.valid
  · rw [hfolder, Option.getD_some]

/-- **An update installs what has been verified if and only if** no package in the folder into
which the zip is extracted has a file that is left over.  What else the folder holds does not
matter. -/
theorem installsVerified_iff (p : Platform) (temp : TempDirectory) (tag : Text) (zip : Bytes) :
    InstallsVerified p temp tag zip ↔ OverwritesLeftovers p temp tag zip := by
  constructor
  · intro h htag hzip dir hdir archive harchive after hextracts hpaths root found haccepts x hx
      hbegins
    -- a listing in which the package comes first
    obtain ⟨path, hpath⟩ := hbegins
    have hextracts' := hextracts.of_reordered (Listing.reordered_front after root)
    have hverified := h (.favourable zip dir.content (after.front root))
      (tarExtracts_favourable harchive hextracts') (.published p tag zip) rfl (hex_ne_nil _)
      ⟨zip, root, found⟩ (downloadAndApplyUpdate_favourable htag hzip hdir hpaths haccepts) rfl
    obtain ⟨archive', harchive', hexact⟩ := hverified.exactly
    obtain rfl : archive = archive' := Option.some.inj (harchive.symm.trans harchive')
    by_contra hnone
    have hkept : ∀ y ∈ archive.files, y.1 ≠ x.1 := fun y hy heq => hnone ⟨y, hy, heq⟩
    have hafter : (root ++ path, x.2) ∈ after.files := by
      rw [hpath, hextracts.files]
      exact mem_extractedFiles.2 (.inr ⟨hx, hkept⟩)
    have hstaged : (path, x.2) ∈ found.files :=
      (Listing.mem_files_folder? hextracts.wellFormed haccepts.outermost.folder?).2 hafter
    exact hkept _ ((hexact path x.2).1 hstaged) hpath
  · rintro h s htar call rfl hexpected handover hok rfl
    obtain ⟨-, htag, -, -, dir, hdir, zip, hzip, hdigest, after, hafter, hpaths, root, hfind, hread,
      hvalid, -, rfl⟩ := downloadAndApplyUpdate_eq_ok_iff.1 hok
    obtain ⟨archive, harchive, hextracts⟩ := htar _ _ _ hafter
    obtain ⟨found, hfolder, haccepts⟩ := exists_accepts hextracts.wellFormed hfind hread hvalid
    have hover := h (by simpa using htag) (ne_nil_of_attempts hzip) dir
      (prepareExtractDir_of_ok hdir) archive harchive after hextracts hpaths root found haccepts
    refine ⟨((verifyDigest_eq_ok_iff hexpected).1 hdigest).2, archive, harchive, ?_⟩
    rw [hfolder, Option.getD_some]
    exact mem_files_of_overwritten hextracts hfolder hover

end

/-! ## A file that is left over -/

/-- The files of a package, with a folder `plugins`. -/
def samplePackage (plugins : Tree) : Tree :=
  (kRequiredPackagePaths.filter fun name => decide (backslash ∉ name)).foldr
    (fun name rest => .file (canonical name) [1] rest)
    (.folder (wide "plugins") plugins .nil)

/-- The plugin that is in every package. -/
def samplePlatforms (rest : Tree) : Tree :=
  .folder (wide "platforms") (.file (wide "qwindows.dll") [1] .nil) rest

/-- A plugin of an earlier package. -/
def earlierPlugin (rest : Tree) : Tree :=
  .folder (wide "imageformats") (.file (wide "qold.dll") [7] .nil) rest

/-- A platform on which every file is an archive with this package. -/
def samplePlatform (package : Tree) : Platform where
  utf8ToWide text := text.map (·.toUInt16)
  wideToUtf8 text := text.map (·.toUInt8)
  sha256 _ := Vector.replicate 32 0
  contents _ := some package

/-- A temporary directory in which an update to `v1` has left something. -/
def leftBehind (tree : Tree) : TempDirectory where
  path := wide "C:\\Temp"
  content := .folder (wide "sf4-netplay-update-v1") (.folder (wide "extract") tree .nil) .nil

/-- **A file that nobody has verified is installed.** An earlier package of the version has left
a plugin in the folder into which the zip is extracted.  Plugins of every name are allowed, and
it is handed over with the files of the zip. -/
theorem not_installsVerified_leftover :
    ¬ ∀ (p : Platform) (temp : TempDirectory) (tag : Text) (zip : Bytes),
      InstallsVerified p temp tag zip := by
  intro h
  let package := samplePackage (samplePlatforms .nil)
  let before : Tree := .folder (wide "plugins") (earlierPlugin .nil) .nil
  let after := samplePackage (samplePlatforms (earlierPlugin .nil))
  have hextracts : Extracts package before after := by decide +kernel
  have hok : (downloadAndApplyUpdate (samplePlatform package) (.favourable [80] before after)
      (leftBehind before) (.published (samplePlatform package) (ascii "v1") [80])).toOption =
        some ⟨[80], [], after⟩ := by decide +kernel
  have hleft : ([wide "plugins", wide "imageformats", wide "qold.dll"], [7]) ∈ after.files ∧
      ([wide "plugins", wide "imageformats", wide "qold.dll"], [7]) ∉ package.files := by
    decide +kernel
  have hverified := h (samplePlatform package) (leftBehind before) (ascii "v1") [80]
    (.favourable [80] before after) (tarExtracts_favourable rfl hextracts)
    (.published (samplePlatform package) (ascii "v1") [80]) rfl (hex_ne_nil _) _
    (eq_ok_of_toOption hok) rfl
  obtain ⟨archive, harchive, hexact⟩ := hverified.exactly
  obtain rfl : package = archive := Option.some.inj harchive
  exact hleft.2 ((hexact _ _).1 hleft.1)

end Update
end Sf4e
