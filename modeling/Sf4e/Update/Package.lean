/-
# The package in a directory

An update package is extracted into a directory, which is then searched for the folder of the
package.  `FindPackageRoot` goes by two files that it looks for, `ValidateStagedPackage` by a
list of the files that there must be and of those that there may be.

A directory is a `Listing` of what is in it.  The names are in lower case, since the file system
does not tell upper from lower case.  Paths are relative to the directory of which they are
read, and what does not fit `MAX_PATH` is not found.
-/
import Mathlib.Algebra.BigOperators.Group.List.Basic
import Mathlib.Algebra.GroupWithZero.Nat
import Sf4e.Data.Listing
import Sf4e.Update.DownloadUrl

namespace Sf4e
namespace Update

open Wire Relay

/-! ## Names and paths -/

/-- The code units of a wide string. -/
abbrev Wide := List UInt16

/-- A wide string literal. -/
def wide (s : String) : Wide := s.toList.map fun c => c.toNat.toUInt16

/-- `towlower` in the C locale. -/
def towlower (c : UInt16) : UInt16 := if 65 ≤ c && c ≤ 90 then c + 32 else c

/-- `_wcsicmp(a, b) == 0`. -/
def wcsicmpEq (a b : Wide) : Bool := a.map towlower == b.map towlower

/-- `_wcsnicmp(a, b, n) == 0`. -/
def wcsnicmpEq (a b : Wide) (n : ℕ) : Bool := wcsicmpEq (a.take n) (b.take n)

/-- `wcsrchr`: the string from the last `c` on. -/
def wcsrchr (s : Wide) (c : UInt16) : Option Wide :=
  if c ∈ s then some (c :: (s.reverse.takeWhile (· != c)).reverse) else none

/-- `L'\\'`. -/
def backslash : UInt16 := 92
/-- `L'.'`. -/
def dot : UInt16 := 46

/-- The names of the folders on the way and of the entry itself. -/
abbrev Path := List Wide

/-- A path as the file system reads it. -/
def components (path : Wide) : Path := (path.map towlower).splitOn backslash

/-- The names, one after the other, after the path of a directory. -/
def joinPath (root : Wide) (path : Path) : Wide :=
  path.foldl (fun text name => text ++ backslash :: name) root

/-- The text of a path that is relative. -/
def relText : Path → Wide
  | [] => []
  | name :: path => joinPath name path

/-- `MAX_PATH`. -/
def maxPath : ℕ := 260

/-- The path fits a buffer of `MAX_PATH` characters, so that `PathCchCombine` yields it and the
file system knows it. -/
def fits (root : Wide) (path : Path) : Bool := (joinPath root path).length < maxPath

/-- The bytes of a file. -/
abbrev Bytes := List UInt8

/-- What is in a directory. -/
abbrev Tree := Listing Wide Bytes

/-- `GetFileAttributesW` finds something at the path. -/
def pathExists (root : Wide) (tree : Tree) (path : Wide) : Bool :=
  fits root (components path) && decide (tree.Has (components path))

/-- `L"*"`. -/
def wildcard : Wide := wide "*"

/-! ## The package root -/

/-- `FindPackageRoot` can look for the launcher in a directory. -/
def searched (root : Wide) (here : Path) : Bool := fits root (here ++ [wide "Launcher.exe"])

/-- The directory has the launcher and the sidecar. -/
def hasPackage (root : Wide) (here : Path) (tree : Tree) : Bool :=
  pathExists (joinPath root here) tree (wide "Launcher.exe") &&
    (pathExists (joinPath root here) tree (wide "dll\\Sidecar.dll") ||
      pathExists (joinPath root here) tree (wide "Sidecar.dll"))

/-- `FindPackageRoot`.  The buffer for a folder has room, as `ValidateExtractedTree` has been
there. -/
def findPackageRoot (root : Wide) (tree : Tree) : Option Path :=
  tree.search (searched root) (hasPackage root) []

/-! ## Validating -/

/-- `kRequiredPackagePaths`. -/
def kRequiredPackagePaths : List Wide :=
  ["Launcher.exe", "Sidecar.dll", "RelayHost.exe", "Updater.exe", "spdlog.dll", "fmt.dll",
    "GameNetworkingSockets.dll", "GGPO.dll", "libcrypto-3.dll", "libprotobuf.dll",
    "abseil_dll.dll", "Qt6Core.dll", "Qt6Gui.dll", "Qt6Widgets.dll", "qt.conf",
    "plugins\\platforms\\qwindows.dll", "preflight.ps1", "preflight.cmd", "START_HERE.md",
    "BUILD_INFO.txt"].map wide

/-- `kAllowedPackagePaths`. -/
def kAllowedPackagePaths : List Wide :=
  ["Launcher.exe", "Sidecar.dll", "RelayHost.exe", "Updater.exe", "START_HERE.md",
    "preflight.cmd", "preflight.ps1", "qt.conf", "MANIFEST.txt", "ATTRIBUTION.md",
    "BUILD_INFO.txt", "spdlog.dll", "fmt.dll", "GameNetworkingSockets.dll", "GGPO.dll",
    "libcrypto-3.dll", "libprotobuf.dll", "abseil_dll.dll", "Qt6Core.dll", "Qt6Gui.dll",
    "Qt6Widgets.dll", "Qt6Network.dll", "icudt78.dll", "icuin78.dll", "icuuc78.dll",
    "double-conversion.dll", "pcre2-16.dll", "md4c.dll", "zlib1.dll",
    "plugins\\generic\\qtuiotouchplugin.dll", "plugins\\imageformats\\qgif.dll",
    "plugins\\imageformats\\qico.dll", "plugins\\imageformats\\qjpeg.dll",
    "plugins\\networkinformation\\qnetworklistmanager.dll", "plugins\\platforms\\qwindows.dll",
    "plugins\\styles\\qmodernwindowsstyle.dll", "plugins\\tls\\qcertonlybackend.dll",
    "plugins\\tls\\qschannelbackend.dll", "docs\\TROUBLESHOOTING.md", "docs\\USER_NETPLAY.md",
    "docs\\BETA_TESTERS.md", "docs\\SCOPE_AND_LIMITATIONS.md", "docs\\TEAM_QUICKSTART.md",
    "docs\\SMOKE_TEST.md", "docs\\NETPLAY_INVARIANTS.md", "docs\\WINDOWS_DEFENDER.md",
    "docs\\CODE_SIGNING.md"].map wide

/-- `IsAllowedPackagePath`. -/
def isAllowedPackagePath (relPath : Wide) : Bool :=
  relPath != [] &&
    (wcsicmpEq relPath (wide "SECURITY.md") ||
      (wcsnicmpEq relPath (wide "plugins\\") 8 && (wcsrchr relPath dot).any fun ext =>
        wcsicmpEq ext (wide ".dll") || wcsicmpEq ext (wide ".pdb")) ||
      kAllowedPackagePaths.any (wcsicmpEq relPath))

/-- The entries of a directory in `ValidatePackageTree`, which goes on in every folder. -/
def validateEntries (dir : Wide) : Path → Tree → Bool
  | _, .nil => true
  | here, .file name _ rest =>
    isAllowedPackagePath (relText (here ++ [name])) && validateEntries dir here rest
  | here, .folder name inside rest =>
    fits dir (here ++ [name, wildcard]) && validateEntries dir (here ++ [name]) inside &&
      validateEntries dir here rest

/-- `ValidatePackageTree`.  The pattern does not fit if the path of a directory is too long. -/
def validatePackageTree (dir : Wide) (tree : Tree) : Bool :=
  fits dir [wildcard] && validateEntries dir [] tree

/-- `ValidateStagedPackage`. -/
def validateStagedPackage (stagingDir : Wide) (tree : Tree) : Bool :=
  kRequiredPackagePaths.all (pathExists stagingDir tree) && validatePackageTree stagingDir tree

/-- The entries of a directory in `ValidateExtractedTree`.  An entry with a path that does not
fit has the empty path, which is not under the root; the path of any other is. -/
def validateExtractedEntries (root : Wide) : Path → Tree → Bool
  | _, .nil => true
  | here, .file name _ rest =>
    fits root (here ++ [name]) && validateExtractedEntries root here rest
  | here, .folder name inside rest =>
    fits root (here ++ [name]) &&
      (fits root (here ++ [name, wildcard]) &&
        validateExtractedEntries root (here ++ [name]) inside) &&
      validateExtractedEntries root here rest

/-- `ValidateExtractedTree`. -/
def validateExtractedTree (root : Wide) (tree : Tree) : Bool :=
  fits root [wildcard] && validateExtractedEntries root [] tree

/-! ## Orders of a directory -/

lemma length_joinPath (root : Wide) (path : Path) :
    (joinPath root path).length = root.length + (path.map fun name => name.length + 1).sum := by
  induction path generalizing root with
  | nil => rfl
  | cons name path ih =>
    show (joinPath (root ++ backslash :: name) path).length = _
    rw [ih, List.length_append, List.length_cons, List.map_cons, List.sum_cons, Nat.add_assoc]

/-- A path fits if a longer one does. -/
lemma fits_of_append {root : Wide} {path more : Path} (h : fits root (path ++ more) = true) :
    fits root path = true := by
  simp only [fits, decide_eq_true_eq, length_joinPath, List.map_append, List.sum_append] at h ⊢
  omega

/-- The whole tree fits. -/
lemma validateExtractedEntries_iff {root : Wide} {here : Path} {tree : Tree} :
    validateExtractedEntries root here tree = true ↔
      (∀ path ∈ tree.folders, fits root (here ++ path ++ [wildcard]) = true) ∧
        ∀ x ∈ tree.files, fits root (here ++ x.1) = true := by
  induction tree generalizing here with
  | nil => simp [validateExtractedEntries, Listing.folders, Listing.files]
  | file name content rest ih =>
    rw [validateExtractedEntries, Bool.and_eq_true, ih, Listing.folders, Listing.files,
      List.forall_mem_cons]
    tauto
  | folder name inside rest ihin ih =>
    have hname : ∀ path : Path, here ++ [name] ++ path = here ++ name :: path := fun path =>
      List.append_assoc here [name] path
    rw [validateExtractedEntries, Bool.and_eq_true, Bool.and_eq_true, Bool.and_eq_true, ihin, ih,
      Listing.folders, Listing.files, List.cons_append, List.forall_mem_cons,
      List.forall_mem_append, List.forall_mem_append, List.forall_mem_map, List.forall_mem_map]
    simp only [hname, List.append_assoc, List.cons_append]
    constructor
    · rintro ⟨⟨-, hfit, hin, hin'⟩, hrest, hrest'⟩
      exact ⟨⟨hfit, hin, hrest⟩, hin', hrest'⟩
    · rintro ⟨⟨hfit, hin, hrest⟩, hin', hrest'⟩
      have hshort : here ++ [name, wildcard] = here ++ [name] ++ [wildcard] := by simp
      exact ⟨⟨fits_of_append (hshort ▸ hfit), hfit, hin, hin'⟩, hrest, hrest'⟩

/-- The order of the listings does not matter. -/
lemma validateExtractedTree_of_reordered {root : Wide} {tree tree' : Tree}
    (h : tree.Reordered tree') :
    validateExtractedTree root tree' = validateExtractedTree root tree := by
  have hiff : validateExtractedEntries root [] tree' = true ↔
      validateExtractedEntries root [] tree = true := by
    simp only [validateExtractedEntries_iff, h.folders.mem_iff, h.files.mem_iff]
  rw [validateExtractedTree, validateExtractedTree, Bool.eq_iff_iff.2 hiff]

lemma hasPackage_of_reordered {root : Wide} (here : Path) {tree tree' : Tree}
    (h : tree.Reordered tree') : hasPackage root here tree' = hasPackage root here tree := by
  simp only [hasPackage, pathExists, h.has]

end Update
end Sf4e
