/-
# Links that the launcher opens

`IsAllowedExternalUrl` reads the host out of a link with a parser of its own and accepts the
hosts of GitHub; the browser reads the host again.  The two agree on plain links
(`opensGithub_of_plain`).  The parser of the launcher does not know that a backslash, a question
mark or a hash ends the host, takes the first at sign for the end of the user name where the
browser takes the last one, and cuts a host without a path to the size of its buffer: for each
of these there are links that it accepts whatever the host is that the browser goes to.
-/
import Mathlib.Data.List.DropRight
import Sf4e.Update.DownloadUrl

namespace Sf4e
namespace Launcher

open Wire
open Relay (ascii)
open Update (slash colon atSign hostSize stricmpEq before behind)

/-! ## The check -/

/-- The comparisons of `IsAllowedExternalUrl`: the hosts of GitHub. -/
def isGithubHost (host : Text) : Bool :=
  stricmpEq host (ascii "github.com") || stricmpEq host (ascii "www.github.com") ||
    (10 < host.length && stricmpEq (host.drop (host.length - 10)) (ascii ".github.io"))

/-- The part before the path as it is copied; one that does not fit the buffer ends the program
in `strncpy_s`, and without a path the rest is cut. -/
def copiedHost (hostStart : Text) : Option Text :=
  if slash ∈ hostStart then
    if (before slash hostStart).length < hostSize then some (before slash hostStart) else none
  else some (hostStart.take (hostSize - 1))

/-- The host in what was copied. -/
def hostInCopy (host : Text) : Text :=
  before colon (if atSign ∈ host then behind atSign host else host)

/-- `IsAllowedExternalUrl`; `none` if the program ends. -/
def isAllowedExternalUrl (url : Text) : Option Bool :=
  if stricmpEq (url.take 8) (ascii "https://") then
    (copiedHost (url.drop 8)).map fun host => isGithubHost (hostInCopy host)
  else some false

/-- What the handler of `openUrl` does. -/
inductive OpenUrl
  | error (message : String)
  /-- The link is given to the browser. -/
  | shellExecute (url : Text)
deriving DecidableEq

/-- The handler of `openUrl`, for the member `url` of the message. -/
def openUrl (url : Text) : Option OpenUrl :=
  if url = [] then some (.error "No URL to open.")
  else
    (isAllowedExternalUrl (url.takeWhile (· != 0))).map fun allowed =>
      if allowed then .shellExecute (url.takeWhile (· != 0))
      else .error "Only HTTPS GitHub links can be opened from the launcher."

/-- What goes to the browser has been accepted. -/
theorem isAllowed_of_shellExecute {url link : Text}
    (h : openUrl url = some (.shellExecute link)) : isAllowedExternalUrl link = some true := by
  rw [openUrl] at h
  split at h
  · exact absurd h (by simp)
  · obtain ⟨allowed, hallowed, hopen⟩ := Option.map_eq_some_iff.1 h
    cases allowed with
    | false => exact absurd hopen (by simp)
    | true =>
      obtain rfl := OpenUrl.shellExecute.inj hopen
      exact hallowed

/-! ## The host of a link -/

/-- The characters that end an authority: slash, backslash, question mark and hash. -/
def endsAuthority (b : UInt8) : Bool := b == 47 || b == 92 || b == 63 || b == 35

/-- The authority of a link, as a browser finds it. -/
def authorityOf (url : Text) : Text := (url.drop 8).takeWhile fun b => !endsAuthority b

/-- The host of an authority: behind the last at sign, and without the port. -/
def hostOfAuthority (authority : Text) : Text :=
  before colon (authority.rtakeWhile (· != atSign))

/-- The host of a link. -/
def standardHost (url : Text) : Text := hostOfAuthority (authorityOf url)

/-- The link is accepted only if its host is one of GitHub. -/
def OpensGithub (url : Text) : Prop :=
  isAllowedExternalUrl url = some true → isGithubHost (standardHost url) = true

/-- A link in which the launcher and a browser cut the same host. -/
structure PlainLink (url : Text) : Prop where
  /-- Nothing but a slash ends the authority. -/
  ends : ∀ b ∈ before slash (url.drop 8), endsAuthority b = false
  /-- There is one at sign at most. -/
  user : (before slash (url.drop 8)).count atSign ≤ 1
  /-- Without a path the host fits the buffer. -/
  fits : slash ∈ url.drop 8 ∨ (url.drop 8).length < hostSize

/-! ## Cuts -/

section cuts

variable {c : UInt8} {x y : Text}

lemma before_append_cons (hx : c ∉ x) : before c (x ++ c :: y) = x := by
  rw [before, List.takeWhile_append_of_pos, List.takeWhile_cons_of_neg (by simp),
    List.append_nil]
  intro b hb
  rw [bne_iff_ne]
  rintro rfl
  exact hx hb

lemma behind_append_cons (hx : c ∉ x) : behind c (x ++ c :: y) = y := by
  rw [behind, List.dropWhile_append_of_pos, List.dropWhile_cons_of_neg (by simp), List.tail_cons]
  intro b hb
  rw [bne_iff_ne]
  rintro rfl
  exact hx hb

lemma takeWhile_endsAuthority (hx : ∀ b ∈ x, endsAuthority b = false)
    (hc : endsAuthority c = true) :
    (x ++ c :: y).takeWhile (fun b => !endsAuthority b) = x := by
  rw [List.takeWhile_append_of_pos, List.takeWhile_cons_of_neg (by rw [hc]; decide),
    List.append_nil]
  intro b hb
  rw [hx b hb]
  rfl

lemma takeWhile_endsAuthority_self (hx : ∀ b ∈ x, endsAuthority b = false) :
    x.takeWhile (fun b => !endsAuthority b) = x := by
  rw [List.takeWhile_eq_self_iff]
  intro b hb
  rw [hx b hb]
  rfl

lemma rtakeWhile_of_notMem (hx : c ∉ x) : x.rtakeWhile (· != c) = x := by
  rw [List.rtakeWhile_eq_self_iff]
  intro b hb
  rw [bne_iff_ne]
  rintro rfl
  exact hx hb

lemma rtakeWhile_append_cons (hy : c ∉ y) : (x ++ c :: y).rtakeWhile (· != c) = y := by
  induction y using List.reverseRecOn with
  | nil => exact List.rtakeWhile_concat_neg _ _ _ (by simp)
  | append_singleton y b ih =>
    rw [List.mem_append, List.mem_singleton, not_or] at hy
    have hb : (b != c) = true := bne_iff_ne.2 (Ne.symm hy.2)
    rw [← List.cons_append, ← List.append_assoc,
      List.rtakeWhile_concat_pos (· != c) (x ++ c :: y) b hb, ih hy.1]

/-- With one mark at most, the first one is the last one. -/
lemma behind_eq_rtakeWhile {s : Text} (h : s.count c ≤ 1) :
    (if c ∈ s then behind c s else s) = s.rtakeWhile (· != c) := by
  by_cases hmem : c ∈ s
  · obtain ⟨x, y, rfl, hx⟩ := List.eq_append_cons_of_mem hmem
    have hy : c ∉ y := by
      intro hy
      have hpos := List.count_pos_iff.2 hy
      rw [List.count_append, List.count_cons_self] at h
      omega
    rw [if_pos hmem, behind_append_cons hx, rtakeWhile_append_cons hy]
  · rw [if_neg hmem, rtakeWhile_of_notMem hmem]

end cuts

/-! ## Plain links -/

/-- The host is cut out of an authority without a second at sign as a browser does it. -/
lemma hostInCopy_eq {authority : Text} (h : authority.count atSign ≤ 1) :
    hostInCopy authority = hostOfAuthority authority := by
  rw [hostInCopy, hostOfAuthority, behind_eq_rtakeWhile h]

/-- The launcher copies the authority of a plain link, or the program ends. -/
lemma copiedHost_of_plain {url : Text} (h : PlainLink url) {host : Text}
    (hcopy : copiedHost (url.drop 8) = some host) :
    host = before slash (url.drop 8) ∧ authorityOf url = before slash (url.drop 8) := by
  obtain ⟨hends, -, hfits⟩ := h
  rw [authorityOf]
  generalize url.drop 8 = rest at *
  rw [copiedHost] at hcopy
  by_cases hslash : slash ∈ rest
  · obtain ⟨x, y, rfl, hx⟩ := List.eq_append_cons_of_mem hslash
    rw [before_append_cons hx] at hends hcopy ⊢
    rw [if_pos hslash] at hcopy
    split at hcopy
    · exact ⟨(Option.some.inj hcopy).symm, takeWhile_endsAuthority hends rfl⟩
    · exact absurd hcopy.symm (Option.some_ne_none host)
  · rw [Update.before_of_notMem hslash] at hends ⊢
    have hlength : rest.length ≤ hostSize - 1 := by
      have hlt := hfits.resolve_left hslash
      omega
    rw [if_neg hslash, List.take_of_length_le hlength] at hcopy
    exact ⟨(Option.some.inj hcopy).symm, takeWhile_endsAuthority_self hends⟩

/-- A plain link is accepted only if its host is one of GitHub. -/
theorem opensGithub_of_plain {url : Text} (h : PlainLink url) : OpensGithub url := by
  intro hallowed
  rw [isAllowedExternalUrl] at hallowed
  split at hallowed
  · obtain ⟨host, hcopy, hgithub⟩ := Option.map_eq_some_iff.1 hallowed
    obtain ⟨rfl, hauthority⟩ := copiedHost_of_plain h hcopy
    rw [standardHost, hauthority, ← hostInCopy_eq h.user]
    exact hgithub
  · exact absurd (Option.some.inj hallowed) Bool.false_ne_true

/-! ## Links that are misread -/

/-- The text has none of the characters that a host is cut at, and fits the buffer. -/
structure HostText (s : Text) : Prop where
  ends : ∀ b ∈ s, endsAuthority b = false
  user : atSign ∉ s
  port : colon ∉ s

lemma HostText.noSlash {s : Text} (h : HostText s) : slash ∉ s := fun hmem =>
  absurd (h.ends slash hmem) (by decide)

/-- The host of an authority that is a host. -/
lemma HostText.hostOfAuthority {s : Text} (h : HostText s) : hostOfAuthority s = s := by
  rw [Launcher.hostOfAuthority, rtakeWhile_of_notMem h.user, Update.before_of_notMem h.port]

/-- The host behind the first at sign. -/
lemma hostInCopy_of_at {x y : Text} (hx : atSign ∉ x) :
    hostInCopy (x ++ atSign :: y) = before colon y := by
  rw [hostInCopy, if_pos (List.mem_append_right _ List.mem_cons_self), behind_append_cons hx]

/-- The link has the text behind the scheme. -/
def link (rest : Text) : Text := ascii "https://" ++ rest

lemma drop_link (rest : Text) : (link rest).drop 8 = rest := List.drop_left' rfl

lemma isAllowedExternalUrl_link (rest : Text) : isAllowedExternalUrl (link rest) =
    (copiedHost rest).map fun host => isGithubHost (hostInCopy host) := by
  have hscheme : stricmpEq ((link rest).take 8) (ascii "https://") = true := by
    rw [show (link rest).take 8 = ascii "https://" from List.take_left' rfl]
    exact beq_self_eq_true _
  rw [isAllowedExternalUrl, if_pos hscheme, drop_link]

/-- Whether a link that is accepted for another host opens GitHub depends on its own host. -/
lemma opensGithub_link_iff {rest host own : Text} (hcopy : copiedHost rest = some host)
    (haccepted : isGithubHost (hostInCopy host) = true)
    (hown : standardHost (link rest) = own) :
    OpensGithub (link rest) ↔ isGithubHost own = true := by
  rw [OpensGithub, isAllowedExternalUrl_link, hcopy, hown]
  exact ⟨fun h => h (congrArg some haccepted), fun h _ => h⟩

section misread

variable {own shown user password : Text}

/-- A backslash, a question mark or a hash behind the host, and then an at sign and a host of
GitHub. -/
lemma opensGithub_mark_iff {mark : UInt8} (hmark : endsAuthority mark = true)
    (hslash : mark ≠ slash) (hown : HostText own) (hshown : HostText shown)
    (hgithub : isGithubHost shown = true)
    (hfits : (own ++ mark :: atSign :: shown).length < hostSize) :
    OpensGithub (link (own ++ mark :: atSign :: shown)) ↔ isGithubHost own = true := by
  have hnot : slash ∉ own ++ mark :: atSign :: shown := by
    simp only [List.mem_append, List.mem_cons, not_or]
    exact ⟨hown.noSlash, hslash.symm, by decide, hshown.noSlash⟩
  have hcopy : copiedHost (own ++ mark :: atSign :: shown) =
      some (own ++ mark :: atSign :: shown) := by
    rw [copiedHost, if_neg hnot, List.take_of_length_le (by omega)]
  refine opensGithub_link_iff hcopy ?_ ?_
  · have hat : atSign ∉ own ++ [mark] := by
      rw [List.mem_append, List.mem_singleton, not_or]
      refine ⟨hown.user, ?_⟩
      rintro rfl
      exact absurd hmark (by decide)
    rw [List.append_cons, hostInCopy_of_at hat, Update.before_of_notMem hshown.port]
    exact hgithub
  · rw [standardHost, authorityOf, drop_link, takeWhile_endsAuthority hown.ends hmark,
      hown.hostOfAuthority]

/-- A second at sign, behind a port, with a host of GitHub before that. -/
lemma opensGithub_user_iff (huser : HostText user) (hshown : HostText shown)
    (hpassword : HostText password) (hown : HostText own) (hgithub : isGithubHost shown = true)
    (hfits : (user ++ atSign :: (shown ++ colon :: (password ++ atSign :: own))).length <
      hostSize) (path : Text) :
    OpensGithub (link (user ++ atSign :: (shown ++ colon :: (password ++ atSign :: own)) ++
      slash :: path)) ↔ isGithubHost own = true := by
  have hends : ∀ b ∈ user ++ atSign :: (shown ++ colon :: (password ++ atSign :: own)),
      endsAuthority b = false := by
    simp only [List.mem_append, List.mem_cons]
    rintro b (hb | rfl | hb | rfl | hb | rfl | hb)
    · exact huser.ends b hb
    · decide
    · exact hshown.ends b hb
    · decide
    · exact hpassword.ends b hb
    · decide
    · exact hown.ends b hb
  have hnot : slash ∉ user ++ atSign :: (shown ++ colon :: (password ++ atSign :: own)) :=
    fun hmem => absurd (hends slash hmem) (by decide)
  have hcopy : copiedHost (user ++ atSign :: (shown ++ colon :: (password ++ atSign :: own)) ++
      slash :: path) =
        some (user ++ atSign :: (shown ++ colon :: (password ++ atSign :: own))) := by
    rw [copiedHost, if_pos (List.mem_append_right _ List.mem_cons_self), before_append_cons hnot,
      if_pos hfits]
  refine opensGithub_link_iff hcopy ?_ ?_
  · rw [hostInCopy_of_at huser.user, before_append_cons hshown.port]
    exact hgithub
  · -- the last at sign is the one before the own host
    have hlast : user ++ atSign :: (shown ++ colon :: (password ++ atSign :: own)) =
        (user ++ atSign :: (shown ++ colon :: password)) ++ atSign :: own := by
      simp only [List.append_assoc, List.cons_append]
    rw [standardHost, authorityOf, drop_link, takeWhile_endsAuthority hends rfl,
      Launcher.hostOfAuthority, hlast, rtakeWhile_append_cons hown.user,
      Update.before_of_notMem hown.port]

/-- A host without a path that goes on behind the end of the buffer. -/
lemma opensGithub_long_iff (hlength : shown.length = hostSize - 1)
    (hhost : HostText (shown ++ own)) (hgithub : isGithubHost shown = true) :
    OpensGithub (link (shown ++ own)) ↔ isGithubHost (shown ++ own) = true := by
  have hcopy : copiedHost (shown ++ own) = some shown := by
    rw [copiedHost, if_neg hhost.noSlash, List.take_left' hlength]
  have huser : atSign ∉ shown := fun hmem => hhost.user (List.mem_append_left _ hmem)
  have hport : colon ∉ shown := fun hmem => hhost.port (List.mem_append_left _ hmem)
  refine opensGithub_link_iff hcopy ?_ ?_
  · rw [hostInCopy, if_neg huser, Update.before_of_notMem hport]
    exact hgithub
  · rw [standardHost, authorityOf, drop_link, takeWhile_endsAuthority_self hhost.ends,
      hhost.hostOfAuthority]

end misread

/-- The links that are accepted for a host that they show, while a browser goes to their own
host. -/
inductive Misread : Text → Text → Prop
  /-- The own host ends at a backslash, a question mark or a hash. -/
  | mark {mark : UInt8} {own shown : Text} (hmark : endsAuthority mark = true)
      (hslash : mark ≠ slash) (hown : HostText own) (hshown : HostText shown)
      (hgithub : isGithubHost shown = true)
      (hfits : (own ++ mark :: atSign :: shown).length < hostSize) :
      Misread (link (own ++ mark :: atSign :: shown)) own
  /-- The own host stands behind a second at sign. -/
  | user {user shown password own : Text} (huser : HostText user) (hshown : HostText shown)
      (hpassword : HostText password) (hown : HostText own) (hgithub : isGithubHost shown = true)
      (hfits : (user ++ atSign :: (shown ++ colon :: (password ++ atSign :: own))).length <
        hostSize) (path : Text) :
      Misread (link (user ++ atSign :: (shown ++ colon :: (password ++ atSign :: own)) ++
        slash :: path)) own
  /-- The own host is longer than the buffer. -/
  | long {shown own : Text} (hlength : shown.length = hostSize - 1)
      (hhost : HostText (shown ++ own))
      (hgithub : isGithubHost shown = true) : Misread (link (shown ++ own)) (shown ++ own)

/-- A plain link is accepted only if its host is one of GitHub, and a link that is misread is
accepted whatever its host is. -/
theorem opensGithub (url : Text) : (PlainLink url → OpensGithub url) ∧
    ∀ own, Misread url own → (OpensGithub url ↔ isGithubHost own = true) := by
  refine ⟨opensGithub_of_plain, fun own hmisread => ?_⟩
  cases hmisread with
  | mark hmark hslash hown hshown hgithub hfits =>
    exact opensGithub_mark_iff hmark hslash hown hshown hgithub hfits
  | user huser hshown hpassword hown hgithub hfits path =>
    exact opensGithub_user_iff huser hshown hpassword hown hgithub hfits path
  | long hlength hhost hgithub => exact opensGithub_long_iff hlength hhost hgithub

/-- A link to the releases. -/
def releasesLink : Text := link (ascii "github.com/Confetti3/SF4-Netplay-Launcher/releases")

theorem opensGithub_releases : OpensGithub releasesLink := by
  have hbefore : before slash (releasesLink.drop 8) = ascii "github.com" := by decide
  have hends : (ascii "github.com").all (fun b => endsAuthority b == false) = true := by decide
  refine (opensGithub releasesLink).1 ⟨?_, ?_, .inl (by decide)⟩
  · rw [hbefore]
    exact fun b hb => beq_iff_eq.1 (List.all_eq_true.1 hends b hb)
  · rw [hbefore]
    decide

/-- A question mark hides the host from the launcher. -/
theorem not_opensGithub_question :
    ¬ OpensGithub (link (ascii "evil.example?@github.com")) := by
  intro h
  exact absurd (h (by decide)) (by decide)

end Launcher
end Sf4e
