/-
# Directory listings

A directory with all that is below it, as the list of its entries in the order in which the file
system lists them.  The order of a listing is no property of the directory, and
`Listing.Reordered` says that two listings are of the same one.

`Listing.search` looks for a folder, depth first and in the order of the listing.  What it finds
is `Listing.Outermost`: no folder on the way passes the test.  Among the outermost folders the
order decides, and `Listing.front` is an order in which a given one comes first.
-/
import Mathlib.Data.List.Nodup
import Mathlib.Data.List.Perm.Basic

universe u v

/-- The entries of a directory, with names in `ν` and files in `β`. -/
inductive Listing (ν : Type u) (β : Type v)
  | nil
  | file (name : ν) (content : β) (rest : Listing ν β)
  | folder (name : ν) (inside rest : Listing ν β)
deriving DecidableEq, Repr

namespace Listing

variable {ν : Type u} {β : Type v}

/-! ## What is below a directory -/

/-- The names of the entries. -/
def names : Listing ν β → List ν
  | .nil => []
  | .file name _ rest => name :: rest.names
  | .folder name _ rest => name :: rest.names

/-- No name is listed twice. -/
def WellFormed : Listing ν β → Prop
  | .nil => True
  | .file name _ rest => name ∉ rest.names ∧ rest.WellFormed
  | .folder name inside rest => name ∉ rest.names ∧ inside.WellFormed ∧ rest.WellFormed

/-- Whether no name is listed twice. -/
def decideWellFormed [DecidableEq ν] : ∀ l : Listing ν β, Decidable l.WellFormed
  | .nil => .isTrue trivial
  | .file name _ rest =>
    have : Decidable rest.WellFormed := decideWellFormed rest
    inferInstanceAs (Decidable (name ∉ rest.names ∧ rest.WellFormed))
  | .folder name inside rest =>
    have : Decidable rest.WellFormed := decideWellFormed rest
    have : Decidable inside.WellFormed := decideWellFormed inside
    inferInstanceAs (Decidable (name ∉ rest.names ∧ inside.WellFormed ∧ rest.WellFormed))

instance [DecidableEq ν] : DecidablePred (WellFormed (ν := ν) (β := β)) := decideWellFormed

/-- All files, with their paths. -/
def files : Listing ν β → List (List ν × β)
  | .nil => []
  | .file name content rest => ([name], content) :: rest.files
  | .folder name inside rest => inside.files.map (fun x => (name :: x.1, x.2)) ++ rest.files

/-- The paths of all folders. -/
def folders : Listing ν β → List (List ν)
  | .nil => []
  | .file _ _ rest => rest.folders
  | .folder name inside rest => [name] :: inside.folders.map (name :: ·) ++ rest.folders

/-- There is a file or a folder with this path. -/
def Has (l : Listing ν β) (path : List ν) : Prop :=
  path ∈ l.folders ∨ path ∈ l.files.map Prod.fst

instance [DecidableEq ν] (l : Listing ν β) (path : List ν) : Decidable (l.Has path) :=
  inferInstanceAs (Decidable (_ ∨ _))

lemma path_ne_nil {l : Listing ν β} {x : List ν × β} (h : x ∈ l.files) : x.1 ≠ [] := by
  induction l with
  | nil => cases h
  | file name content rest ih =>
    rcases List.mem_cons.1 h with rfl | h
    · exact List.cons_ne_nil _ _
    · exact ih h
  | folder name inside rest _ ih =>
    rcases List.mem_append.1 h with h | h
    · obtain ⟨y, -, rfl⟩ := List.mem_map.1 h
      exact List.cons_ne_nil _ _
    · exact ih h

/-- A path begins with the name of an entry. -/
lemma mem_names_of_mem_files {l : Listing ν β} {n : ν} {p : List ν} {b : β}
    (h : (n :: p, b) ∈ l.files) : n ∈ l.names := by
  induction l with
  | nil => cases h
  | file name content rest ih =>
    rcases List.mem_cons.1 h with heq | h
    · have hname : n :: p = [name] := congrArg Prod.fst heq
      rw [(List.cons.inj hname).1]
      exact List.mem_cons_self
    · exact List.mem_cons_of_mem _ (ih h)
  | folder name inside rest _ ih =>
    rcases List.mem_append.1 h with h | h
    · obtain ⟨y, -, heq⟩ := List.mem_map.1 h
      have hname : name :: y.1 = n :: p := congrArg Prod.fst heq
      rw [← (List.cons.inj hname).1]
      exact List.mem_cons_self
    · exact List.mem_cons_of_mem _ (ih h)

/-! ## Folders -/

section

variable [DecidableEq ν]

/-- The folder with this name. -/
def subfolder? : Listing ν β → ν → Option (Listing ν β)
  | .nil, _ => none
  | .file _ _ rest, n => rest.subfolder? n
  | .folder name inside rest, n => if name = n then some inside else rest.subfolder? n

/-- The folder with this path. -/
def folder? : Listing ν β → List ν → Option (Listing ν β)
  | l, [] => some l
  | l, n :: path => (l.subfolder? n).bind fun inside => inside.folder? path

lemma mem_names_of_subfolder? {l inside : Listing ν β} {n : ν}
    (h : l.subfolder? n = some inside) : n ∈ l.names := by
  induction l with
  | nil => cases h
  | file name content rest ih => exact List.mem_cons_of_mem _ (ih h)
  | folder name inside' rest _ ih =>
    rw [subfolder?] at h
    split at h
    · rename_i heq
      rw [← heq]
      exact List.mem_cons_self
    · exact List.mem_cons_of_mem _ (ih h)

lemma WellFormed.subfolder? {l inside : Listing ν β} {n : ν} (hwf : l.WellFormed)
    (h : l.subfolder? n = some inside) : inside.WellFormed := by
  induction l with
  | nil => cases h
  | file name content rest ih => exact ih hwf.2 h
  | folder name inside' rest _ ih =>
    rw [Listing.subfolder?] at h
    split at h
    · obtain rfl := Option.some.inj h
      exact hwf.2.1
    · exact ih hwf.2.2 h

/-- The files below a folder are those with a path through it. -/
lemma mem_files_subfolder? {l inside : Listing ν β} {n : ν} (hwf : l.WellFormed)
    (h : l.subfolder? n = some inside) {p : List ν} {b : β} :
    (p, b) ∈ inside.files ↔ (n :: p, b) ∈ l.files := by
  induction l with
  | nil => cases h
  | file name content rest ih =>
    have hne : n ≠ name := by
      rintro rfl
      exact hwf.1 (mem_names_of_subfolder? h)
    rw [ih hwf.2 h, files, List.mem_cons]
    constructor
    · exact .inr
    · rintro (heq | hrest)
      · exact absurd (List.cons.inj (congrArg Prod.fst heq)).1 hne
      · exact hrest
  | folder name inside' rest _ ih =>
    rw [Listing.subfolder?] at h
    rw [files, List.mem_append, List.mem_map]
    split at h
    · rename_i heq
      obtain rfl := Option.some.inj h
      subst heq
      constructor
      · intro hmem
        exact .inl ⟨(p, b), hmem, rfl⟩
      · rintro (⟨⟨p', b'⟩, hmem, heq⟩ | hrest)
        · obtain ⟨hpath, rfl⟩ := Prod.mk.inj heq
          rw [← (List.cons.inj hpath).2]
          exact hmem
        · exact absurd (mem_names_of_mem_files hrest) hwf.1
    · rename_i hne
      rw [ih hwf.2.2 h]
      constructor
      · exact .inr
      · rintro (⟨y, -, heq⟩ | hrest)
        · exact absurd (List.cons.inj (congrArg Prod.fst heq)).1 hne
        · exact hrest

/-- So it is along a path. -/
lemma mem_files_folder? {l inside : Listing ν β} {path : List ν} (hwf : l.WellFormed)
    (h : l.folder? path = some inside) {p : List ν} {b : β} :
    (p, b) ∈ inside.files ↔ (path ++ p, b) ∈ l.files := by
  induction path generalizing l with
  | nil =>
    obtain rfl := Option.some.inj h
    rfl
  | cons n path ih =>
    obtain ⟨i, hi, hrest⟩ := Option.bind_eq_some_iff.1 h
    rw [ih (hwf.subfolder? hi) hrest, mem_files_subfolder? hwf hi]
    rfl

/-! ## Searching -/

variable {enter : List ν → Bool} {test : List ν → Listing ν β → Bool}

/-- One folder of a search: if it is entered and does not pass the test, the search goes on
below. -/
def visit (enter : List ν → Bool) (test : List ν → Listing ν β → Bool) (here : List ν)
    (l : Listing ν β) (below : Option (List ν)) : Option (List ν) :=
  if enter here then if test here l then some here else below else none

/-- The first of the folders of a directory in which the search finds something. -/
def searchBelow (enter : List ν → Bool) (test : List ν → Listing ν β → Bool) :
    List ν → Listing ν β → Option (List ν)
  | _, .nil => none
  | here, .file _ _ rest => searchBelow enter test here rest
  | here, .folder name inside rest =>
    (visit enter test (here ++ [name]) inside
      (searchBelow enter test (here ++ [name]) inside)).or (searchBelow enter test here rest)

/-- The first folder that passes the test, depth first. -/
def search (enter : List ν → Bool) (test : List ν → Listing ν β → Bool) (here : List ν)
    (l : Listing ν β) : Option (List ν) :=
  visit enter test here l (searchBelow enter test here l)

/-- The folder `found` at the path passes the test, and none does on the way to it. -/
inductive Outermost (enter : List ν → Bool) (test : List ν → Listing ν β → Bool)
    (found : Listing ν β) : List ν → Listing ν β → List ν → Prop
  | here {here : List ν} (henter : enter here = true) (htest : test here found = true) :
      Outermost enter test found here found []
  | deeper {here path : List ν} {l inside : Listing ν β} {name : ν} (henter : enter here = true)
      (htest : test here l = false) (hsub : l.subfolder? name = some inside)
      (hbelow : Outermost enter test found (here ++ [name]) inside path) :
      Outermost enter test found here l (name :: path)

lemma Outermost.folder? {l found : Listing ν β} {here path : List ν}
    (h : Outermost enter test found here l path) : l.folder? path = some found := by
  induction h with
  | here => rfl
  | deeper _ _ hsub _ ih => rw [Listing.folder?, hsub, Option.bind_some, ih]

/-- **What a search finds** is outermost. -/
theorem outermost_of_search {l : Listing ν β} {here path : List ν} (hwf : l.WellFormed)
    (h : search enter test here l = some path) :
    ∃ below found, path = here ++ below ∧ Outermost enter test found here l below := by
  -- below a directory that is entered and does not pass, in any of the entries
  have hbelow : ∀ {rest : Listing ν β} {here}, rest.WellFormed →
      searchBelow enter test here rest = some path →
        ∃ name below found inside, path = here ++ name :: below ∧
          rest.subfolder? name = some inside ∧
          Outermost enter test found (here ++ [name]) inside below := by
    intro rest
    induction rest with
    | nil => intro here _ h; cases h
    | file name content rest ih =>
      intro here hwf h
      obtain ⟨n, below, found, inside, rfl, hsub, hout⟩ := ih hwf.2 h
      exact ⟨n, below, found, inside, rfl, hsub, hout⟩
    | folder name inside rest ihin ih =>
      intro here hwf h
      rw [searchBelow, visit] at h
      rcases Option.or_eq_some_iff.1 h with hfirst | ⟨-, hrest⟩
      · split at hfirst
        · rename_i henter
          split at hfirst
          · rename_i htest
            obtain rfl := Option.some.inj hfirst
            exact ⟨name, [], inside, inside, by simp, by simp [subfolder?], .here henter htest⟩
          · rename_i htest
            obtain ⟨n, below, found, i, rfl, hsub, hout⟩ := ihin hwf.2.1 hfirst
            exact ⟨name, n :: below, found, inside, by simp, by simp [subfolder?],
              .deeper henter (by simpa using htest) hsub hout⟩
        · cases hfirst
      · obtain ⟨n, below, found, i, rfl, hsub, hout⟩ := ih hwf.2.2 hrest
        have hne : name ≠ n := by
          rintro rfl
          exact hwf.1 (mem_names_of_subfolder? hsub)
        exact ⟨n, below, found, i, rfl, by rw [subfolder?, if_neg hne, hsub], hout⟩
  rw [search, visit] at h
  split at h
  · rename_i henter
    split at h
    · rename_i htest
      obtain rfl := Option.some.inj h
      exact ⟨[], l, by simp, .here henter htest⟩
    · rename_i htest
      obtain ⟨n, below, found, inside, hpath, hsub, hout⟩ := hbelow hwf h
      exact ⟨n :: below, found, hpath, .deeper henter (by simpa using htest) hsub hout⟩
  · cases h

/-! ## Orders -/

omit [DecidableEq ν] in
/-- Two listings of the same directory. -/
structure Reordered (l l' : Listing ν β) : Prop where
  names : l'.names.Perm l.names
  files : l'.files.Perm l.files
  folders : l'.folders.Perm l.folders
  wellFormed : l.WellFormed → l'.WellFormed

namespace Reordered

variable {l l' l'' inside inside' rest : Listing ν β}

omit [DecidableEq ν]

lemma refl (l : Listing ν β) : Reordered l l := ⟨.refl _, .refl _, .refl _, id⟩

lemma trans (h : Reordered l l') (h' : Reordered l' l'') : Reordered l l'' where
  names := h'.names.trans h.names
  files := h'.files.trans h.files
  folders := h'.folders.trans h.folders
  wellFormed := h'.wellFormed ∘ h.wellFormed

lemma mem_files (h : Reordered l l') (x : List ν × β) : x ∈ l'.files ↔ x ∈ l.files :=
  h.files.mem_iff

lemma has (h : Reordered l l') (path : List ν) : l'.Has path ↔ l.Has path := by
  rw [Has, Has, h.folders.mem_iff, (h.files.map Prod.fst).mem_iff]

/-- An entry in front of the others. -/
lemma file (name : ν) (content : β) (h : Reordered l l') :
    Reordered (.file name content l) (.file name content l') where
  names := h.names.cons _
  files := h.files.cons _
  folders := h.folders
  wellFormed hwf := ⟨fun hin => hwf.1 (h.names.mem_iff.1 hin), h.wellFormed hwf.2⟩

lemma folder (name : ν) (h : Reordered inside inside') (hrest : Reordered l l') :
    Reordered (.folder name inside l) (.folder name inside' l') where
  names := hrest.names.cons _
  files := (h.files.map _).append hrest.files
  folders := ((h.folders.map _).append hrest.folders).cons _
  wellFormed hwf := ⟨fun hin => hwf.1 (hrest.names.mem_iff.1 hin), h.wellFormed hwf.2.1,
    hrest.wellFormed hwf.2.2⟩

/-- A folder changes places with the entry before it. -/
lemma swap_file (m n : ν) (b : β) (inside rest : Listing ν β) :
    Reordered (.file m b (.folder n inside rest)) (.folder n inside (.file m b rest)) where
  names := .swap _ _ _
  files := List.perm_middle
  folders := .refl _
  wellFormed := by
    rintro ⟨hm, hn, hin, hrest⟩
    obtain ⟨hne, hm⟩ := not_or.1 (mt List.mem_cons.2 hm)
    exact ⟨mt List.mem_cons.1 (not_or.2 ⟨Ne.symm hne, hn⟩), hin, hm, hrest⟩

lemma swap_folder (m n : ν) (i inside rest : Listing ν β) :
    Reordered (.folder m i (.folder n inside rest)) (.folder n inside (.folder m i rest)) where
  names := .swap _ _ _
  files := by
    simp only [Listing.files]
    exact List.perm_append_comm_assoc _ _ _
  folders := by
    simp only [Listing.folders]
    exact List.perm_append_comm_assoc ([n] :: _) ([m] :: _) _
  wellFormed := by
    rintro ⟨hm, hi, hn, hin, hrest⟩
    obtain ⟨hne, hm⟩ := not_or.1 (mt List.mem_cons.2 hm)
    exact ⟨mt List.mem_cons.1 (not_or.2 ⟨Ne.symm hne, hn⟩), hin, hm, hi, hrest⟩

end Reordered

/-- The entries but for a folder. -/
def without : Listing ν β → ν → Listing ν β
  | .nil, _ => .nil
  | .file m b rest, n => .file m b (rest.without n)
  | .folder m inside rest, n => if m = n then rest else .folder m inside (rest.without n)

/-- The listing with a folder, and the folders on the way to it, in front. -/
def front : Listing ν β → List ν → Listing ν β
  | l, [] => l
  | l, n :: path =>
    (l.subfolder? n).elim l fun inside => .folder n (inside.front path) (l.without n)

lemma reordered_without {l inside : Listing ν β} {n : ν} (h : l.subfolder? n = some inside) :
    Reordered l (.folder n inside (l.without n)) := by
  induction l with
  | nil => cases h
  | file m b rest ih => exact ((ih h).file m b).trans (.swap_file m n b inside _)
  | folder m i rest _ ih =>
    rw [subfolder?] at h
    rw [without]
    split at h
    · rename_i heq
      obtain rfl := Option.some.inj h
      rw [if_pos heq, heq]
      exact .refl _
    · rename_i hne
      rw [if_neg hne]
      exact ((Reordered.refl i).folder m (ih h)).trans (.swap_folder m n i inside _)

lemma reordered_front (l : Listing ν β) (path : List ν) : Reordered l (l.front path) := by
  induction path generalizing l with
  | nil => exact .refl l
  | cons n path ih =>
    rw [front]
    cases h : l.subfolder? n with
    | none => exact .refl l
    | some inside =>
      exact (reordered_without h).trans ((ih inside).folder n (.refl _))

/-- An outermost folder is outermost in every order, and it is found when it is in front. -/
lemma Outermost.front {l found : Listing ν β} {here path : List ν}
    (h : Outermost enter test found here l path)
    (htest : ∀ here l l', Reordered l l' → test here l' = test here l) :
    Outermost enter test found here (l.front path) path ∧
      search enter test here (l.front path) = some (here ++ path) := by
  induction h with
  | here henter hpass =>
    refine ⟨.here henter hpass, ?_⟩
    rw [Listing.front, search, visit, if_pos henter, if_pos hpass, List.append_nil]
  | @deeper here path l inside name henter hfail hsub _ ih =>
    obtain ⟨hout, hfound⟩ := ih
    have hfail' : test here (l.front (name :: path)) = false := by
      rw [htest _ _ _ (reordered_front l _), hfail]
    have hfront : l.front (name :: path) =
        .folder name (inside.front path) (l.without name) := by
      rw [Listing.front, hsub, Option.elim_some]
    refine ⟨.deeper henter hfail' ?_ hout, ?_⟩
    · rw [hfront, subfolder?, if_pos rfl]
    · rw [search, visit, if_pos henter, hfail', if_neg Bool.false_ne_true, hfront, searchBelow]
      rw [search] at hfound
      rw [hfound, Option.some_or, List.append_assoc]
      rfl

end

end Listing
