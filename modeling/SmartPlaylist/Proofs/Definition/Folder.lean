import Mathlib.Data.List.Nodup
import Mathlib.Data.List.TakeWhile
import SmartPlaylist.Definition.Folder

/-!
# What a folder holds

The definition files of a folder are the files whose names end in one of the known extensions, with
something before it.  Each is read once, by itself, and they come in the order of their paths.

## Main definitions

* `Folder.IsDefinitionName` — the names of definition files.
* `Folder.Holds` — what is read from the entries of a folder.

## Main results

* `fileExtension?_eq_some_iff` — the extension stands behind the last point.
* `Folder.mem_load` — **a folder is read as what it holds.**
* `Folder.pairwise_load`, `Folder.pairwise_lt_load` — the files come in order, and none comes twice.
-/

namespace SmartPlaylist

/-! ### Extensions -/

/-- The last point parts a name into what is before it and the extension. -/
theorem reverse_parted (stem : List Char) {ext : List Char} (h : '.' ∉ ext) :
    (stem ++ '.' :: ext).reverse.takeWhile (· ≠ '.') = ext.reverse ∧
      (stem ++ '.' :: ext).reverse.dropWhile (· ≠ '.') = '.' :: stem.reverse := by
  have hreverse : (stem ++ '.' :: ext).reverse = ext.reverse ++ '.' :: stem.reverse := by simp
  have hall : ∀ c ∈ ext.reverse, decide (c ≠ '.') = true := by
    intro c hc
    refine decide_eq_true fun hpoint => h ?_
    rwa [← hpoint, ← List.mem_reverse]
  rw [hreverse, List.takeWhile_append_of_pos hall, List.dropWhile_append_of_pos hall]
  simp

/-- A name with a point is parted by its last one. -/
theorem exists_parted {cs before : List Char} {c : Char}
    (h : cs.reverse.dropWhile (· ≠ '.') = c :: before) :
    cs = before.reverse ++ '.' :: (cs.reverse.takeWhile (· ≠ '.')).reverse ∧
      '.' ∉ (cs.reverse.takeWhile (· ≠ '.')).reverse := by
  have hsplit := List.takeWhile_append_dropWhile (p := (· ≠ '.')) (l := cs.reverse)
  have hfirst := List.head?_dropWhile_not (· ≠ '.') cs.reverse
  rw [h] at hsplit hfirst
  obtain rfl : c = '.' := by simpa using hfirst
  refine ⟨?_, fun hmem => ?_⟩
  · generalize cs.reverse.takeWhile (· ≠ '.') = after at hsplit ⊢
    rw [← List.reverse_reverse cs, ← hsplit]
    simp
  · have hnot := List.mem_takeWhile_imp (List.mem_reverse.mp hmem)
    simp at hnot

/-- **The extension stands behind the last point** of a path's last component, and something before
that. -/
theorem fileExtension?_eq_some_iff {path ext : String} :
    fileExtension? path = some ext ↔ ∃ stem, stem ≠ "" ∧ '.' ∉ ext.toList ∧
      stem ++ "." ++ ext ≠ ".." ∧ (pathComponents path).getLast? = some (stem ++ "." ++ ext) := by
  unfold fileExtension?
  cases (pathComponents path).getLast? with
  | none => simp
  | some name =>
    dsimp only
    by_cases hup : name = ".."
    · rw [if_pos hup, hup]
      refine iff_of_false nofun ?_
      rintro ⟨stem, -, -, hne, hname⟩
      exact hne (Option.some.inj hname).symm
    · rw [if_neg hup]
      constructor
      · intro h
        split at h
        · nomatch h
        · nomatch h
        next hnone hfirst =>
          obtain rfl := Option.some.inj h
          obtain ⟨c, before, hdrop⟩ := List.exists_cons_of_ne_nil hnone
          obtain ⟨hname, hext⟩ := exists_parted hdrop
          have hbefore : before ≠ [] := fun hnil => hfirst c (hnil ▸ hdrop)
          have hparted : name = String.ofList before.reverse ++ "." ++
              String.ofList (name.toList.reverse.takeWhile (· ≠ '.')).reverse := by
            apply String.toList_inj.mp
            simp only [String.toList_append, String.toList_ofList, List.append_assoc]
            exact hname
          exact ⟨String.ofList before.reverse, by simpa using hbefore,
            by rwa [String.toList_ofList], fun heq => hup (hparted.trans heq),
            congrArg some hparted⟩
      · rintro ⟨stem, hstem, hext, -, hname⟩
        obtain rfl := Option.some.inj hname
        have hchars : (stem ++ "." ++ ext).toList = stem.toList ++ '.' :: ext.toList := by simp
        obtain ⟨htake, hdrop⟩ := reverse_parted stem.toList hext
        rw [hchars, htake, hdrop]
        cases hreverse : stem.toList.reverse with
        | nil => exact absurd (by simpa using hreverse) hstem
        | cons c before =>
          dsimp only
          rw [List.reverse_reverse, String.ofList_toList]

/-- The name of an entry. -/
def FolderEntry.name : FolderEntry → String
  | file name _ => name
  | other name => name

namespace Folder

variable {directory name : String} {entries : List FolderEntry} {text : Option String}
  {file : String × Except DefinitionError Definition}

/-- The name of a definition file: one of the extensions stands behind a point, and something before
that. -/
def IsDefinitionName (name : String) : Prop :=
  ∃ stem ext, stem ≠ "" ∧ ext ∈ ["yaml", "yml", "toml", "json"] ∧
    (pathComponents name).getLast? = some (stem ++ "." ++ ext)

/-- The names of definition files are told by their extensions. -/
theorem any_extensions_iff :
    (fileExtension? name).any extensions.contains = true ↔ IsDefinitionName name := by
  have hpoint : ∀ ext ∈ extensions, '.' ∉ ext.toList := by decide
  have hup : ∀ ext ∈ extensions, ∀ stem : String, stem ++ "." ++ ext ≠ ".." := by
    -- an extension alone is longer
    have hlength : ∀ ext ∈ extensions, 2 < ext.length := by decide
    intro ext hext stem heq
    have hshort := congrArg String.length heq
    have htwo : "..".length = 2 := rfl
    rw [String.length_append, htwo] at hshort
    have := hlength ext hext
    omega
  rw [Option.any_eq_true]
  constructor
  · rintro ⟨ext, hext, hknown⟩
    obtain ⟨stem, hstem, -, -, hname⟩ := fileExtension?_eq_some_iff.mp hext
    exact ⟨stem, ext, hstem, List.contains_iff_mem.mp hknown, hname⟩
  · rintro ⟨stem, ext, hstem, hknown, hname⟩
    exact ⟨ext, fileExtension?_eq_some_iff.mpr ⟨stem, hstem, hpoint ext hknown, hup ext hknown stem,
      hname⟩, List.contains_iff_mem.mpr hknown⟩

theorem definitionFile?_eq_some_iff {entry : FolderEntry} :
    definitionFile? entry = some (name, text) ↔
      entry = .file name text ∧ IsDefinitionName name := by
  cases entry with
  | other => simp [definitionFile?]
  | file name' text' =>
    rw [definitionFile?]
    split
    next hknown =>
      constructor
      · intro h
        obtain ⟨rfl, rfl⟩ := Prod.mk.inj (Option.some.inj h)
        exact ⟨rfl, any_extensions_iff.mp hknown⟩
      · rintro ⟨h, -⟩
        obtain ⟨rfl, rfl⟩ := FolderEntry.file.inj h
        rfl
    next hunknown =>
      refine iff_of_false nofun ?_
      rintro ⟨h, hname⟩
      obtain ⟨rfl, rfl⟩ := FolderEntry.file.inj h
      exact hunknown (any_extensions_iff.mpr hname)

/-! ### The files of a folder -/

/-- What is read from the entries of a folder: the definition in each definition file, or that it is
no text. -/
inductive Holds (directory : String) (entries : List FolderEntry) :
    String × Except DefinitionError Definition → Prop where
  | text {name text : String} (hentry : .file name (some text) ∈ entries)
      (hname : IsDefinitionName name) :
      Holds directory entries (Environment.joinPath directory name,
        Definition.ofText (Environment.joinPath directory name) text)
  | unreadable {name : String} (hentry : .file name none ∈ entries)
      (hname : IsDefinitionName name) :
      Holds directory entries (Environment.joinPath directory name,
        .error (.unreadable (Environment.joinPath directory name)))

theorem mem_definitionFiles :
    (name, text) ∈ definitionFiles entries ↔ .file name text ∈ entries ∧ IsDefinitionName name := by
  rw [definitionFiles, List.mem_mergeSort, List.mem_filterMap]
  constructor
  · rintro ⟨entry, hentry, h⟩
    obtain ⟨rfl, hname⟩ := definitionFile?_eq_some_iff.mp h
    exact ⟨hentry, hname⟩
  · rintro ⟨hentry, hname⟩
    exact ⟨_, hentry, definitionFile?_eq_some_iff.mpr ⟨rfl, hname⟩⟩

/-- **A folder is read as what it holds.** -/
theorem mem_load : file ∈ load directory entries ↔ Holds directory entries file := by
  rw [load, List.mem_map]
  constructor
  · rintro ⟨⟨name, text⟩, hmem, rfl⟩
    obtain ⟨hentry, hname⟩ := mem_definitionFiles.mp hmem
    cases text with
    | some text => exact .text hentry hname
    | none => exact .unreadable hentry hname
  · rintro (⟨hentry, hname⟩ | ⟨hentry, hname⟩)
    · exact ⟨_, mem_definitionFiles.mpr ⟨hentry, hname⟩, rfl⟩
    · exact ⟨_, mem_definitionFiles.mpr ⟨hentry, hname⟩, rfl⟩

/-! ### Their order -/

/-- Paths in one directory begin alike. -/
theorem exists_joinPath (directory : String) :
    ∃ base, ∀ name, Environment.joinPath directory name = base ++ name := by
  unfold Environment.joinPath
  split
  · exact ⟨directory, fun _ => rfl⟩
  · exact ⟨directory ++ "/", fun _ => rfl⟩

/-- Paths in one directory are in the order of the names. -/
theorem joinPath_lt_joinPath {a b : String} (h : a < b) :
    Environment.joinPath directory a < Environment.joinPath directory b := by
  obtain ⟨base, hbase⟩ := exists_joinPath directory
  have happend : (base ++ a).toList < (base ++ b).toList := by
    rw [String.toList_append, String.toList_append]
    exact List.append_left_lt h
  rw [hbase, hbase]
  exact happend

theorem joinPath_le_joinPath {a b : String} (h : a ≤ b) :
    Environment.joinPath directory a ≤ Environment.joinPath directory b := by
  by_cases heq : a = b
  · exact heq ▸ String.le_refl _
  · have hlt : a < b := String.not_le.mp fun hba => heq (String.le_antisymm h hba)
    exact String.not_lt.mp (String.lt_asymm (joinPath_lt_joinPath hlt))

theorem pairwise_definitionFiles (entries : List FolderEntry) :
    (definitionFiles entries).Pairwise fun a b => a.1 ≤ b.1 := by
  have hsorted : (definitionFiles entries).Pairwise fun a b => decide (a.1 ≤ b.1) = true := by
    refine List.pairwise_mergeSort (fun a b c hab hbc => ?_) (fun a b => ?_) _
    · simp only [decide_eq_true_eq] at *
      exact String.le_trans hab hbc
    · simpa only [Bool.or_eq_true, decide_eq_true_eq] using String.le_total _ _
  exact hsorted.imp of_decide_eq_true

/-- The files of a folder come in the order of their paths. -/
theorem pairwise_load (directory : String) (entries : List FolderEntry) :
    (load directory entries).Pairwise fun a b => a.1 ≤ b.1 :=
  List.pairwise_map.mpr ((pairwise_definitionFiles entries).imp joinPath_le_joinPath)

/-- Where the names are distinct, no file comes twice. -/
theorem pairwise_lt_load (directory : String) (hnames : (entries.map FolderEntry.name).Nodup) :
    (load directory entries).Pairwise fun a b => a.1 < b.1 := by
  have hentries : (entries.filterMap definitionFile?).Pairwise fun a b => a.1 ≠ b.1 := by
    refine (List.pairwise_map.mp hnames).filterMap definitionFile? ?_
    intro entry entry' hne a ha b hb
    obtain ⟨rfl, -⟩ := definitionFile?_eq_some_iff.mp ha
    obtain ⟨rfl, -⟩ := definitionFile?_eq_some_iff.mp hb
    exact hne
  have hfiles : (definitionFiles entries).Pairwise fun a b => a.1 ≠ b.1 :=
    ((List.mergeSort_perm _ _).pairwise_iff fun h => h.symm).mpr hentries
  refine List.pairwise_map.mpr (((pairwise_definitionFiles entries).and hfiles).imp ?_)
  intro a b ⟨hle, hne⟩
  exact joinPath_lt_joinPath (String.not_le.mp fun hba => hne (String.le_antisymm hle hba))

end Folder

end SmartPlaylist
