import CompilerCommands.Proofs.Host.Lookup
import CompilerCommands.Proofs.Path.Joining

/-!
# What a shell finds

A shell in a directory sees names with a slash and the entries of the search path from there. A
driver's program is found as by a shell if it is called by a path of several components. For any
other name the current directory takes the place of the shell's, so that what is found depends on
where both are the same, see the same, or do not matter.
-/

namespace CompilerCommands.Host

variable {host : Host} {executable name searchPath : String} {dir base : Path}
  {changes : Environment}

/-! ## Shells -/

/-- The places in which a shell in the directory `base` looks for `name`, in order. A name with a
slash is a path from there. Any other one stands in the directories of the search path, which are
seen from there as well. -/
def shellPlaces (base : Path) (name searchPath : String) : List Path :=
  if hasSlash name then [base.locate name]
  else (searchDirs searchPath).map fun entry => (base.join (Path.ofString entry)).locate name

def shellFinds? (host : Host) (base : Path) (name searchPath : String) : Option Path :=
  (shellPlaces base name searchPath).find? host.isExecutable

theorem shellFinds?_of_hasSlash (h : hasSlash name = true) : host.shellFinds? base name searchPath =
    if host.isExecutable (base.locate name) then some (base.locate name) else none := by
  rw [shellFinds?, shellPlaces, if_pos h, List.find?_singleton]

theorem map_locate_spellings (base : Path) (name searchPath : String) :
    (spellings name searchPath).map base.locate = shellPlaces base name searchPath := by
  unfold spellings shellPlaces
  split
  · rfl
  · rw [List.map_map]
    refine List.map_congr_left fun entry _ => ?_
    rw [Function.comp_apply, Path.locate, Path.ofString_joinText, ← Path.join_assoc, ← Path.locate]

/-- A process is started as by a shell in its directory. -/
theorem resolve?_eq_shellFinds? (host : Host) (name : String) (dir : Path) (env : Environment) :
    host.resolve? name dir env =
      host.shellFinds? (host.cwd.join dir) name ((env.get? "PATH").getD defaultSearchPath) := by
  rw [shellFinds?, ← map_locate_spellings]
  rfl

theorem shellPlaces_congr (h : dir.normalize = base.normalize) (name searchPath : String) :
    shellPlaces dir name searchPath = shellPlaces base name searchPath := by
  have hlocate : ∀ p : Path, (dir.join p).normalize = (base.join p).normalize :=
    Path.normalize_join_congr h
  unfold shellPlaces
  split
  · rw [Path.locate, hlocate, ← Path.locate]
  · refine List.map_congr_left fun entry _ => ?_
    rw [Path.locate, Path.join_assoc, hlocate, ← Path.join_assoc, ← Path.locate]

theorem shellPlaces_of_absolute (hname : hasSlash name = false)
    (h : ∀ entry ∈ searchDirs searchPath, Text.begins "/" entry = true) (dir base : Path) :
    shellPlaces dir name searchPath = shellPlaces base name searchPath := by
  rw [shellPlaces, shellPlaces, if_neg (by simp [hname]), if_neg (by simp [hname])]
  refine List.map_congr_left fun entry hentry => ?_
  have habsolute := Path.isAbsolute_ofString_iff.2 (h entry hentry)
  rw [Path.join_of_absolute habsolute, Path.join_of_absolute habsolute]

theorem searchDirs_empty : searchDirs "" = [""] := by decide +kernel

theorem ne_empty_of_absolute (h : ∀ entry ∈ searchDirs searchPath, Text.begins "/" entry = true) :
    searchPath ≠ "" := by
  rintro rfl
  have hnone : Text.begins "/" "" = false := by decide +kernel
  rw [searchDirs_empty] at h
  rw [h "" (List.mem_singleton_self _)] at hnone
  cases hnone

theorem shellFinds?_empty (h : hasSlash name = false) : host.shellFinds? base name "" =
    if host.isExecutable (base.locate name) then some (base.locate name) else none := by
  have hplaces : shellPlaces base name "" = [base.locate name] := by
    have hhere : base.join (Path.ofString "") = base := by
      have hnothing : Path.ofString "" = ⟨.relative, []⟩ := by decide +kernel
      simp [hnothing, Path.join, Path.isAbsolute]
    rw [shellPlaces, if_neg (by simp [h]), searchDirs_empty, List.map_singleton, hhere]
  rw [shellFinds?, hplaces, List.find?_singleton]

/-- As a shell, but an empty search path is not searched. -/
def finds? (host : Host) (base : Path) (name searchPath : String) : Option Path :=
  if hasSlash name = false ∧ searchPath = "" then none
  else host.shellFinds? base name searchPath

theorem finds?_of_hasSlash (h : hasSlash name = true) (host : Host) (base : Path)
    (searchPath : String) :
    host.finds? base name searchPath = host.shellFinds? base name searchPath := by
  rw [finds?, if_neg (by simp [h])]

theorem finds?_of_ne (h : searchPath ≠ "") (host : Host) (base : Path) (name : String) :
    host.finds? base name searchPath = host.shellFinds? base name searchPath := by
  rw [finds?, if_neg (by simp [h])]

/-! ## The file that is found -/

def foundPlace? (host : Host) (executable : String) (dir : Path) (changes : Environment) :
    Option Path :=
  (host.findExecutable? executable dir changes).map fun program => host.cwd.locate program.toString

/-- The directory from which a name is looked up: that of the call for a path of several components,
and else the current one. -/
def lookupBase (host : Host) (dir : Path) (executable : String) : Path :=
  if 1 < (Path.ofString executable).parts.length then dir else host.cwd

theorem spelling_ne_empty {spelling : String} (hne : name ≠ "")
    (h : spelling ∈ spellings name searchPath) : spelling ≠ "" := by
  unfold spellings at h
  split at h
  · rw [List.mem_singleton.1 h]
    exact hne
  · obtain ⟨entry, -, rfl⟩ := List.mem_map.1 h
    unfold joinText
    split
    · exact hne
    · split <;> simp [hne]

theorem nameFrom_ne_empty (hne : executable ≠ "") (dir : Path) : nameFrom dir executable ≠ "" := by
  unfold nameFrom
  simp only
  split
  · exact Path.toString_ne_empty _
  · exact hne

theorem search?_eq (host : Host) (name searchPath : String) :
    (host.search? name searchPath).map host.cwd.locate =
      host.finds? host.cwd name searchPath := by
  unfold search? finds?
  by_cases hnone : hasSlash name = false ∧ searchPath = ""
  · rw [if_pos hnone, if_pos (by simp [hnone])]
    rfl
  · have hsearched : ¬(searchPath.isEmpty && !hasSlash name) = true := by
      simpa [and_comm] using hnone
    rw [if_neg hnone, if_neg hsearched, shellFinds?, ← map_locate_spellings, List.find?_map]
    rfl

theorem foundPlace?_eq_finds? (hne : executable ≠ "") : host.foundPlace? executable dir changes =
    host.finds? host.cwd (nameFrom dir executable) (host.searchPathWith changes) := by
  rw [← search?_eq]
  simp only [foundPlace?, findExecutable?, searchPathWith]
  split
  · next hnone =>
    rw [hnone]
    rfl
  · next spelling hsearch =>
    have hspelling := spelling_ne_empty (nameFrom_ne_empty hne dir) (search?_eq_some hsearch).1
    simp only [String.isEmpty_iff, if_neg hspelling, hsearch, Option.map_some,
      Path.locate_toString_ofString]

theorem hasSlash_of_several (h : 1 < (Path.ofString executable).parts.length) :
    hasSlash executable = true := by
  rw [hasSlash, List.contains_iff_mem]
  refine Decidable.byContradiction fun hnone => ?_
  exact absurd h (Nat.not_lt.2 (Path.length_parts_ofString_le hnone))

theorem nameFrom_of_relative (habsolute : (Path.ofString executable).isAbsolute = false)
    (h : 1 < (Path.ofString executable).parts.length) (dir : Path) :
    nameFrom dir executable = (dir.join (Path.ofString executable)).toString := by
  rw [nameFrom, if_pos (by simp [habsolute, h])]

theorem nameFrom_of_not (h : (Path.ofString executable).isAbsolute = true ∨
    ¬1 < (Path.ofString executable).parts.length) (dir : Path) :
    nameFrom dir executable = executable := by
  have hnot : ¬(!(Path.ofString executable).isAbsolute &&
      decide ((Path.ofString executable).parts.length > 1)) = true := by
    rcases h with h | h <;> simp [h]
  rw [nameFrom]
  simp only [if_neg hnot]

/-- What is found is what a shell finds, but for an empty search path and for the directory that the
name is looked up from. -/
theorem foundPlace?_eq (host : Host) (changes : Environment) (hne : executable ≠ "")
    (hdir : dir.isAbsolute = true) (hread : dir.Readable) :
    host.foundPlace? executable dir changes =
      host.finds? (host.lookupBase dir executable) executable (host.searchPathWith changes) := by
  rw [foundPlace?_eq_finds? hne, lookupBase]
  by_cases hseveral : 1 < (Path.ofString executable).parts.length
  · have hslash := hasSlash_of_several hseveral
    rw [if_pos hseveral, finds?_of_hasSlash hslash, shellFinds?_of_hasSlash hslash]
    cases habsolute : (Path.ofString executable).isAbsolute with
    | true =>
      rw [nameFrom_of_not (.inl habsolute), finds?_of_hasSlash hslash,
        shellFinds?_of_hasSlash hslash, Path.locate_of_isAbsolute habsolute host.cwd dir]
    | false =>
      have hname := nameFrom_of_relative habsolute hseveral dir
      have hjoined : (dir.join (Path.ofString executable)).isAbsolute = true := by
        rw [Path.isAbsolute, Path.root_join_of_relative habsolute]
        exact hdir
      have hslash' : hasSlash (nameFrom dir executable) = true := by
        rw [hname]
        exact hasSlash_of_begins (Path.begins_toString_of_isAbsolute hjoined)
      have hplace : host.cwd.locate (nameFrom dir executable) = dir.locate executable := by
        have hreadable := Path.readable_join hread (Path.readable_ofString executable)
        rw [hname, Path.locate, Path.ofString_toString hreadable, Path.join_of_absolute hjoined,
          ← Path.locate]
      rw [finds?_of_hasSlash hslash', shellFinds?_of_hasSlash hslash', hplace]
  · rw [if_neg hseveral, nameFrom_of_not (.inr hseveral)]

/-! ## Agreement with a shell -/

/-- Why what is found for a name is what a shell in `dir` finds. -/
inductive SeenAlike (host : Host) (dir : Path) (executable searchPath : String) : Prop
  /-- It is the same path from everywhere. -/
  | absolute (h : (Path.ofString executable).isAbsolute = true)
  /-- It is looked up from `dir`. -/
  | several (h : 1 < (Path.ofString executable).parts.length)
  /-- It is the same place from the current directory as from `dir`. -/
  | here (hslash : hasSlash executable = true)
      (h : host.cwd.locate executable = dir.locate executable)
  /-- It is no program in either place. -/
  | nowhere (hslash : hasSlash executable = true)
      (hcwd : host.isExecutable (host.cwd.locate executable) = false)
      (hdir : host.isExecutable (dir.locate executable) = false)
  /-- It is not searched for, and not in `dir`. -/
  | unsearched (hslash : hasSlash executable = false) (hempty : searchPath = "")
      (hdir : host.isExecutable (dir.locate executable) = false)
  /-- The search from the current directory ends at the same file. -/
  | searched (hslash : hasSlash executable = false) (hne : searchPath ≠ "")
      (h : host.shellFinds? host.cwd executable searchPath =
        host.shellFinds? dir executable searchPath)

theorem seenAlike_iff (host : Host) (dir : Path) (executable searchPath : String) :
    host.finds? (host.lookupBase dir executable) executable searchPath =
        host.shellFinds? dir executable searchPath ↔
      host.SeenAlike dir executable searchPath := by
  constructor
  · intro h
    by_cases hseveral : 1 < (Path.ofString executable).parts.length
    · exact .several hseveral
    rw [lookupBase, if_neg hseveral] at h
    cases hslash : hasSlash executable with
    | true =>
      rw [finds?_of_hasSlash hslash, shellFinds?_of_hasSlash hslash,
        shellFinds?_of_hasSlash hslash] at h
      cases hcwd : host.isExecutable (host.cwd.locate executable) <;>
        cases hdir : host.isExecutable (dir.locate executable) <;>
        simp only [hcwd, hdir, Bool.false_eq_true, if_true, if_false] at h
      · exact .nowhere hslash hcwd hdir
      · cases h
      · cases h
      · exact .here hslash (Option.some.inj h)
    | false =>
      by_cases hempty : searchPath = ""
      · rw [finds?, if_pos ⟨hslash, hempty⟩, hempty, shellFinds?_empty hslash] at h
        refine .unsearched hslash hempty (Bool.eq_false_iff.2 fun hdir => ?_)
        rw [if_pos hdir] at h
        cases h
      · exact .searched hslash hempty (by rwa [finds?_of_ne hempty] at h)
  · intro h
    by_cases hseveral : 1 < (Path.ofString executable).parts.length
    · rw [lookupBase, if_pos hseveral, finds?_of_hasSlash (hasSlash_of_several hseveral)]
    rw [lookupBase, if_neg hseveral]
    cases h with
    | absolute h =>
      have hslash := hasSlash_of_begins (Path.isAbsolute_ofString_iff.1 h)
      rw [finds?_of_hasSlash hslash, shellFinds?_of_hasSlash hslash, shellFinds?_of_hasSlash hslash,
        Path.locate_of_isAbsolute h host.cwd dir]
    | several h => exact absurd h hseveral
    | here hslash h =>
      rw [finds?_of_hasSlash hslash, shellFinds?_of_hasSlash hslash, shellFinds?_of_hasSlash hslash,
        h]
    | nowhere hslash hcwd hdir =>
      rw [finds?_of_hasSlash hslash, shellFinds?_of_hasSlash hslash, shellFinds?_of_hasSlash hslash,
        if_neg (by simp [hcwd]), if_neg (by simp [hdir])]
    | unsearched hslash hempty hdir =>
      rw [finds?, if_pos ⟨hslash, hempty⟩, hempty, shellFinds?_empty hslash,
        if_neg (by simp [hdir])]
    | searched hslash hne h => rw [finds?_of_ne hne, h]

/-- What is found from an absolute directory is seen from the directory of `lookupBase`, and it is
what a shell in the given directory finds exactly in the cases of `SeenAlike`. An absolute path, a
path of several components and a mere name on a search path of absolute directories are always such
a case, and so is any name in the current directory, unless the search path is empty. -/
theorem foundPlace?_eq_shellFinds?_iff (host : Host) (executable directory : String)
    (changes : Environment) (hne : executable ≠ "")
    (hdir : (Path.ofString directory).isAbsolute = true) :
    host.foundPlace? executable (.ofString directory) changes =
      host.finds? (host.lookupBase (.ofString directory) executable) executable
        (host.searchPathWith changes) ∧
    (host.foundPlace? executable (.ofString directory) changes =
        host.shellFinds? (.ofString directory) executable (host.searchPathWith changes) ↔
      host.SeenAlike (.ofString directory) executable (host.searchPathWith changes)) ∧
    ((Path.ofString executable).isAbsolute = true ∨
      1 < (Path.ofString executable).parts.length ∨
      (hasSlash executable = false ∧ ∀ entry ∈ searchDirs (host.searchPathWith changes),
        Text.begins "/" entry = true) ∨
      ((Path.ofString directory).normalize = host.cwd.normalize ∧
        (hasSlash executable = true ∨ host.searchPathWith changes ≠ "")) →
      host.foundPlace? executable (.ofString directory) changes =
        host.shellFinds? (.ofString directory) executable (host.searchPathWith changes)) := by
  have hfound := foundPlace?_eq host changes hne hdir (Path.readable_ofString directory)
  have hiff := seenAlike_iff host (.ofString directory) executable (host.searchPathWith changes)
  rw [← hfound] at hiff
  refine ⟨hfound, hiff, fun hcase => hiff.2 ?_⟩
  rcases hcase with habsolute | hseveral | ⟨hslash, hentries⟩ | ⟨hplace, hsearch⟩
  · exact .absolute habsolute
  · exact .several hseveral
  · refine .searched hslash (ne_empty_of_absolute hentries) ?_
    rw [shellFinds?, shellPlaces_of_absolute hslash hentries host.cwd (.ofString directory),
      ← shellFinds?]
  · have hplaces := shellPlaces_congr hplace executable (host.searchPathWith changes)
    cases hslash : hasSlash executable with
    | true =>
      refine .here hslash ?_
      rw [shellPlaces, if_pos hslash, shellPlaces, if_pos hslash] at hplaces
      exact (List.singleton_inj.1 hplaces).symm
    | false =>
      refine .searched hslash (hsearch.resolve_left (by simp [hslash])) ?_
      rw [shellFinds?, ← hplaces, ← shellFinds?]

theorem foundPlace?_eq_shellFinds?_iff_mereName :
    twoClangs.host.foundPlace? "clang" (.ofString "/proj") {} = some (.ofString "/bin/clang") := by
  obtain ⟨-, -, hshell⟩ := foundPlace?_eq_shellFinds?_iff twoClangs.host "clang" "/proj" {}
    (by decide) (by decide +kernel)
  rw [hshell (.inr (.inr (.inl (by decide +kernel))))]
  decide +kernel

/-- A clang in the current directory and one in its `bin`, which the search path names. -/
def clangsHere : Host where
  cwd := .ofString "/work"
  env := { vars := [("PATH", "bin")] }
  files := [(.ofString "/work/clang", {}), (.ofString "/work/bin/clang", {})]

/-- From a directory with no programs, the ones of the current directory are found. -/
theorem foundPlace?_elsewhere :
    clangsHere.foundPlace? "./clang" (.ofString "/proj") {} = some (.ofString "/work/clang") ∧
    clangsHere.shellFinds? (.ofString "/proj") "./clang" "bin" = none ∧
    clangsHere.foundPlace? "clang" (.ofString "/proj") {} = some (.ofString "/work/bin/clang") ∧
    clangsHere.shellFinds? (.ofString "/proj") "clang" "bin" = none := by
  decide +kernel

end CompilerCommands.Host
