import CompilerCommands.Proofs.Discovery.Attempts
import CompilerCommands.Proofs.Path.Spelling

/-!
# The program that is found and the program that is started

A name is looked up from the current directory when a driver is found, and from the directory of the
process when it is started, by the text of the path that was found. Both are the same file if that
path is absolute. A relative one is looked up in another place, and one without a slash, which may
have been written with one, is searched for again.
-/

namespace CompilerCommands

namespace Host

variable {host : Host} {executable searchPath : String} {dir : Path} {changes : Environment}
  {program : Path}

/-! ## Finding -/

theorem search?_eq_some {name spelling : String}
    (h : host.search? name searchPath = some spelling) :
    spelling ∈ spellings name searchPath ∧ host.isExecutable (host.cwd.locate spelling) = true := by
  unfold search? at h
  split at h
  · cases h
  · have hspelling := List.find?_some h
    exact ⟨List.mem_of_find?_eq_some h, hspelling⟩

def searchPathWith (host : Host) (changes : Environment) : String :=
  ((host.env.override changes).get? "PATH").getD defaultSearchPath

theorem findExecutable?_eq_some (h : host.findExecutable? executable dir changes = some program) :
    ∃ spelling, host.search? (nameFrom dir executable) (host.searchPathWith changes) =
      some spelling ∧ program = Path.ofString spelling := by
  simp only [findExecutable?] at h
  split at h
  · cases h
  · next spelling hspelling =>
    split at h
    · cases h
    · cases h
      exact ⟨spelling, hspelling, rfl⟩

theorem isExecutable_of_findExecutable?
    (h : host.findExecutable? executable dir changes = some program) :
    host.isExecutable (host.cwd.locate program.toString) = true := by
  obtain ⟨spelling, hsearch, rfl⟩ := findExecutable?_eq_some h
  rw [Path.locate_toString_ofString]
  exact (search?_eq_some hsearch).2

theorem readable_of_findExecutable?
    (h : host.findExecutable? executable dir changes = some program) : program.Readable := by
  obtain ⟨spelling, -, rfl⟩ := findExecutable?_eq_some h
  exact Path.readable_ofString spelling

theorem hasSlash_of_begins {name : String} (h : Text.begins "/" name = true) :
    hasSlash name = true := by
  obtain ⟨rest, rfl⟩ := Text.begins_iff.1 h
  rw [hasSlash, List.contains_iff_mem, String.toList_append]
  exact List.mem_append_left _ (by decide)

theorem begins_joinText {entry name : String} (h : Text.begins "/" entry = true) :
    Text.begins "/" (joinText entry name) = true := by
  obtain ⟨rest, rfl⟩ := Text.begins_iff.1 h
  unfold joinText
  split
  · assumption
  · split
    · rw [String.append_assoc]
      exact Text.begins_append _ _
    · rw [String.append_assoc, String.append_assoc]
      exact Text.begins_append _ _

/-- A program is found by an absolute path if it is called by one, or by a path of several
components from an absolute directory, or by a mere name and all directories of the search path are
absolute. -/
theorem isAbsolute_of_findExecutable?
    (h : host.findExecutable? executable dir changes = some program)
    (hinput : (Path.ofString executable).isAbsolute = true ∨
      (1 < (Path.ofString executable).parts.length ∧ dir.isAbsolute = true) ∨
      (hasSlash executable = false ∧
        ∀ entry ∈ searchDirs (host.searchPathWith changes), Text.begins "/" entry = true)) :
    program.isAbsolute = true := by
  obtain ⟨spelling, hsearch, rfl⟩ := findExecutable?_eq_some h
  have hspelling := (search?_eq_some hsearch).1
  rw [Path.isAbsolute_ofString_iff]
  -- a name that begins with a slash is its own only spelling
  have hself : ∀ name, Text.begins "/" name = true →
      spelling ∈ spellings name (host.searchPathWith changes) →
      Text.begins "/" spelling = true := by
    intro name hname hmem
    rw [spellings, if_pos (hasSlash_of_begins hname), List.mem_singleton] at hmem
    rw [hmem]
    exact hname
  by_cases habs : (Path.ofString executable).isAbsolute = true
  · refine hself executable (Path.isAbsolute_ofString_iff.1 habs) ?_
    rwa [nameFrom, if_neg (by simp [habs])] at hspelling
  · obtain habs' | ⟨hparts, hdir⟩ | ⟨hslash, hentries⟩ := hinput
    · exact absurd habs' habs
    · refine hself _ ?_ hspelling
      rw [nameFrom, if_pos (by simp [habs, hparts])]
      refine Path.begins_toString_of_isAbsolute ?_
      rw [Path.isAbsolute, Path.root_join_of_relative (by simpa using habs)]
      exact hdir
    · have hmem : '/' ∉ executable.toList := by simpa [hasSlash] using hslash
      have hparts : ¬1 < (Path.ofString executable).parts.length :=
        Nat.not_lt.2 (Path.length_parts_ofString_le hmem)
      rw [nameFrom, if_neg (by simp [hparts]), spellings, if_neg (by simp [hslash])] at hspelling
      obtain ⟨entry, hentry, rfl⟩ := List.mem_map.1 hspelling
      exact begins_joinText (hentries entry hentry)

/-! ## Starting -/

/-- What a process in the directory `dir` is started from for the path `program` is the file that
`program` leads to from the current directory: the path is absolute; or it has a slash, and leads to
that file from `dir` as well; or it is a mere name, and that file is what `dir` sees in the first
directory of the search path that has a program of that name. -/
def Agrees (host : Host) (dir : Path) (searchPath : String) (program : Path) : Prop :=
  let place := host.cwd.locate program.toString
  program.isAbsolute = true ∨
    (1 < program.parts.length ∧ (host.cwd.join dir).locate program.toString = place) ∨
    (program.parts.length ≤ 1 ∧ ∃ entry, (searchDirs searchPath).find? (fun entry =>
        host.isExecutable ((host.cwd.join dir).locate (joinText entry program.toString))) =
          some entry ∧
      (host.cwd.join dir).locate (joinText entry program.toString) = place)

theorem resolve?_of_hasSlash {name : String} (h : hasSlash name = true) (env : Environment) :
    host.resolve? name dir env =
      if host.isExecutable ((host.cwd.join dir).locate name) then
        some ((host.cwd.join dir).locate name)
      else none := by
  simp only [resolve?, spellings, if_pos h, List.map_cons, List.map_nil, List.find?_singleton]

theorem resolve?_of_not_hasSlash {name : String} (h : hasSlash name = false) (env : Environment) :
    host.resolve? name dir env =
      ((searchDirs ((env.get? "PATH").getD defaultSearchPath)).find? fun entry =>
        host.isExecutable ((host.cwd.join dir).locate (joinText entry name))).map fun entry =>
          (host.cwd.join dir).locate (joinText entry name) := by
  have hname : ¬hasSlash name = true := by
    rw [h]
    decide
  simp only [resolve?, spellings, if_neg hname, List.map_map, List.find?_map]
  rfl

theorem hasSlash_toString_iff (h : program.Readable) :
    hasSlash program.toString = true ↔ program.isAbsolute = true ∨ 1 < program.parts.length := by
  rw [← Path.slash_mem_toString_iff h, hasSlash, List.contains_iff_mem]

theorem resolve?_eq_some_iff (h : host.findExecutable? executable dir changes = some program) :
    host.resolve? program.toString dir (host.env.override changes) =
        some (host.cwd.locate program.toString) ↔
      host.Agrees dir (host.searchPathWith changes) program := by
  have hreadable := readable_of_findExecutable? h
  have hplace := isExecutable_of_findExecutable? h
  have hslash := hasSlash_toString_iff hreadable
  by_cases hcase : hasSlash program.toString = true
  · rw [resolve?_of_hasSlash hcase]
    have hlocate : (if host.isExecutable ((host.cwd.join dir).locate program.toString) = true then
        some ((host.cwd.join dir).locate program.toString) else none) =
          some (host.cwd.locate program.toString) ↔
        (host.cwd.join dir).locate program.toString = host.cwd.locate program.toString := by
      constructor
      · intro hfound
        split at hfound
        · exact Option.some.inj hfound
        · cases hfound
      · intro hsame
        rw [hsame, if_pos hplace]
    rw [hlocate]
    constructor
    · intro hsame
      exact (hslash.1 hcase).imp_right fun hparts => .inl ⟨hparts, hsame⟩
    · rintro (habs | ⟨-, hsame⟩ | ⟨hparts, -⟩)
      · exact Path.locate_toString_of_isAbsolute hreadable habs _ _
      · exact hsame
      · obtain habs | hmore := hslash.1 hcase
        · exact Path.locate_toString_of_isAbsolute hreadable habs _ _
        · omega
  · have hname : ¬(program.isAbsolute = true ∨ 1 < program.parts.length) :=
      fun h => hcase (hslash.2 h)
    rw [not_or] at hname
    rw [resolve?_of_not_hasSlash (Bool.not_eq_true _ ▸ hcase), Option.map_eq_some_iff]
    constructor
    · intro hfound
      exact .inr (.inr ⟨by omega, hfound⟩)
    · rintro (habs | ⟨hparts, -⟩ | ⟨-, hfound⟩)
      · exact absurd habs hname.1
      · exact absurd hparts hname.2
      · exact hfound

/-! ## Starts -/

theorem startCount_countStart (host : Host) (place : Path) :
    (host.countStart place).startCount place = host.startCount place + 1 := by
  rw [startCount, countStart, List.lookup_cons_self, Option.getD_some]

theorem countStart_ne (host : Host) (place : Path) : host.countStart place ≠ host := by
  intro h
  have hcount := startCount_countStart host place
  rw [h] at hcount
  omega

theorem countStart_inj {place other : Path} :
    host.countStart place = host.countStart other ↔ place = other := by
  constructor
  · intro h
    exact (Prod.mk.inj (List.cons.inj (congrArg Host.starts h)).1).1
  · rintro rfl
    rfl

end Host

theorem spawn_host (terms : Terms) (words : List String) (dir : Path) (world : World) :
    (spawn terms words dir world).2.host =
      match world.host.resolve? (words.headD "") dir (world.childEnv terms) with
      | some place => world.host.countStart place
      | none => world.host := by
  unfold spawn
  simp only
  cases world.host.resolve? (words.headD "") dir (world.childEnv terms) with
  | none => rfl
  | some place =>
    have hstart : (world.start place).2.host = world.host.countStart place := rfl
    simp only
    generalize world.start place = launched at hstart
    obtain ⟨launch, started⟩ := launched
    cases launch with
    | refused error => exact hstart
    | started behaviour =>
      obtain ⟨now, cancelled, hafter⟩ := await_snd terms behaviour started
      simp only [World.attempted, hafter]
      exact hstart

theorem spawn_host_eq_countStart_iff {terms : Terms} {words : List String} {dir place : Path}
    {world : World} :
    (spawn terms words dir world).2.host = world.host.countStart place ↔
      world.host.resolve? (words.headD "") dir (world.childEnv terms) = some place := by
  rw [spawn_host]
  cases world.host.resolve? (words.headD "") dir (world.childEnv terms) with
  | none => exact iff_of_false (Host.countStart_ne _ _).symm (by simp)
  | some other => rw [Host.countStart_inj, Option.some_inj]

/-- The dry run of a driver whose program is found starts that very file, and no other, exactly if
the lookup from the directory of the process agrees with the one from the current directory. It does
for a program called by an absolute path, by a path of several components from an absolute
directory, or by a mere name on a search path of absolute directories. -/
theorem dryRun_host_eq_iff (terms : Terms) (world : World) (node : Driver × Invocation)
    (program : Path) (hfind : world.host.findExecutable? node.2.executable node.2.workingDir
      terms.extraEnv = some program)
    (hcall : (terms.cancellable && world.cancelled) = false) :
    (∃ spelling, world.host.search? (Host.nameFrom node.2.workingDir node.2.executable)
        (world.host.searchPathWith terms.extraEnv) = some spelling ∧
      world.host.cwd.locate spelling = world.host.cwd.locate program.toString ∧
      world.host.isExecutable (world.host.cwd.locate spelling) = true) ∧
    ((world.dryRun terms node).host =
        world.host.countStart (world.host.cwd.locate program.toString) ↔
      world.host.Agrees node.2.workingDir (world.host.searchPathWith terms.extraEnv) program) ∧
    ((Path.ofString node.2.executable).isAbsolute = true ∨
      (1 < (Path.ofString node.2.executable).parts.length ∧ node.2.workingDir.isAbsolute = true) ∨
      (Host.hasSlash node.2.executable = false ∧
        ∀ entry ∈ Host.searchDirs (world.host.searchPathWith terms.extraEnv),
          Text.begins "/" entry = true) →
      (world.dryRun terms node).host =
        world.host.countStart (world.host.cwd.locate program.toString)) := by
  have hiff : (world.dryRun terms node).host =
        world.host.countStart (world.host.cwd.locate program.toString) ↔
      world.host.Agrees node.2.workingDir (world.host.searchPathWith terms.extraEnv) program := by
    rw [← Host.resolve?_eq_some_iff hfind, World.dryRun_of_some world node hfind, run,
      hcall, if_neg (by decide), spawn_host_eq_countStart_iff]
    rfl
  refine ⟨?_, hiff, fun hinput => ?_⟩
  · obtain ⟨spelling, hsearch, rfl⟩ := Host.findExecutable?_eq_some hfind
    exact ⟨spelling, hsearch, (Path.locate_toString_ofString _ spelling).symm,
      (Host.search?_eq_some hsearch).2⟩
  · have habsolute : program.isAbsolute = true := Host.isAbsolute_of_findExecutable? hfind hinput
    exact hiff.2 (.inl habsolute)

/-- There is a clang in the current directory, and another one on the search path. -/
def twoClangs : World where
  host := { cwd := .ofString "/work"
            env := { vars := [("PATH", "/bin")] }
            files := [(.ofString "/work/clang", printing [" ld work.o"]),
              (.ofString "/bin/clang", printing [" ld bin.o"])] }

theorem dryRun_host_eq_iff_absolute :
    (twoClangs.dryRun {} (.clang,
        ⟨"clang x.c", "clang", ["x.c"], .ofString "/work", none, .linux⟩)).host =
      twoClangs.host.countStart (.ofString "/bin/clang") := by
  have hfind : twoClangs.host.findExecutable? "clang" (.ofString "/work") {} =
      some (.ofString "/bin/clang") := by decide +kernel
  have hplace : twoClangs.host.cwd.locate (Path.ofString "/bin/clang").toString =
      .ofString "/bin/clang" := by decide +kernel
  obtain ⟨-, -, hstarts⟩ := dryRun_host_eq_iff {} twoClangs (.clang,
    ⟨"clang x.c", "clang", ["x.c"], .ofString "/work", none, .linux⟩) _ hfind rfl
  have h := hstarts (.inr (.inr (by decide +kernel)))
  rwa [hplace] at h

/-- The name `./clang` is found in the current directory, but its path is a mere name, for which the
search path has another file. -/
theorem dryRun_host_dotSlash :
    twoClangs.host.findExecutable? "./clang" (.ofString "/work") {} = some (.ofString "clang") ∧
    twoClangs.host.cwd.locate "./clang" = .ofString "/work/clang" ∧
    twoClangs.host.isExecutable (.ofString "/work/clang") = true ∧
    twoClangs.host.resolve? (Path.ofString "clang").toString (.ofString "/work")
      (twoClangs.host.env.override {}) = some (.ofString "/bin/clang") ∧
    (createWithin 1 {} false "./clang x.c" (.ofString "/work") twoClangs).1.toOption.map
      (fun command => command.jobs.map (·.call.words)) = some [["ld", "bin.o"]] := by
  decide +kernel

end CompilerCommands
