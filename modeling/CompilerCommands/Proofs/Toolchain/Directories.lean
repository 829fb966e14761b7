import CompilerCommands.Job.Tool
import CompilerCommands.Proofs.Path.FileName
import CompilerCommands.Proofs.Text.Lowercase
import CompilerCommands.Toolchain.Basic

/-!
# Tools in directories

A tool is the same in every directory, however the directory is written, and with the extension of
an executable behind its name.
-/

namespace CompilerCommands.Toolchain

open Text (lastPiece)

/-! ## Names without directories -/

/-- Is a name and nothing else: no dot alone, no separator, no drive. -/
structure IsFileName (name : String) : Prop where
  isComponent : Path.isComponent name.toList = true
  slash : '/' ∉ name.toList
  backslash : '\\' ∉ name.toList
  colon : ':' ∉ name.toList

/-- The last component of a path, separated either way. -/
def fileName (executable : String) : String := WindowsPath.name (Path.ofString executable).name

def withoutExe (name : String) : String :=
  if Text.ends ".exe" (Text.lower name) then String.ofList (name.toList.take (name.length - 4))
  else name

theorem baseName_eq (executable : String) :
    baseName executable = withoutExe (fileName executable) := rfl

theorem IsFileName.not_hasShareMark {name : String} (h : IsFileName name) :
    ¬WindowsPath.HasShareMark name.toList := by
  rintro ⟨rest, hrest⟩
  exact h.backslash (hrest ▸ List.mem_append_left rest List.mem_cons_self)

theorem fileName_of_lastPiece {executable name : String} (hname : IsFileName name)
    (hlast : lastPiece '\\' (lastPiece '/' executable.toList) = name.toList)
    (hshare : ¬WindowsPath.HasShareMark (lastPiece '/' executable.toList)) :
    fileName executable = name := by
  have hcomponent : Path.isComponent (lastPiece '/' executable.toList) = true := by
    generalize lastPiece '/' executable.toList = piece at hlast
    by_cases hbackslash : '\\' ∈ piece
    · have hnil : piece ≠ [] := List.ne_nil_of_mem hbackslash
      have hdot : piece ≠ ['.'] := by
        rintro rfl
        exact absurd hbackslash (by decide)
      simp [Path.isComponent, hnil, hdot]
    · rw [← Text.lastPiece_of_not_mem hbackslash, hlast]
      exact hname.isComponent
  rw [fileName, Path.name_ofString hcomponent, WindowsPath.name_eq] <;> rw [String.toList_ofList]
  · rw [hlast, String.ofList_toList]
  · exact hshare
  · rw [hlast]
    exact hname.colon
  · rw [hlast]
    exact hname.isComponent

theorem fileName_of_isFileName {name : String} (hname : IsFileName name) :
    fileName name = name := by
  have hslash := Text.lastPiece_of_not_mem hname.slash
  refine fileName_of_lastPiece hname ?_ ?_ <;> rw [hslash]
  · exact Text.lastPiece_of_not_mem hname.backslash
  · exact hname.not_hasShareMark

section Directory

variable {dir sep name : String}

/-- The directory does not begin a network share. -/
def NoShare (dir sep name : String) : Prop :=
  sep = "\\" → ¬WindowsPath.HasShareMark (lastPiece '/' (dir ++ sep ++ name).toList)

theorem fileName_append (hsep : sep = "/" ∨ sep = "\\") (hname : IsFileName name)
    (hshare : NoShare dir sep name) : fileName (dir ++ sep ++ name) = name := by
  have hbackslash := Text.lastPiece_of_not_mem hname.backslash
  rcases hsep with rfl | rfl
  · have hpiece : lastPiece '/' (dir ++ "/" ++ name).toList = name.toList := by
      have hchars : (dir ++ "/" ++ name).toList = dir.toList ++ '/' :: name.toList := by simp
      rw [hchars, Text.lastPiece_append_cons, Text.lastPiece_of_not_mem hname.slash]
    refine fileName_of_lastPiece hname ?_ ?_ <;> rw [hpiece]
    · exact hbackslash
    · exact hname.not_hasShareMark
  · refine fileName_of_lastPiece hname ?_ (hshare rfl)
    have hchars : (dir ++ "\\" ++ name).toList = dir.toList ++ '\\' :: name.toList := by simp
    rw [hchars, Text.lastPiece_append (by simp [hname.slash]), Text.lastPiece_append_cons,
      hbackslash]

theorem NoShare.congr {other : String} (h : NoShare dir sep name) (hname : IsFileName name)
    (hother : IsFileName other) : NoShare dir sep other := by
  rintro rfl
  have hpiece {last : String} (hlast : IsFileName last) :
      WindowsPath.HasShareMark (lastPiece '/' (dir ++ "\\" ++ last).toList) ↔
        WindowsPath.HasShareMark (lastPiece '/' dir.toList ++ ['\\']) := by
    have hchars : (dir ++ "\\" ++ last).toList = dir.toList ++ '\\' :: last.toList := by simp
    rw [hchars, Text.lastPiece_append (by simp [hlast.slash]),
      WindowsPath.hasShareMark_append_cons hlast.backslash]
  rw [hpiece hother, ← hpiece hname]
  exact h rfl

end Directory

/-! ## Extensions -/

def IsExe (ext : String) : Prop := ext.toList.map Char.toLower = ".exe".toList

instance (ext : String) : Decidable (IsExe ext) := inferInstanceAs (Decidable (_ = _))

def EndsInExe (name : String) : Prop := ∃ front ext, name = front ++ ext ∧ IsExe ext

theorem IsExe.length {ext : String} (h : IsExe ext) : ext.toList.length = 4 := by
  have hlength := congrArg List.length h
  rwa [List.length_map] at hlength

theorem IsExe.not_mem {ext : String} (h : IsExe ext) {c : Char}
    (hc : c.toLower ∉ ".exe".toList) : c ∉ ext.toList := by
  intro hmem
  rw [← h] at hc
  exact hc (List.mem_map_of_mem hmem)

theorem IsFileName.append_exe {name ext : String} (hname : IsFileName name) (h : IsExe ext) :
    IsFileName (name ++ ext) where
  isComponent := by
    have hlength : 4 ≤ (name ++ ext).toList.length := by
      rw [String.toList_append, List.length_append, h.length]
      omega
    have hnil : (name ++ ext).toList ≠ [] := fun heq => by simp [heq] at hlength
    have hdot : (name ++ ext).toList ≠ ['.'] := fun heq => by simp [heq] at hlength
    simp only [Path.isComponent, Bool.and_eq_true, Bool.not_eq_true', List.isEmpty_eq_false_iff,
      bne_iff_ne]
    exact ⟨hnil, hdot⟩
  slash := by
    rw [String.toList_append, List.mem_append, not_or]
    exact ⟨hname.slash, h.not_mem (by decide)⟩
  backslash := by
    rw [String.toList_append, List.mem_append, not_or]
    exact ⟨hname.backslash, h.not_mem (by decide)⟩
  colon := by
    rw [String.toList_append, List.mem_append, not_or]
    exact ⟨hname.colon, h.not_mem (by decide)⟩

theorem ends_exe_iff {name : String} :
    Text.ends ".exe" (Text.lower name) = true ↔ EndsInExe name := by
  have hall : ".exe".toList.all (fun x => decide (Text.OnlyFromAscii x)) = true := by
    decide +kernel
  exact Text.ends_lower_iff fun x hx => of_decide_eq_true (List.all_eq_true.1 hall x hx)

theorem withoutExe_append {name ext : String} (h : IsExe ext) :
    withoutExe (name ++ ext) = name := by
  have htake : (name ++ ext).length - 4 = name.toList.length := by
    rw [← String.length_toList, String.toList_append, List.length_append, h.length,
      Nat.add_sub_cancel]
  rw [withoutExe, if_pos (ends_exe_iff.2 ⟨name, ext, rfl, h⟩), htake, String.toList_append,
    List.take_left, String.ofList_toList]

theorem withoutExe_of_not_endsInExe {name : String} (h : ¬EndsInExe name) :
    withoutExe name = name := by rw [withoutExe, if_neg (mt ends_exe_iff.1 h)]

/-! ## Tools -/

/-- Both are the same tool to all that reads the names of executables. -/
structure SameTool (a b : String) : Prop where
  baseName : baseName a = baseName b
  toolchain : classify a = classify b
  tool (args : List String) : Tool.classify a args = Tool.classify b args

theorem SameTool.of_baseName {a b : String} (h : Toolchain.baseName a = Toolchain.baseName b) :
    SameTool a b where
  baseName := h
  toolchain := by rw [classify, h, ← classify]
  tool args := by rw [Tool.classify, h, ← Tool.classify]

/-- An executable in a directory is the same tool as without the directory, whichever separator
stands between them, unless the name becomes part of a network share. With the extension of an
executable behind its name, in any letter case, it is the same tool too, if it had none. -/
theorem sameTool_append {dir sep name : String} (hsep : sep = "/" ∨ sep = "\\")
    (hname : IsFileName name) (hshare : NoShare dir sep name) :
    SameTool (dir ++ sep ++ name) name ∧
    ∀ ext, IsExe ext → ¬EndsInExe name →
      SameTool (name ++ ext) name ∧ SameTool (dir ++ sep ++ (name ++ ext)) name := by
  have hself := fileName_of_isFileName hname
  refine ⟨.of_baseName ?_, fun ext hext hplain => ⟨.of_baseName ?_, .of_baseName ?_⟩⟩
  · rw [baseName_eq, baseName_eq, fileName_append hsep hname hshare, hself]
  · have hlong := hname.append_exe hext
    rw [baseName_eq, baseName_eq, fileName_of_isFileName hlong, hself, withoutExe_append hext,
      withoutExe_of_not_endsInExe hplain]
  · have hlong := hname.append_exe hext
    rw [baseName_eq, baseName_eq, fileName_append hsep hlong (hshare.congr hname hlong), hself,
      withoutExe_append hext, withoutExe_of_not_endsInExe hplain]

/-- A share before a slash, and then a drive, are no part of the name. -/
theorem sameTool_append_drive :
    SameTool ("\\\\host\\share/C:\\llvm" ++ "\\" ++ "clang++-17") "clang++-17" ∧
    SameTool ("\\\\host\\share/C:\\llvm" ++ "\\" ++ ("clang++-17" ++ ".eXE")) "clang++-17" := by
  have hname : IsFileName "clang++-17" := ⟨by decide, by decide, by decide, by decide⟩
  have hshare : NoShare "\\\\host\\share/C:\\llvm" "\\" "clang++-17" := fun _ => by decide +kernel
  have hplain : ¬EndsInExe "clang++-17" := by
    rw [← ends_exe_iff]
    decide +kernel
  obtain ⟨hplace, hext⟩ := sameTool_append (.inr rfl) hname hshare
  exact ⟨hplace, (hext ".eXE" (by decide) hplain).2⟩

end CompilerCommands.Toolchain
