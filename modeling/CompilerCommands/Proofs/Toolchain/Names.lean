import CompilerCommands.Job.Tool
import CompilerCommands.Proofs.Text.Pieces
import CompilerCommands.Toolchain.Basic

/-!
# Names of compilers and names of other tools

The last part of a compiler's name is its word or a version. No other tool has a name of that form,
so a name tells a toolchain or a tool, and never both.
-/

namespace CompilerCommands.Toolchain

/-! ## The last part of a name -/

/-- What stands behind the last hyphen, or the whole name. -/
def lastPart (cs : List Char) : List Char := ((cs.splitOn '-').getLast?).getD []

theorem lastPart_append_cons (front back : List Char) :
    lastPart (front ++ '-' :: back) = lastPart back :=
  Text.lastPiece_append_cons '-' front back

/-- Ends a compiler's name: the word of a compiler, or a version. -/
def endsCompiler (part : List Char) : Bool := isClangWord part || isGccWord part || isVersion part

theorem endsCompiler_lastPart_of_isClangName {cs : List Char} (h : isClangName cs = true) :
    endsCompiler (lastPart cs) = true := by
  unfold isClangName at h
  split at h
  · next word hs => simp [lastPart, hs, endsCompiler, h]
  · next word version hs =>
    have hversion : isVersion version = true := by simp_all
    simp [lastPart, hs, endsCompiler, hversion]
  · cases h

theorem endsCompiler_lastPart_of_isGccName {cs : List Char} (h : isGccName cs = true) :
    endsCompiler (lastPart cs) = true := by
  unfold isGccName at h
  split at h
  · cases h
  · next last front hs =>
    have hlast : lastPart cs = last := by simp [lastPart, List.getLast?_eq_head?_reverse, hs]
    have hends : isGccWord last = true ∨ isVersion last = true := by
      simp only [Bool.or_eq_true, Bool.and_eq_true] at h
      exact h.imp And.left And.left
    rw [hlast, endsCompiler, Bool.or_eq_true, Bool.or_eq_true]
    exact hends.imp .inr id

/-! ## Names of other tools -/

theorem upToLineFeed_eq_false {p : List Char → Bool} {cs : List Char}
    (hp : ∀ cs, p cs = true → endsCompiler (lastPart cs) = true)
    (hlast : endsCompiler (lastPart cs) = false) (hfeed : cs.getLast? ≠ some '\n') :
    upToLineFeed p cs = false := by
  have hcs : p cs = false := Bool.eq_false_iff.2 fun h => by simp [hp cs h] at hlast
  simp [upToLineFeed, hcs, hfeed]

theorem ofName_eq_none_of_ends {name : String} (h : Text.ends "-ld" name = true) :
    ofName name = none := by
  obtain ⟨front, rfl⟩ := Text.ends_iff.1 h
  have hchars : (front ++ "-ld").toList = front.toList ++ '-' :: ['l', 'd'] := by simp
  have hlast : endsCompiler (lastPart (front ++ "-ld").toList) = false := by
    rw [hchars, lastPart_append_cons]
    decide +kernel
  have hfeed : (front ++ "-ld").toList.getLast? ≠ some '\n' := by simp [hchars]
  have hne : front ++ "-ld" ≠ "nvcc" ∧ front ++ "-ld" ≠ "rustc" := by
    refine ⟨fun heq => ?_, fun heq => ?_⟩ <;> rw [heq] at h <;> exact absurd h (by decide)
  rw [ofName, upToLineFeed_eq_false (fun _ => endsCompiler_lastPart_of_isClangName) hlast hfeed,
    upToLineFeed_eq_false (fun _ => endsCompiler_lastPart_of_isGccName) hlast hfeed]
  simp [hne]

theorem ofName_of_mem_names : ∀ entry ∈ Tool.names, ofName entry.1 = none := by decide +kernel

theorem toolName_eq_other {name : String} {kind : Toolchain} (h : ofName name = some kind) :
    Tool.ofName name = .other := by
  have hlookup : Tool.names.lookup name = none := by
    refine List.lookup_eq_none_iff.2 fun entry hentry => ?_
    have hnone := ofName_of_mem_names entry hentry
    refine bne_iff_ne.2 fun heq => ?_
    simp [heq, hnone] at h
  have hends : Text.ends "-ld" name = false :=
    Bool.eq_false_iff.2 fun hends => by simp [ofName_eq_none_of_ends hends] at h
  rw [Tool.ofName, hlookup, hends]
  rfl

end CompilerCommands.Toolchain
