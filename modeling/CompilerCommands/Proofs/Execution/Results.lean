import CompilerCommands.Proofs.Execution.Events
import CompilerCommands.Proofs.Execution.Frame

/-!
# What a process can come to

A process that has been started is never refused, and a call is broken off only if it was to be. So
a refusal is that of a file, or of a name without one.
-/

namespace CompilerCommands

variable {terms : Terms} {words : List String} {dir : Path} {world : World} {error : StartError}

/-! ## Refusals -/

theorem awaitKilled_fst_cases (terms : Terms) (behaviour : Behaviour) (result : RunResult)
    (world : World) :
    (awaitKilled terms behaviour result world).1 = result ∨
      (awaitKilled terms behaviour result world).1 = .aborted ∧ terms.abortAt.isSome = true := by
  unfold awaitKilled
  generalize killPatience = patience
  split
  · cases terms.abortAt with
    | none => exact .inl rfl
    | some t =>
      by_cases h : t < world.now + patience ∧ result ≠ .aborted
      · exact .inr ⟨by simp only [if_pos h], rfl⟩
      · exact .inl (by simp only [if_neg h])
  · exact .inl rfl

theorem await_ne_refused (behaviour : Behaviour) :
    (await terms behaviour world).1 ≠ .refused error := by
  unfold await
  split
  · simp
  · simp
  · next ending time _ _ =>
    simp only
    obtain h | ⟨h, -⟩ := awaitKilled_fst_cases terms behaviour ending.killedResult
      (world.advance terms time) <;> rw [h]
    · cases ending <;> simp [Ending.killedResult]
    · simp

def Host.NeverTimesOut (host : Host) : Prop :=
  ∀ entry ∈ host.files, ∀ error, Launch.refused error ∈ entry.2.launches → error.isTimeout = false

theorem Host.NeverTimesOut.of_unstarted_eq {host other : Host} (h : host.NeverTimesOut)
    (heq : other.unstarted = host.unstarted) : other.NeverTimesOut := by
  have hfiles : other.unstarted.files = host.unstarted.files := by rw [heq]
  intro entry hentry
  exact h entry (hfiles ▸ hentry)

theorem File.launch_cases (file : File) (earlier : Nat) :
    file.launch earlier ∈ file.launches ∨ file.launch earlier = .started {} := by
  unfold File.launch
  split
  · next launch hlaunch => exact .inl (List.mem_of_getElem? hlaunch)
  · cases hlast : file.launches.getLast? with
    | none => exact .inr rfl
    | some launch => exact .inl (List.mem_of_getLast? hlast)

theorem start_ne_refused_timeout (h : world.host.NeverTimesOut) {place : Path}
    (hstart : (world.start place).1 = .refused error) : error.isTimeout = false := by
  unfold World.start at hstart
  simp only at hstart
  split at hstart
  · next file hfile =>
    obtain hmem | hdefault := file.launch_cases (world.host.startCount place)
    · rw [hstart] at hmem
      obtain ⟨before, after, hfiles, -⟩ := List.lookup_eq_some_iff.1 hfile
      exact h (place, file) (by rw [hfiles]; simp) error hmem
    · rw [hstart] at hdefault
      cases hdefault
  · cases hstart

theorem run_refused (h : world.host.NeverTimesOut)
    (hrun : (run terms words dir world).1 = .refused error) : error.isTimeout = false := by
  unfold run spawn at hrun
  split at hrun
  · cases hrun
  · simp only at hrun
    split at hrun
    · cases hrun
      rfl
    · next place _ =>
      split at hrun
      · next refusal started hlaunch =>
        cases hrun
        exact start_ne_refused_timeout h (congrArg Prod.fst hlaunch)
      · exact absurd hrun (await_ne_refused _)

/-! ## Calls that are broken off -/

theorem await_ne_aborted (h : terms.abortAt = none) (behaviour : Behaviour) :
    (await terms behaviour world).1 ≠ .aborted := by
  unfold await
  split
  · simp
  · simp
  · next ending time _ hfirst =>
    have hending : ending ≠ .abort := by
      rintro rfl
      cases event_of_earliest? hfirst with
      | abort habort => cases h.symm.trans habort
    simp only
    obtain hkilled | ⟨-, habort⟩ := awaitKilled_fst_cases terms behaviour ending.killedResult
      (world.advance terms time)
    · rw [hkilled]
      cases ending with
      | abort => exact absurd rfl hending
      | _ => simp [Ending.killedResult]
    · rw [h] at habort
      cases habort

theorem run_ne_aborted (h : terms.abortAt = none) : (run terms words dir world).1 ≠ .aborted := by
  unfold run spawn
  split
  · simp
  · simp only
    split
    · simp
    · split
      · simp
      · exact await_ne_aborted h _

/-! ## Waits without end -/

/-- Each process comes to an end, by itself or because its time is up. -/
def Host.ProcessesEnd (host : Host) (terms : Terms) : Prop :=
  (∃ limit ∈ terms.limit, limit.ticks.isSome = true) ∨
    ∀ entry ∈ host.files, ∀ behaviour, Launch.started behaviour ∈ entry.2.launches →
      behaviour.duration.isSome = true

theorem Host.ProcessesEnd.of_unstarted_eq {host other : Host} (h : host.ProcessesEnd terms)
    (heq : other.unstarted = host.unstarted) : other.ProcessesEnd terms := by
  have hfiles : other.unstarted.files = host.unstarted.files := by rw [heq]
  exact h.imp_right fun hends entry hentry => hends entry (hfiles ▸ hentry)

theorem await_ne_endless {behaviour : Behaviour} (h : (∃ limit ∈ terms.limit,
    limit.ticks.isSome = true) ∨ behaviour.duration.isSome = true) :
    (await terms behaviour world).1 ≠ .endless := by
  unfold await
  split
  · next hnone =>
    have hnone := not_event_of_earliest?_eq_none hnone
    obtain ⟨limit, hmem, hticks⟩ | hsome := h
    · obtain ⟨d, hd⟩ := Option.isSome_iff_exists.1 hticks
      exact absurd (.timeout hmem hd) (hnone _ _)
    · obtain ⟨d, hd⟩ := Option.isSome_iff_exists.1 hsome
      exact absurd (.exit hd) (hnone _ _)
  · simp
  · next ending time _ _ =>
    simp only
    obtain hkilled | ⟨hkilled, -⟩ := awaitKilled_fst_cases terms behaviour ending.killedResult
      (world.advance terms time) <;> rw [hkilled]
    · cases ending <;> simp [Ending.killedResult]
    · simp

theorem File.duration_of_launch {file : File} (h : ∀ behaviour,
    Launch.started behaviour ∈ file.launches → behaviour.duration.isSome = true) {earlier : Nat}
    {behaviour : Behaviour} (hlaunch : file.launch earlier = .started behaviour) :
    behaviour.duration.isSome = true := by
  obtain hmem | hdefault := file.launch_cases earlier
  · exact h behaviour (hlaunch ▸ hmem)
  · rw [hdefault] at hlaunch
    cases hlaunch
    rfl

theorem start_processesEnd (h : world.host.ProcessesEnd terms) {place : Path}
    {behaviour : Behaviour} (hstart : (world.start place).1 = .started behaviour) :
    (∃ limit ∈ terms.limit, limit.ticks.isSome = true) ∨ behaviour.duration.isSome = true := by
  refine h.imp_right fun hends => ?_
  unfold World.start at hstart
  simp only at hstart
  split at hstart
  · next file hfile =>
    obtain ⟨before, after, hfiles, -⟩ := List.lookup_eq_some_iff.1 hfile
    exact File.duration_of_launch (hends (place, file) (by rw [hfiles]; simp)) hstart
  · cases hstart
    rfl

theorem run_ne_endless (h : world.host.ProcessesEnd terms) :
    (run terms words dir world).1 ≠ .endless := by
  unfold run spawn
  split
  · simp
  · simp only
    split
    · simp
    · next place _ =>
      split
      · simp
      · next hstart => exact await_ne_endless (start_processesEnd h (congrArg Prod.fst hstart))

end CompilerCommands
