import CompilerCommands.Proofs.Discovery.Failures
import CompilerCommands.Proofs.Execution.Endings

/-!
# Refusals and failures

A driver that the system refuses to start is told from one that was started and failed, unless the
system gives a time-out of its own as the reason. That is taken for a dry run whose time is up, and
there may be no limit to its time.
-/

namespace CompilerCommands

/-- A dry run fails as not found exactly for what the system says when it refuses the driver, as
failed only for a process that was started and left another status than 0 or outlived the limit, and
in no other way unless it is broken off or does not end. -/
structure ToldApart (terms : Terms) (kind : Driver) (executable : String) (args : List String)
    (dir : Path) (world : World) : Prop where
  refused : (terms.cancellable && world.cancelled) = false →
    ∀ error, world.launch terms executable dir = .refused error →
      (discoverJobs terms (.driver kind) executable args dir world).1 =
        .error (.error (.toolchainNotFound executable (some error.message)))
  failed : ∀ cause, (discoverJobs terms (.driver kind) executable args dir world).1 =
      .error (.error (.dryRunFailed cause)) →
    ∃ behaviour, world.launch terms executable dir = .started behaviour ∧
      (behaviour.status ≠ 0 ∧ cause = .exited (Shell.quote (executable :: kind.dryRunArgs args))
          behaviour.status behaviour.text ∨
        ∃ limit ∈ terms.limit, behaviour.Outlives limit ∧
          cause = .timedOut (Shell.quote (executable :: kind.dryRunArgs args)) limit)
  otherwise : terms.abortAt = none → ∀ failure,
    (discoverJobs terms (.driver kind) executable args dir world).1 = .error failure →
      (∃ reason, failure = .error (.toolchainNotFound executable reason)) ∨
      (∃ cause, failure = .error (.dryRunFailed cause)) ∨ failure = .endless

section

variable {terms : Terms} {kind : Driver} {executable : String} {args : List String} {dir : Path}
  {world : World} {error : StartError} {failure : Failure}

theorem discoverJobs_of_refused (huncancelled : (terms.cancellable && world.cancelled) = false)
    (h : world.launch terms executable dir = .refused error) :
    (discoverJobs terms (.driver kind) executable args dir world).1 =
      if error.isTimeout = true then
        match terms.limit with
        | some limit => .error (.error (.dryRunFailed (.timedOut
            (Shell.quote (executable :: kind.dryRunArgs args)) limit)))
        | none => .error .limitless
      else .error (.error (.toolchainNotFound executable (some error.message))) := by
  rw [discoverJobs_result, run_fst_of_refused _ huncancelled h]
  simp only [dryRunOutput]
  split
  · cases terms.limit <;> rfl
  · rfl

theorem Behaviour.Yields.failure_cases {behaviour : Behaviour} {result : RunResult}
    {line : String} (hyields : behaviour.Yields terms result)
    (h : DryRunFails terms executable line result failure) :
    behaviour.status ≠ 0 ∧
        failure = .error (.dryRunFailed (.exited line behaviour.status behaviour.text)) ∨
      (∃ limit ∈ terms.limit, behaviour.Outlives limit ∧
        failure = .error (.dryRunFailed (.timedOut line limit))) ∨
      terms.abortAt.isSome = true ∧ failure = .aborted ∨ failure = .endless := by
  cases hyields with
  | finished =>
    cases h with
    | exited hstatus => exact .inl ⟨hstatus, rfl⟩
  | cancelled => cases h
  | timedOut hlimit hout =>
    cases h
    exact .inr (.inl ⟨_, hlimit, hout, rfl⟩)
  | aborted habort =>
    cases h
    exact .inr (.inr (.inl ⟨habort, rfl⟩))
  | endless =>
    cases h
    exact .inr (.inr (.inr rfl))

/-- A driver that is not refused for a time-out fails because it is refused, or because of what its
process does. -/
theorem discoverJobs_error_cases
    (hrefused : ∀ error, (terms.cancellable && world.cancelled) = false →
      world.launch terms executable dir = .refused error → error.isTimeout = false)
    (h : (discoverJobs terms (.driver kind) executable args dir world).1 = .error failure) :
    (∃ error, failure = .error (.toolchainNotFound executable (some (StartError.message error)))) ∨
      ∃ behaviour, world.launch terms executable dir = .started behaviour ∧
        behaviour.Yields terms (run terms (executable :: kind.dryRunArgs args) dir world).1 := by
  obtain hcancelled | ⟨huncancelled, ⟨error, hlaunch, -⟩ | hstarted⟩ :=
    run_fst_cases terms executable (kind.dryRunArgs args) dir world
  · rw [discoverJobs_eq_error_iff, hcancelled] at h
    cases h
  · rw [discoverJobs_of_refused huncancelled hlaunch, hrefused error huncancelled hlaunch] at h
    cases h
    exact .inl ⟨error, rfl⟩
  · exact .inr hstarted

theorem toldApart_iff : ToldApart terms kind executable args dir world ↔
    ∀ error, (terms.cancellable && world.cancelled) = false →
      world.launch terms executable dir = .refused error → error.isTimeout = false := by
  constructor
  · intro h error huncancelled hlaunch
    have hresult := h.refused huncancelled error hlaunch
    rw [discoverJobs_of_refused huncancelled hlaunch] at hresult
    split at hresult
    · cases hlimit : terms.limit <;> rw [hlimit] at hresult <;> cases hresult
    · next htimeout => exact Bool.not_eq_true _ ▸ htimeout
  · intro hrefused
    refine ⟨fun huncancelled error hlaunch => ?_, fun cause h => ?_, fun habort failure h => ?_⟩
    · rw [discoverJobs_of_refused huncancelled hlaunch, hrefused error huncancelled hlaunch]
      rfl
    · obtain ⟨error, hfailure⟩ | ⟨behaviour, hlaunch, hyields⟩ :=
        discoverJobs_error_cases hrefused h
      · cases hfailure
      · refine ⟨behaviour, hlaunch, ?_⟩
        obtain ⟨hstatus, hcause⟩ | ⟨limit, hlimit, hout, hcause⟩ | ⟨-, hcause⟩ | hcause :=
          hyields.failure_cases (discoverJobs_eq_error_iff.1 h)
        · cases hcause
          exact .inl ⟨hstatus, rfl⟩
        · cases hcause
          exact .inr ⟨limit, hlimit, hout, rfl⟩
        · cases hcause
        · cases hcause
    · obtain ⟨error, hfailure⟩ | ⟨behaviour, -, hyields⟩ := discoverJobs_error_cases hrefused h
      · exact .inl ⟨_, hfailure⟩
      · obtain ⟨-, hcause⟩ | ⟨limit, -, -, hcause⟩ | ⟨hbroken, -⟩ | hcause :=
          hyields.failure_cases (discoverJobs_eq_error_iff.1 h)
        · exact .inr (.inl ⟨_, hcause⟩)
        · exact .inr (.inl ⟨_, hcause⟩)
        · rw [habort] at hbroken
          cases hbroken
        · exact .inr (.inr hcause)

end

/-- Refusals and failures of a driver are told apart exactly if the driver is not refused for a
time-out of the system, or the call has been cancelled before. A driver that is refused so is
reported as one whose time is up, and without a limit to its time the call fails without a text. -/
theorem discoverJobs_toldApart_iff (terms : Terms) (kind : Driver) (executable : String)
    (args : List String) (dir : Path) (world : World) :
    (ToldApart terms kind executable args dir world ↔
      ¬∃ error, (terms.cancellable && world.cancelled) = false ∧
        world.launch terms executable dir = .refused error ∧ error.isTimeout = true) ∧
    ∀ error, (terms.cancellable && world.cancelled) = false →
      world.launch terms executable dir = .refused error → error.isTimeout = true →
      (discoverJobs terms (.driver kind) executable args dir world).1 =
        match terms.limit with
        | some limit => .error (.error (.dryRunFailed (.timedOut
            (Shell.quote (executable :: kind.dryRunArgs args)) limit)))
        | none => .error .limitless := by
  constructor
  · rw [toldApart_iff]
    simp only [not_exists, not_and, Bool.not_eq_true]
  · intro error huncancelled hlaunch htimeout
    rw [discoverJobs_of_refused huncancelled hlaunch, if_pos htimeout]

def refusingWorld (error : StartError) : World where
  host := { cwd := .ofString "/work"
            files := [(.ofString "/bin/clang", { launches := [.refused error] })] }

/-- A driver that may not be started is not found, and one for which the system has no time runs out
of the time that the call gives it. -/
theorem discoverJobs_toldApart_refusing :
    (∃ cause, (discoverJobs {} (.driver .clang) "clang" ["a.c"] (.ofString "/work")
      (refusingWorld ⟨13, "Permission denied"⟩)).1 = .error (.error cause) ∧
      cause.message =
        "clang is not in PATH or not executable ([Errno 13] Permission denied)") ∧
    ∃ cause, (discoverJobs { limit := some ⟨"30.0", some 30000⟩ } (.driver .clang) "clang" ["a.c"]
      (.ofString "/work") (refusingWorld ⟨110, "Connection timed out"⟩)).1 =
        .error (.error cause) ∧
      cause.message = "clang a.c -save-temps '-###'\ntimed out after 30.0s" := by
  constructor
  · have htold := (discoverJobs_toldApart_iff {} .clang "clang" ["a.c"] (.ofString "/work")
      (refusingWorld ⟨13, "Permission denied"⟩)).1.2 (by
        rintro ⟨error, -, hlaunch, htimeout⟩
        have hrefused : (refusingWorld ⟨13, "Permission denied"⟩).launch {} "clang"
            (.ofString "/work") = .refused ⟨13, "Permission denied"⟩ := by decide +kernel
        rw [hrefused] at hlaunch
        cases hlaunch
        cases htimeout)
    exact ⟨_, htold.refused rfl ⟨13, "Permission denied"⟩ (by decide +kernel), by decide +kernel⟩
  · have htimeout := (discoverJobs_toldApart_iff { limit := some ⟨"30.0", some 30000⟩ } .clang
      "clang" ["a.c"] (.ofString "/work") (refusingWorld ⟨110, "Connection timed out"⟩)).2
      ⟨110, "Connection timed out"⟩ rfl (by decide +kernel) rfl
    exact ⟨_, htimeout, by decide +kernel⟩

/-- A driver that is refused for a time-out of the system is not reported as one that could not be
started, with a limit to its time or without one. -/
theorem not_toldApart_timeout :
    ¬ToldApart { limit := some ⟨"30.0", some 30000⟩ } .clang "clang" ["a.c"] (.ofString "/work")
      (refusingWorld ⟨110, "Connection timed out"⟩) ∧
    ¬ToldApart {} .clang "clang" ["a.c"] (.ofString "/work")
      (refusingWorld ⟨110, "Connection timed out"⟩) := by
  rw [toldApart_iff, toldApart_iff]
  constructor
  · intro h
    cases h ⟨110, "Connection timed out"⟩ rfl (by decide +kernel)
  · intro h
    cases h ⟨110, "Connection timed out"⟩ rfl (by decide +kernel)

end CompilerCommands
