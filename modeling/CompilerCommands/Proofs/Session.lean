import CompilerCommands.Proofs.Discovery.Cancellation
import CompilerCommands.Session

/-!
# Cancelled tokens

A token that has been cancelled stays so, in whatever way it was: by a step of its own, or because
its time came while a call waited for a process. No later step with that token attempts to start
anything.
-/

namespace CompilerCommands

def Step.options? : Step → Option StepOptions
  | create options .. | discover options .. | discoverJobs options .. | run options ..
  | print options .. => some options
  | _ => none

def Step.token? (step : Step) : Option String := step.options?.bind StepOptions.token

namespace Session

variable {session : Session} {step : Step} {options : StepOptions} {token : String}

/-! ## Steps that make a call -/

/-- A step makes a call on the terms of `options`, which leads to the world `after`. -/
structure Calls (session : Session) (options : StepOptions) (outcome : StepResult × Session)
    (after : World) : Prop where
  continues : Continues options.terms (session.world options.token) after
  attempts : outcome.1.attempts = after.attempts
  elapsed : outcome.1.elapsed = after.now
  cancelled : outcome.2.cancelled = (session.after options.token after).cancelled

theorem calls_calling {α : Type} {call : Terms → World → Except Failure α × World}
    {finish : Session → α → Answer × Session}
    (hcall : ∀ world, Continues options.terms world (call options.terms world).2)
    (hfinish : ∀ session value, (finish session value).2.cancelled = session.cancelled) :
    ∃ after, session.Calls options (session.calling options call finish) after := by
  have hcontinues := hcall (session.world options.token)
  refine ⟨(call options.terms (session.world options.token)).2, ?_⟩
  unfold calling
  cases hmade : call options.terms (session.world options.token) with
  | mk result after =>
    rw [hmade] at hcontinues
    cases result with
    | error failure => exact ⟨hcontinues, rfl, rfl, rfl⟩
    | ok value => exact ⟨hcontinues, rfl, rfl, hfinish _ value⟩

theorem calls_answering (answer : Except Failure Answer) :
    ∃ after, session.Calls options (session.answering answer) after := by
  refine ⟨session.world options.token, .refl _ _, rfl, rfl, ?_⟩
  cases htoken : options.token with
  | none => rfl
  | some token =>
    -- only a token that has been cancelled is cancelled again
    cases hcancelled : session.cancelled.contains token <;>
      simp only [answering, Session.after, world, Option.any_some, hcancelled, cancelToken] <;> rfl

theorem calls_step (h : step.options? = some options) :
    ∃ after, session.Calls options (session.step step) after := by
  cases step with
  | create options name line strict =>
    cases h
    rw [Session.step]
    exact calls_calling (fun _ => continues_createWithin ..) fun _ _ => rfl
  | discover options name =>
    cases h
    rw [Session.step]
    cases session.command? name with
    | none => exact calls_answering _
    | some command =>
      refine calls_calling (fun world => ?_) fun _ _ => rfl
      cases hagain : command.rediscoverWithin maxDepth options.terms world with
      | none => exact .refl _ _
      | some result => exact continues_rediscoverWithin hagain
  | discoverJobs options kind executable args =>
    cases h
    rw [Session.step]
    exact calls_calling (fun _ => continues_discoverJobs ..) fun _ _ => rfl
  | run options words =>
    cases h
    rw [Session.step]
    exact calls_calling (fun _ => continues_run ..) fun _ _ => rfl
  | print options line filter =>
    cases h
    rw [Session.step]
    exact calls_calling (fun _ => continues_createWithin ..) fun _ _ => rfl
  | _ => cases h

/-! ## Tokens -/

theorem mem_cancelToken (session : Session) (token : String) :
    token ∈ (session.cancelToken token).cancelled := by
  unfold cancelToken
  split
  · next h => exact List.contains_iff_mem.1 h
  · exact List.mem_cons_self ..

theorem mem_cancelToken_of_mem {other : String} (h : token ∈ session.cancelled) :
    token ∈ (session.cancelToken other).cancelled := by
  unfold cancelToken
  split
  · exact h
  · exact List.mem_cons_of_mem _ h

theorem mem_cancelled_after {other : Option String} {world : World}
    (h : token ∈ session.cancelled) : token ∈ (session.after other world).cancelled := by
  unfold Session.after
  cases other with
  | none => exact h
  | some other =>
    simp only
    split
    · exact mem_cancelToken_of_mem h
    · exact h

theorem mem_cancelled_step (step : Step) (h : token ∈ session.cancelled) :
    token ∈ (session.step step).2.cancelled := by
  cases hoptions : step.options? with
  | some options =>
    obtain ⟨after, hcalls⟩ := calls_step hoptions
    rw [hcalls.cancelled]
    exact mem_cancelled_after h
  | none =>
    cases step with
    | cancel other => exact mem_cancelToken_of_mem h
    | describe name =>
      rw [Session.step]
      cases session.command? name <;> exact h
    | change name changes =>
      rw [Session.step]
      cases session.command? name <;> exact h
    | find | isCancelled | setFile | setVariable | changeDir => exact h
    | _ => cases hoptions

theorem attempts_step_eq_nil (hcancelled : token ∈ session.cancelled)
    (htoken : step.token? = some token) : (session.step step).1.attempts = [] := by
  obtain ⟨options, hoptions, htoken⟩ := Option.bind_eq_some_iff.1 htoken
  obtain ⟨after, hcalls⟩ := calls_step hoptions
  obtain ⟨new, hnew, hnone, -⟩ := hcalls.continues.attempts
  have hable : options.terms.cancellable = true := by
    simp only [StepOptions.terms, htoken, Option.isSome_some]
  have hworld : (session.world options.token).cancelled = true := by
    simp only [world, htoken, Option.any_some]
    exact List.contains_iff_mem.2 hcancelled
  rw [hcalls.attempts, hnew, hnone hable hworld]
  rfl

theorem attempts_steps_eq_nil (hcancelled : token ∈ session.cancelled) (steps : List Step) :
    ∀ entry ∈ steps.zip (session.steps steps),
      entry.1.token? = some token → entry.2.attempts = [] := by
  induction steps generalizing session with
  | nil =>
    intro entry hentry
    cases hentry
  | cons first rest ih =>
    intro entry hentry htoken
    rcases List.mem_cons.1 hentry with rfl | hentry
    · exact attempts_step_eq_nil hcancelled htoken
    · exact ih (mem_cancelled_step first hcancelled) entry hentry htoken

/-- A step after which a token is cancelled: it is the cancellation of that token, or the time to
cancel it comes while a call with it goes on. -/
inductive Cancels (session : Session) (token : String) : Step → Prop
  | asked : Cancels session token (.cancel token)
  | meanwhile {step : Step} {options : StepOptions} {t : Ticks}
      (hoptions : step.options? = some options) (htoken : options.token = some token)
      (ht : options.cancelAt = some t) (hwaited : 0 < (session.step step).1.elapsed)
      (htime : t ≤ (session.step step).1.elapsed) : Cancels session token step

theorem Cancels.mem_cancelled (h : session.Cancels token step) :
    token ∈ (session.step step).2.cancelled := by
  cases h with
  | asked => exact mem_cancelToken session token
  | meanwhile hoptions htoken ht hwaited htime =>
    obtain ⟨after, hcalls⟩ := calls_step hoptions
    rw [hcalls.elapsed] at hwaited htime
    -- time has passed, so the call knows that it is cancelled
    have hnoticed : after.Noticed _ := hcalls.continues.noticed (.inr hwaited)
    have hafter : after.cancelled = true :=
      hnoticed _ (by simp [Terms.cancelTime?, StepOptions.terms, htoken, ht]) htime
    rw [hcalls.cancelled, htoken]
    simp only [Session.after, hafter, if_true]
    exact mem_cancelToken _ token

end Session

/-- Nothing is started in a call that has been cancelled, or in a later call with its token. A
creation, or a discovery, attempts nothing from the time on at which it is cancelled, whatever comes
of it. In the tree of a creation, the driver that is waited for at that time is left without jobs,
its process being killed, and so is each driver that is reached later; and in a session no step
attempts anything with a token that an earlier step has left cancelled. -/
theorem cancellation_stops (depth : Nat) (terms : Terms) (strict : Bool) (line : String)
    (dir : Path) (world : World) (session : Session) :
    Stops terms world (createWithin depth terms strict line dir world).2 ∧
    (∀ (command : Command) result after,
      command.rediscoverWithin depth terms world = some (result, after) →
      Stops terms world after) ∧
    (∀ command after, createWithin depth terms strict line dir world = (.ok command, after) →
      after.unlogged = (command.drivers.foldl (World.dryRun terms) world).unlogged ∧
      (∀ visit ∈ visits terms world command.driverNodes, visit.2.Stopped terms visit.1 after) ∧
      ∀ visit ∈ (visits terms world command.driverNodes).tail, visit.1.Noticed terms) ∧
    ∀ token first (rest : List Step), session.Cancels token first ∨ token ∈ session.cancelled →
      ∀ entry ∈ rest.zip ((session.step first).2.steps rest),
        entry.1.token? = some token → entry.2.attempts = [] := by
  refine ⟨stops_createWithin depth terms strict line dir world, fun command result after h =>
    stops_rediscoverWithin h, fun command after h => ⟨(dryRuns_createWithin h).unlogged,
    stopped_createWithin h, noticed_of_mem_visits_tail h⟩, fun token first rest h => ?_⟩
  have hcancelled : token ∈ (session.step first).2.cancelled := by
    rcases h with h | h
    · exact h.mem_cancelled
    · exact Session.mem_cancelled_step first h
  exact Session.attempts_steps_eq_nil hcancelled rest

/-- nvcc plans two drivers, and the first of them does not end. -/
def waitingSession : Session where
  host := { cwd := .ofString "/work"
            files := [(.ofString "/bin/nvcc", printing ["#$ clang -c a.c", "#$ gcc -c b.c"]),
              (.ofString "/bin/clang", { launches := [.started { duration := none }] }),
              (.ofString "/bin/gcc", printing [" as -o b.o b.s"])] }

def nvccRun : Driver × Invocation :=
  (.nvcc, ⟨"nvcc a.cu", "nvcc", ["a.cu"], .ofString "/work", none, .linux⟩)

def clangRun : Driver × Invocation :=
  (.clang, ⟨"clang -c a.c", "clang", ["-c", "a.c"], .ofString "/work", some [], .linux⟩)

def hurried : StepOptions where
  token := some "t"
  cancelAt := some 5

theorem dryRunsUntil_clangRun :
    DryRunsUntil hurried.terms ((waitingSession.world none).dryRun hurried.terms nvccRun) clangRun
      (.ofString "/bin/clang") { duration := none } 5 where
  found := by decide +kernel
  runs := {
    uncancelled := by decide +kernel
    started := ⟨.ofString "/bin/clang", by decide +kernel, by decide +kernel⟩
    running := nofun
    inTime := nofun }

theorem cancellation_stops_nested :
    (∃ command after node,
      createWithin 3 hurried.terms false "nvcc a.cu" (.ofString "/work")
        (waitingSession.world none) = (.ok command, after) ∧
      node ∈ command.driverNodes ∧ node.position = [0] ∧ node.state.cancelled = true ∧
      node.jobs = [] ∧
      ⟨0, ["/bin/clang", "-c", "a.c", "-save-temps", "-###"], .ofString "/work", {}, true⟩ ∈
        after.attempts ∧
      ∀ attempt ∈ after.attempts, attempt.time < 5) ∧
    ((waitingSession.step (.create hurried "first" "nvcc a.cu" false)).2.step
      (.create { token := some "t" } "second" "gcc -c b.c" false)).1.attempts = [] := by
  obtain ⟨hstops, -, htree, hsession⟩ := cancellation_stops 3 hurried.terms false "nvcc a.cu"
    (.ofString "/work") (waitingSession.world none) waitingSession
  constructor
  · have hnodes : (createWithin 3 hurried.terms false "nvcc a.cu" (.ofString "/work")
        (waitingSession.world none)).1.toOption.map (fun command => command.driverNodes.map
          fun node => (node.position, node.run)) =
        some [([], nvccRun), ([0], clangRun), ([1], .clang,
          ⟨"gcc -c b.c", "gcc", ["-c", "b.c"], .ofString "/work", some [], .linux⟩)] := by
      decide +kernel
    cases hmade : createWithin 3 hurried.terms false "nvcc a.cu" (.ofString "/work")
        (waitingSession.world none) with
    | mk result after =>
      rw [hmade] at hnodes hstops
      cases result with
      | error failure => cases hnodes
      | ok command =>
        obtain ⟨root, below, hcommand, hroot, hbelow⟩ :=
          List.map_eq_cons_iff.1 (Option.some.inj hnodes)
        obtain ⟨node, others, rfl, hnode, -⟩ := List.map_eq_cons_iff.1 hbelow
        obtain ⟨-, hnvcc⟩ := Prod.mk.inj hroot
        obtain ⟨hposition, hclang⟩ := Prod.mk.inj hnode
        have hmem : node ∈ command.driverNodes := by
          rw [hcommand]
          exact List.mem_cons_of_mem _ (List.mem_cons_self ..)
        have hvisit : ((waitingSession.world none).dryRun hurried.terms nvccRun, node) ∈
            visits hurried.terms (waitingSession.world none) command.driverNodes := by
          rw [hcommand, ← hnvcc]
          exact List.mem_cons_of_mem _ (List.mem_cons_self ..)
        have hwaiting := dryRunsUntil_clangRun
        rw [← hclang] at hwaiting
        obtain ⟨-, hstopped, -⟩ := htree command after hmade
        obtain ⟨hstate, hjobs, hattempt⟩ := (hstopped _ hvisit).waiting 5 rfl _ _ hwaiting
        refine ⟨command, after, node, rfl, hmem, hposition, hstate, hjobs, ?_, ?_⟩
        · have hcall : node.call = clangRun.2 := congrArg Prod.snd hclang
          have hkilled : Attempt.mk
              ((waitingSession.world none).dryRun hurried.terms nvccRun).now
              (dryRunWords clangRun (.ofString "/bin/clang")) clangRun.2.workingDir
              (((waitingSession.world none).dryRun hurried.terms nvccRun).childEnv hurried.terms)
              (!false) =
              ⟨0, ["/bin/clang", "-c", "a.c", "-save-temps", "-###"], .ofString "/work", {},
                true⟩ := by
            decide +kernel
          rw [hclang, hcall] at hattempt
          rw [← hkilled]
          exact hattempt
        · obtain ⟨new, hnew, htimes, -⟩ := hstops.during 5 rfl
          rw [hnew]
          exact htimes (by decide)
  · have hlater : ∀ first next, waitingSession.Cancels "t" first → next.token? = some "t" →
        ((waitingSession.step first).2.step next).1.attempts = [] := by
      intro first next hfirst hnext
      exact hsession "t" first [next] (.inl hfirst)
        (next, ((waitingSession.step first).2.step next).1) (List.mem_singleton.2 rfl) hnext
    exact hlater _ _ (.meanwhile rfl rfl rfl (by decide +kernel) (by decide +kernel)) rfl

end CompilerCommands
