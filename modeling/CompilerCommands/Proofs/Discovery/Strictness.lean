import CompilerCommands.Proofs.Discovery.Failures
import CompilerCommands.Proofs.Discovery.Rediscovery

/-!
# Strict and lenient creation

Strictness is looked at once, when the root's own discovery has come to its end. So a strict
creation does what a lenient one does, and tells it in another way only if the dry run of the root
failed: the lenient one keeps the error with the root, the strict one fails with the root as it is
without it.
-/

namespace CompilerCommands

def Command.keptError? (command : Command) : Option RecordedError :=
  command.discovery?.bind (·.error)

/-- The command as it is without the error that is kept with it. What is kept below stays. -/
def Command.withoutError : Command → Command
  | driver kind call state jobs => driver kind call { state with error := none } jobs
  | command => command

/-- What a strict creation makes of the line, beside a lenient one that came to `lenient`. -/
inductive ToldStrictly (line : String) (lenient : Except Failure Command × World) :
    Except Failure Command × World → Prop
  | same (h : ∀ root, lenient.1 = .ok root → root.keptError? = none) :
    ToldStrictly line lenient lenient
  | refused {root : Command} {cause : DryRunError} {world : World} (hroot : lenient.1 = .ok root)
      (hkept : root.keptError? = some ⟨.dryRunFailed cause, some []⟩)
      (hworld : lenient.2 = world.logUndiscovered line (.dryRunFailed cause)) :
    ToldStrictly line lenient (.error (.undiscovered cause root.withoutError), world)

theorem World.records_logUndiscovered (world : World) (line : String) (error : CommandError) :
    (world.logUndiscovered line error).records = world.records ++ [⟨.warning, .command,
      "Could not discover the jobs of " ++ line ++ ": " ++ error.message⟩] := rfl

section

variable {terms : Terms} {line : String} {kind : Driver} {call : Invocation}
  {result : Except Failure Discovered × World}

/-- A discovery is settled in the same way, unless it came to a failed dry run. -/
theorem toldStrictly_settle (hline : call.rawLine = line)
    (hfound : ∀ found, result.1 = .ok found → found.state.error = none) :
    ToldStrictly line (settle false kind call result) (settle true kind call result) := by
  obtain ⟨outcome, after⟩ := result
  cases outcome with
  | ok found =>
    refine .same fun root hroot => ?_
    cases hroot
    exact hfound found rfl
  | error failure =>
    cases failure with
    | error cause =>
      cases cause with
      | dryRunFailed cause =>
        subst hline
        have hroot : (settle false kind call (.error (.error (.dryRunFailed cause)), after)).1 =
            .ok (.driver kind call { error := some ⟨.dryRunFailed cause, some []⟩ } []) := rfl
        exact .refused hroot rfl rfl
      | _ => exact .same nofun
    | _ => exact .same nofun

theorem toldStrictly_createWithin (depth : Nat) (terms : Terms) (line : String) (dir : Path)
    (world : World) :
    ToldStrictly line (createWithin depth terms false line dir world)
      (createWithin depth terms true line dir world) := by
  unfold createWithin
  split
  · exact .same nofun
  · unfold createFromWords
    split
    · exact .same nofun
    · simp only
      split
      · exact .same nofun
      · refine .same fun root hroot => ?_
        cases hroot
        rfl
      · exact toldStrictly_settle rfl fun found hfound => state_discoverWithin (Prod.ext hfound rfl)

end

/-- A strict creation and a lenient one start the same processes at the same times and leave the
same host. They come to the same unless the lenient one keeps an error with the root. That is a
failed dry run: the strict one fails with the same message and with the root as it is without the
error, and has the same log but for the last record, the warning. -/
theorem createWithin_strict (depth : Nat) (terms : Terms) (line : String) (dir : Path)
    (world : World) :
    let lenient := createWithin depth terms false line dir world
    let strict := createWithin depth terms true line dir world
    strict.2.unlogged = lenient.2.unlogged ∧
    (∀ failure, lenient.1 = .error failure → strict = lenient) ∧
    (∀ root, lenient.1 = .ok root → root.keptError? = none → strict = lenient) ∧
    ∀ root kept, lenient.1 = .ok root → root.keptError? = some kept →
      ∃ cause, kept = ⟨.dryRunFailed cause, some []⟩ ∧
        strict.1 = .error (.undiscovered cause root.withoutError) ∧
        (Failure.undiscovered cause root.withoutError).message = kept.error.message ∧
        lenient.2.records = strict.2.records ++ [⟨.warning, .command,
          "Could not discover the jobs of " ++ line ++ ": " ++ kept.error.message⟩] := by
  intro lenient strict
  have htold : ToldStrictly line lenient strict :=
    toldStrictly_createWithin depth terms line dir world
  generalize lenient = lenient, strict = strict at htold
  cases htold with
  | same h =>
    refine ⟨rfl, fun _ _ => rfl, fun _ _ _ => rfl, fun root kept hroot hkept => ?_⟩
    rw [h root hroot] at hkept
    cases hkept
  | @refused root cause world hroot hkept hworld =>
    refine ⟨by rw [hworld]; rfl, fun failure hfailure => ?_, fun other hother hnone => ?_,
      fun other kept hother hsome => ?_⟩
    · rw [hroot] at hfailure
      cases hfailure
    · rw [hroot] at hother
      cases hother
      rw [hkept] at hnone
      cases hnone
    · rw [hroot] at hother
      cases hother
      rw [hkept] at hsome
      cases hsome
      exact ⟨cause, rfl, rfl, rfl, by rw [hworld, World.records_logUndiscovered]⟩

/-- A driver that is missing below the root makes no difference. A root that fails is kept with its
error, or refused with the same text and without it. -/
theorem createWithin_strict_failing :
    createWithin 3 {} true "nvcc a.cu" (.ofString "/work") nvccWorld =
      createWithin 3 {} false "nvcc a.cu" (.ofString "/work") nvccWorld ∧
    ∃ cause root, (createWithin 2 {} true "clang a.c" (.ofString "/work") failingWorld).1 =
        .error (.undiscovered cause root) ∧
      root.keptError? = none ∧
      (Failure.undiscovered cause root).message =
        "/bin/clang a.c -save-temps '-###'\nexited with status 1" := by
  constructor
  · obtain ⟨-, -, hsame, -⟩ := createWithin_strict 3 {} "nvcc a.cu" (.ofString "/work") nvccWorld
    have hkept : (createWithin 3 {} false "nvcc a.cu" (.ofString "/work")
        nvccWorld).1.toOption.map Command.keptError? = some none := by
      decide +kernel
    cases hmade : createWithin 3 {} false "nvcc a.cu" (.ofString "/work") nvccWorld with
    | mk made after =>
      rw [hmade] at hkept hsame
      cases made with
      | error failure => cases hkept
      | ok root => exact hsame root rfl (Option.some.inj hkept)
  · obtain ⟨-, -, -, hrefused⟩ :=
      createWithin_strict 2 {} "clang a.c" (.ofString "/work") failingWorld
    have hkept : (createWithin 2 {} false "clang a.c" (.ofString "/work")
        failingWorld).1.toOption.map (fun root => (root.keptError?.map (·.error.message),
          root.withoutError.keptError?)) =
        some (some "/bin/clang a.c -save-temps '-###'\nexited with status 1", none) := by
      decide +kernel
    cases hmade : createWithin 2 {} false "clang a.c" (.ofString "/work") failingWorld with
    | mk made after =>
      rw [hmade] at hkept hrefused
      cases made with
      | error failure => cases hkept
      | ok root =>
        obtain ⟨hmessage, hwithout⟩ := Prod.mk.inj (Option.some.inj hkept)
        obtain ⟨kept, hroot, hkeptMessage⟩ := Option.map_eq_some_iff.1 hmessage
        obtain ⟨cause, -, hstrict, hsameMessage, -⟩ := hrefused root kept rfl hroot
        exact ⟨cause, root.withoutError, hstrict, hwithout, hsameMessage.trans hkeptMessage⟩

end CompilerCommands
