/-!
# Environments

The variables of a process, each with one value.
-/

namespace CompilerCommands

structure Environment where
  vars : List (String × String) := []
  deriving DecidableEq, Repr

namespace Environment

def get? (env : Environment) (name : String) : Option String :=
  (env.vars.find? (·.1 == name)).map (·.2)

def erase (env : Environment) (name : String) : Environment :=
  ⟨env.vars.filter (·.1 != name)⟩

def set (env : Environment) (name value : String) : Environment :=
  ⟨(env.erase name).vars ++ [(name, value)]⟩

/-- `env` with the variables of `changes` in place of its own. -/
def override (env changes : Environment) : Environment :=
  ⟨env.vars.filter (fun v => (changes.get? v.1).isNone) ++ changes.vars⟩

theorem get?_erase (env : Environment) (name other : String) :
    (env.erase name).get? other = if other = name then none else env.get? other := by
  simp only [get?, erase, List.find?_filter]
  split
  · next h =>
    subst h
    rw [List.find?_eq_none.2] <;> simp
  · next h =>
    congr 2
    funext v
    by_cases hv : v.1 = other <;> simp_all

theorem get?_set (env : Environment) (name value other : String) :
    (env.set name value).get? other = if other = name then some value else env.get? other := by
  have h := env.get?_erase name other
  simp only [get?] at h ⊢
  rw [set, List.find?_append, Option.map_or, h]
  by_cases ho : other = name
  · simp [ho]
  · have : (name == other) = false := by simpa using Ne.symm ho
    simp [ho, this]

theorem get?_override (env changes : Environment) (name : String) :
    (env.override changes).get? name = (changes.get? name).or (env.get? name) := by
  have h : ((env.vars.filter fun v => (changes.get? v.1).isNone).find? (·.1 == name)) =
      if (changes.get? name).isNone then env.vars.find? (·.1 == name) else none := by
    rw [List.find?_filter]
    split
    · next hn =>
      congr 1
      funext v
      by_cases hv : v.1 = name <;> simp_all
    · next hn =>
      rw [List.find?_eq_none.2]
      intro v _ hv
      simp only [beq_iff_eq, decide_eq_true_eq] at hv
      exact hn (hv.2 ▸ hv.1)
  rw [get?, override, List.find?_append, h]
  cases hc : changes.get? name with
  | none =>
    have : changes.vars.find? (·.1 == name) = none := by simpa [get?] using hc
    simp [this, get?]
  | some value => simp only [get?] at hc; simp [hc]

end Environment

end CompilerCommands
