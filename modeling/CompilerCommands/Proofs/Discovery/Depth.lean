import CompilerCommands.Proofs.Discovery.Cases

/-!
# Looking deeper

Discovery follows drivers down to the depth that the stack of calls holds. What it comes to at one
depth it comes to at every greater one, unless the depth was too small.
-/

namespace CompilerCommands

/-- What comes of looking deeper is the same, unless the depth was too small. -/
def SameDeeper {α : Type} (shallow deep : Except Failure α × World) : Prop :=
  (∃ after, shallow = (.error .tooDeep, after)) ∨ deep = shallow

theorem SameDeeper.refl {α : Type} (result : Except Failure α × World) :
    SameDeeper result result := .inr rfl

theorem SameDeeper.trans {α : Type} {first second third : Except Failure α × World}
    (h : SameDeeper first second) (h' : SameDeeper second third) : SameDeeper first third := by
  obtain h | rfl := h
  · exact .inl h
  · exact h'

theorem SameDeeper.eq {α : Type} {shallow deep : Except Failure α × World}
    (h : SameDeeper shallow deep) (hdone : shallow.1 ≠ .error .tooDeep) : deep = shallow := by
  obtain ⟨after, rfl⟩ | h := h
  · exact absurd rfl hdone
  · exact h

/-- What is found at one depth is all that is found at any other. -/
theorem SameDeeper.of_done {α : Type} (found : Nat → Except Failure α × World)
    (h : ∀ {depth deeper}, depth ≤ deeper → SameDeeper (found depth) (found deeper)) {enough : Nat}
    (hdone : (found enough).1 ≠ .error .tooDeep) (depth : Nat) :
    SameDeeper (found depth) (found enough) := by
  obtain hle | hle := Nat.le_total depth enough
  · exact h hle
  · rw [(h hle).eq hdone]
    exact .refl _

def Discoverer.Deeper (shallow deep : Discoverer) : Prop :=
  ∀ here kind call state jobs world, SameDeeper (shallow here kind call state jobs world)
    (deep here kind call state jobs world)

section

variable {shallow deep : Discoverer}

theorem sameDeeper_nestedDriver (hd : shallow.Deeper deep) (position : Position) (kind : Driver)
    (call : Invocation) (world : World) :
    SameDeeper (nestedDriver shallow position kind call world)
      (nestedDriver deep position kind call world) := by
  unfold nestedDriver
  obtain ⟨after, h⟩ | h := hd position kind call {} [] world
  · rw [h]
    exact .inl ⟨after, rfl⟩
  · rw [h]
    exact .refl _

theorem sameDeeper_jobCommand (hd : shallow.Deeper deep) (here : Position) (parent : Invocation)
    (n : Nat) (job : Job) (world : World) :
    SameDeeper (jobCommand shallow here parent n job world)
      (jobCommand deep here parent n job world) := by
  unfold jobCommand
  simp only
  split
  · exact sameDeeper_nestedDriver hd _ _ _ world
  · exact .refl _
  · exact .refl _

theorem sameDeeper_jobCommands (hd : shallow.Deeper deep) (here : Position) (parent : Invocation)
    (n : Nat) (planned : List Job) (world : World) :
    SameDeeper (jobCommands shallow here parent n planned world)
      (jobCommands deep here parent n planned world) := by
  induction planned generalizing n world with
  | nil => exact .refl _
  | cons job rest ih =>
    have hfirst := sameDeeper_jobCommand hd here parent n job world
    rw [jobCommands_cons, jobCommands_cons]
    generalize jobCommand shallow here parent n job world = first,
      jobCommand deep here parent n job world = deepFirst at hfirst
    obtain ⟨after, rfl⟩ | rfl := hfirst
    · exact .inl ⟨after, rfl⟩
    · obtain ⟨failure | command, mid⟩ := deepFirst
      · exact .refl _
      · simp only
        obtain ⟨after, h⟩ | h := ih (n + 1) mid
        · rw [h]
          exact .inl ⟨after, rfl⟩
        · rw [h]
          exact .refl _

theorem deeper_discoverWith (hd : shallow.Deeper deep) (terms : Terms) :
    (discoverWith shallow terms).Deeper (discoverWith deep terms) := by
  intro here kind call state jobs world
  unfold discoverWith
  split
  · exact .refl _
  · split
    · exact .refl _
    · exact .refl _
    · next planned mid _ =>
      obtain ⟨after, h⟩ | h := sameDeeper_jobCommands hd here call 0 planned mid
      · rw [h]
        exact .inl ⟨after, rfl⟩
      · rw [h]
        exact .refl _

end

theorem deeper_discoverWithin_succ (terms : Terms) (depth : Nat) :
    (discoverWithin terms depth).Deeper (discoverWithin terms (depth + 1)) := by
  induction depth with
  | zero => exact fun _ _ _ _ _ world => .inl ⟨world, rfl⟩
  | succ depth ih => exact deeper_discoverWith ih terms

theorem deeper_discoverWithin (terms : Terms) {depth deeper : Nat} (h : depth ≤ deeper) :
    (discoverWithin terms depth).Deeper (discoverWithin terms deeper) := by
  induction h with
  | refl => exact fun _ _ _ _ _ _ => .refl _
  | step _ ih =>
    intro here kind call state jobs world
    exact (ih here kind call state jobs world).trans
      (deeper_discoverWithin_succ terms _ here kind call state jobs world)

theorem jobCommands_of_done {terms : Terms} {here : Position} {parent : Invocation} {n : Nat}
    {planned : List Job} {world after : World} {enough : Nat} {commands : List Command}
    (h : jobCommands (discoverWithin terms enough) here parent n planned world =
      (.ok commands, after)) (depth : Nat) :
    SameDeeper (jobCommands (discoverWithin terms depth) here parent n planned world)
      (.ok commands, after) := by
  rw [← h]
  refine SameDeeper.of_done
    (fun depth => jobCommands (discoverWithin terms depth) here parent n planned world)
    (fun hle => sameDeeper_jobCommands (deeper_discoverWithin terms hle) ..) ?_ depth
  rw [h]
  exact nofun

theorem sameDeeper_settle (strict : Bool) (kind : Driver) (call : Invocation)
    {shallow deep : Except Failure Discovered × World} (h : SameDeeper shallow deep) :
    SameDeeper (settle strict kind call shallow) (settle strict kind call deep) := by
  obtain ⟨after, rfl⟩ | rfl := h
  · exact .inl ⟨after, rfl⟩
  · exact .refl _

/-- A creation comes to the same at every depth that is not too small. -/
theorem sameDeeper_createWithin (terms : Terms) (strict : Bool) (line : String) (dir : Path)
    (world : World) {depth deeper : Nat} (h : depth ≤ deeper) :
    SameDeeper (createWithin depth terms strict line dir world)
      (createWithin deeper terms strict line dir world) := by
  unfold createWithin
  split
  · exact .refl _
  · unfold createFromWords
    split
    · exact .refl _
    · simp only
      split
      · exact .refl _
      · exact .refl _
      · exact sameDeeper_settle strict _ _ (deeper_discoverWithin terms h ..)

end CompilerCommands
