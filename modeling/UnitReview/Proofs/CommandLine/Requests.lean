import UnitReview.Proofs.CommandLine.Refusal

/-!
# Whose help is shown

A command line may ask for help instead of work. In a program without commands there is only one
thing that help can be about, the program itself: wherever the request stands among the arguments,
no other command is ever named in it (`asksFor_read`).
-/

set_option autoImplicit false

namespace UnitReview.CommandLine

open Host (OsText)

/-- If a computation ends in a request for help, it is help on the command. -/
def AsksFor {α : Type} (c : CommandSpec) (x : Except UsageError α) : Prop :=
  ∀ d, x = .error (.help d) → d = c

namespace AsksFor

variable {α β : Type} {c : CommandSpec}

theorem ok (a : α) : AsksFor c (.ok a) := by
  rintro d ⟨⟩

theorem bind {x : Except UsageError α} {f : α → Except UsageError β} (hx : AsksFor c x)
    (hf : ∀ a, AsksFor c (f a)) : AsksFor c (x >>= f) := by
  cases x with
  | error e =>
      rintro d ⟨⟩
      exact hx d rfl
  | ok a => exact hf a

end AsksFor

variable {p : ProgramSpec} {c : CommandSpec} {r : Reading}

namespace Reading

theorem asksFor_accept (w : Pending) : AsksFor c (r.accept c w) := by
  unfold accept
  split
  · rintro d ⟨⟩
  · split
    · rintro d ⟨⟩
    · split
      · rintro d ⟨⟩
      · split <;> rintro d ⟨⟩

theorem asksFor_settle : AsksFor c (r.settle c) := by
  unfold settle
  split
  · exact .ok _
  · exact asksFor_accept _

theorem asksFor_takeOption (o : OptionSpec) (attached : Option OsText) :
    AsksFor c (r.takeOption c o attached) := by
  unfold takeOption
  refine .bind asksFor_settle fun r => ?_
  cases attached with
  | none => exact .ok _
  | some v => exact .bind (asksFor_accept _) fun _ => .ok _

/-- Here help is asked for, on the command whose options are read. -/
theorem asksFor_takeFlag (o : OptionSpec) : AsksFor c (r.takeFlag c o) := by
  unfold takeFlag
  refine .bind asksFor_settle fun r => ?_
  split
  · rintro d ⟨⟩
    rfl
  · rintro d ⟨⟩
  · exact .ok _

theorem asksFor_takeLong (name : OsText) (attached : Option OsText) :
    AsksFor c (r.takeLong c name attached) := by
  unfold takeLong
  split
  · rintro d ⟨⟩
  · split
    · exact asksFor_takeOption _ _
    · split
      · rintro d ⟨⟩
      · exact asksFor_takeFlag _

theorem asksFor_takeLetters (letters : List Text.Stretch) :
    AsksFor c (takeLetters c r letters) := by
  induction letters generalizing r with
  | nil => exact .ok _
  | cons l rest ih =>
      cases l with
      | broken bs => rintro d ⟨⟩
      | char l =>
          rw [takeLetters]
          split
          · rintro d ⟨⟩
          · split
            · split <;> exact asksFor_takeOption _ _
            · exact .bind (asksFor_takeFlag _) fun _ => ih

theorem asksFor_takeWord (word : OsText) : AsksFor c (r.takeWord p c word) := by
  unfold takeWord
  split
  · exact .bind asksFor_settle fun _ => .ok _
  · split
    · rintro d ⟨⟩
    · split <;> rintro d ⟨⟩

end Reading

/-- Reading the arguments and going on with what was read: there is no command to go on with. -/
theorem asksFor_readArguments_bind {α : Type} (hp : p.commands = []) (top : Bool)
    {k : Reading × Option (CommandSpec × List OsText) → Except UsageError α}
    (hk : ∀ r, AsksFor c (k (r, none))) (args : List OsText) :
    AsksFor c (readArguments p c top r args >>= k) := by
  induction args generalizing r with
  | nil => exact hk r
  | cons a rest ih =>
      -- a step that takes something is followed by the rest of the arguments
      have hstep : ∀ {x : Except UsageError Reading}, AsksFor c x →
          AsksFor c (x >>= (fun r => readArguments p c top r rest) >>= k) := by
        intro x hx
        rw [bind_assoc]
        exact hx.bind fun _ => ih
      rw [readArguments, command?_eq_none hp]
      simp only [ite_self]
      split
      · exact hstep (Reading.asksFor_takeWord a)
      · split
        · exact ih
        · exact hstep (Reading.asksFor_takeLong _ _)
        · exact hstep (Reading.asksFor_takeLetters _)
        · split
          · exact ih
          · exact hstep (Reading.asksFor_takeWord a)

theorem asksFor_requireArgument (m : Matches) : AsksFor c (requireArgument c m) := by
  unfold requireArgument
  split
  · split
    · rintro d ⟨⟩
    · exact .ok _
  · exact .ok _

/-- **A program without commands is only ever asked for help on itself.** -/
theorem asksFor_read (hp : p.commands = []) (args : List OsText) :
    AsksFor p.main (read p args) := by
  refine asksFor_readArguments_bind hp true (fun r => ?_) args
  show AsksFor p.main (r.settle p.main >>= _)
  refine .bind Reading.asksFor_settle fun r => ?_
  rw [hp]
  exact .bind (asksFor_requireArgument _) fun _ => .ok _

end UnitReview.CommandLine
