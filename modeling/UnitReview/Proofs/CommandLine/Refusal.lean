import UnitReview.Proofs.CommandLine.Reader

/-!
# Arguments that are taken for options

An argument that starts with a hyphen and goes on is read as an option wherever it stands, unless
`--` stands before it. Two facts say what then becomes of a command line:

* an option that waits for its value does not get it from such an argument: the command line is
  refused, whatever follows (`refused_of_unfilled`);
* the argument of a program is not given by it either: as long as there are only options,
  the argument is missing (`OnlyOptions`, kept by every step), and a command line that ends in this
  way is refused.
-/

set_option autoImplicit false

namespace UnitReview.CommandLine

open Host (OsText)

/-- **What is taken for an option**: a hyphen and something behind it. -/
def LooksLikeOption (s : OsText) : Prop := s.bytes.head? = some hyphen ∧ s ≠ "-"

instance (s : OsText) : Decidable (LooksLikeOption s) := inferInstanceAs (Decidable (_ ∧ _))

theorem Shape.of_eq_word_iff {s : OsText} : Shape.of s = .word ↔ ¬ LooksLikeOption s := by
  have hhyphen : s = "-" ↔ s.bytes = [hyphen] := by
    cases s
    exact OsText.mk.injEq _ _ ▸ Iff.rfl
  rw [LooksLikeOption, ne_eq, hhyphen]
  unfold Shape.of
  split
  next h => simp [h]
  next h => split <;> simp [h]
  next h => simp [h]
  next h₁ h₂ h₃ =>
    refine ⟨fun _ => ?_, fun _ => rfl⟩
    rintro ⟨hhead, hne⟩
    cases hs : s.bytes with
    | nil => simp [hs] at hhead
    | cons x xs =>
        rw [hs, List.head?_cons, Option.some.injEq] at hhead
        subst hhead
        cases xs with
        | nil => exact hne hs
        | cons y ys => exact h₃ y ys hs

/-! ## Refusals -/

/-- A computation that ends in an error. -/
def Refused {α : Type} (x : Except UsageError α) : Prop := ∃ e, x = .error e

theorem Refused.bind {α β : Type} {x : Except UsageError α} (h : Refused x)
    (f : α → Except UsageError β) : Refused (x >>= f) := by
  obtain ⟨e, rfl⟩ := h
  exact ⟨e, rfl⟩

theorem refused_bind {α β : Type} {x : Except UsageError α} {f : α → Except UsageError β}
    (h : ∀ a, x = .ok a → Refused (f a)) : Refused (x >>= f) := by
  cases x with
  | error e => exact ⟨e, rfl⟩
  | ok a => exact h a rfl

theorem exists_of_bind_ok {α β : Type} {x : Except UsageError α} {f : α → Except UsageError β}
    {b : β} (h : x >>= f = .ok b) : ∃ a, x = .ok a ∧ f a = .ok b := by
  cases x with
  | error e => cases h
  | ok a => exact ⟨a, rfl, h⟩

variable {p : ProgramSpec} {c : CommandSpec} {r r' : Reading} {text : OsText} {rest : List OsText}

/-- What is left to do after the last argument. -/
def finish (c : CommandSpec) (r : Reading) : Except UsageError Matches := do
  let r ← r.settle c
  requireArgument c r.found
  pure r.found

/-- What becomes of the rest of a command line. -/
def readRest (p : ProgramSpec) (r : Reading) (rest : List OsText) : Except UsageError Matches := do
  let (r, _) ← readArguments p p.main true r rest
  finish p.main r

theorem readRest_congr {r' : Reading} {rest' : List OsText}
    (h : readArguments p p.main true r rest = readArguments p p.main true r' rest') :
    readRest p r rest = readRest p r' rest' := by
  rw [readRest, readRest, h]

theorem refused_finish_of_settle (h : Refused (r.settle c)) : Refused (finish c r) := h.bind _

/-- What is refused at the end of the arguments is refused of a whole command line: a command that
ends them changes nothing. -/
theorem refused_read {args : List OsText} (h : Refused (readRest p .start args)) :
    Refused (read p args) := by
  unfold read
  apply refused_bind
  rintro ⟨r, next⟩ hread
  rw [readRest, hread] at h
  -- with or without a command, the options before it are checked last
  have hlast : ∀ command, Refused (do
      let r ← r.settle p.main
      if command.isNone && !p.commands.isEmpty then
        throw (if r.found.isEmpty then .nothingGiven p.main else .missingCommand p.main)
      requireArgument p.main r.found
      pure (⟨r.found, command⟩ : Parsed)) := by
    intro command
    apply refused_bind
    intro r' hsettle
    have hrequire : Refused (requireArgument p.main r'.found) := by
      cases hrequire : requireArgument p.main r'.found with
      | error e => exact ⟨e, rfl⟩
      | ok _ =>
          obtain ⟨e, he⟩ := h
          simp [finish, bind, Except.bind, hsettle, hrequire, pure, Except.pure] at he
    split
    · exact ⟨_, rfl⟩
    · exact hrequire.bind _
  cases next with
  | none => exact hlast none
  | some d => exact refused_bind fun m _ => hlast (some (d.1, m))

namespace Reading

/-! ## Options without a value -/

/-- An option is kept back, and its value has not come. -/
def Unfilled (r : Reading) : Prop := ∃ w, r.pending = some w ∧ w.value = none

theorem Unfilled.refused_settle (h : r.Unfilled) (c : CommandSpec) : Refused (r.settle c) := by
  obtain ⟨w, hpending, hvalue⟩ := h
  refine ⟨.missingValue w.display, ?_⟩
  simp only [settle, hpending, accept, hvalue]

theorem refused_takeLong (h : Refused (r.settle c)) (name : OsText) (attached : Option OsText) :
    Refused (r.takeLong c name attached) := by
  unfold takeLong
  split
  · exact ⟨_, rfl⟩
  · split
    · exact h.bind _
    · split
      · exact ⟨_, rfl⟩
      · exact h.bind _

theorem refused_takeLetters (h : Refused (r.settle c)) (l : Text.Stretch)
    (ls : List Text.Stretch) : Refused (r.takeLetters c (l :: ls)) := by
  cases l with
  | broken bs => exact ⟨_, rfl⟩
  | char l =>
      unfold takeLetters
      split
      · exact ⟨_, rfl⟩
      · split
        · split
          · exact h.bind _
          · exact h.bind _
          · exact h.bind _
        · exact Refused.bind (h.bind _) _

theorem refused_takeWord (h : Refused (r.settle c)) (word : OsText) :
    Refused (r.takeWord p c word) := by
  unfold takeWord
  split
  · exact h.bind _
  · split
    · exact ⟨_, rfl⟩
    · split
      · exact ⟨_, rfl⟩
      · exact ⟨_, rfl⟩

/-! ## Readings of options alone -/

/-- **There have been only options so far**: the argument is neither among what was found nor kept
back, and no `--` has come. -/
structure OnlyOptions (r : Reading) (argument : String) : Prop where
  trailing : r.trailing = false
  found : r.found.value? argument = none
  pending : ∀ w ∈ r.pending, w.name ≠ argument

theorem onlyOptions_start (argument : String) : start.OnlyOptions argument :=
  ⟨rfl, rfl, by rintro w ⟨⟩⟩

namespace OnlyOptions

variable {argument : String} {w : Pending} {o : OptionSpec}

theorem accept (h : r.OnlyOptions argument) (hw : w.name ≠ argument)
    (hr : r.accept c w = .ok r') : r'.OnlyOptions argument := by
  unfold Reading.accept at hr
  split at hr
  · cases hr
  · split at hr
    · cases hr
    · split at hr
      · cases hr
      · split at hr
        · cases hr
        · cases hr
          refine ⟨h.trailing, ?_, h.pending⟩
          have hne : (argument == w.name) = false := beq_false_of_ne (Ne.symm hw)
          rw [Matches.value?, List.lookup_cons, hne]
          exact h.found

theorem settle (h : r.OnlyOptions argument) (hr : r.settle c = .ok r') :
    r'.OnlyOptions argument := by
  unfold Reading.settle at hr
  cases hpending : r.pending with
  | none =>
      rw [hpending] at hr
      cases hr
      exact h
  | some w =>
      rw [hpending] at hr
      have hbare : { r with pending := none }.OnlyOptions argument :=
        ⟨h.trailing, h.found, by rintro w ⟨⟩⟩
      exact hbare.accept (h.pending w hpending) hr

/-- An option that is kept back, with or without its value, changes nothing. -/
theorem keepBack (h : r.OnlyOptions argument) (hw : w.name ≠ argument) (waiting : Bool) :
    { r with pending := some w, waiting := waiting }.OnlyOptions argument :=
  ⟨h.trailing, h.found, by rintro v ⟨⟩; exact hw⟩

theorem takeOption {attached : Option OsText} (h : r.OnlyOptions argument)
    (ho : o.name ≠ argument) (hr : r.takeOption c o attached = .ok r') :
    r'.OnlyOptions argument := by
  obtain ⟨r₁, hsettle, hr⟩ := exists_of_bind_ok hr
  have h₁ := h.settle hsettle
  cases attached with
  | none =>
      cases hr
      exact h₁.keepBack ho true
  | some v =>
      obtain ⟨r₂, haccept, hr⟩ := exists_of_bind_ok hr
      cases hr
      have h₂ := h₁.accept ho haccept
      exact ⟨h₂.trailing, h₂.found, h₂.pending⟩

theorem takeFlag (h : r.OnlyOptions argument) (hr : r.takeFlag c o = .ok r') :
    r'.OnlyOptions argument := by
  obtain ⟨r₁, hsettle, hr⟩ := exists_of_bind_ok hr
  have h₁ := h.settle hsettle
  split at hr
  · cases hr
  · cases hr
  · cases hr
    exact ⟨h₁.trailing, h₁.found, h₁.pending⟩

theorem takeLong {name : OsText} {attached : Option OsText} (h : r.OnlyOptions argument)
    (hc : ∀ o ∈ c.options, o.name ≠ argument) (hr : r.takeLong c name attached = .ok r') :
    r'.OnlyOptions argument := by
  unfold Reading.takeLong at hr
  split at hr
  · cases hr
  next o ho =>
    split at hr
    · exact h.takeOption (hc o (List.mem_of_find?_eq_some ho)) hr
    · split at hr
      · cases hr
      · exact h.takeFlag hr

theorem takeLetters {ls : List Text.Stretch} (h : r.OnlyOptions argument)
    (hc : ∀ o ∈ c.options, o.name ≠ argument) (hr : r.takeLetters c ls = .ok r') :
    r'.OnlyOptions argument := by
  induction ls generalizing r with
  | nil =>
      cases hr
      exact h
  | cons l ls ih =>
      cases l with
      | broken bs => cases hr
      | char l =>
          unfold Reading.takeLetters at hr
          split at hr
          · cases hr
          next o ho =>
            have hname := hc o (List.mem_of_find?_eq_some ho)
            split at hr
            · split at hr
              · exact h.takeOption hname hr
              · exact h.takeOption hname hr
              · exact h.takeOption hname hr
            · obtain ⟨r₁, hflag, hr⟩ := exists_of_bind_ok hr
              exact ih (h.takeFlag hflag) hr

/-- **Without its argument a command line is refused.** -/
theorem refused_finish {a : ArgumentSpec} (ha : c.argument = some a) (hrequired : a.required = true)
    (h : r.OnlyOptions a.name) : Refused (finish c r) := by
  apply refused_bind
  intro r' hsettle
  refine Refused.bind ⟨.missingArgument c a.display, ?_⟩ _
  simp only [requireArgument, ha, hrequired, (h.settle hsettle).found, Option.isNone_none,
    Bool.and_self, if_true]

end OnlyOptions

end Reading

/-! ## One argument that looks like an option -/

theorem Shape.cases_of_looksLikeOption (h : LooksLikeOption text) :
    (text = "--" ∧ Shape.of text = .escape) ∨
      (∃ name attached, Shape.of text = .long name attached) ∨
        ∃ l ls, Shape.of text = .letters (l :: ls) := by
  have hword := mt Shape.of_eq_word_iff.1 (not_not_intro h)
  revert hword
  unfold Shape.of
  split
  next hs =>
    intro _
    refine .inl ⟨?_, rfl⟩
    cases text
    exact congrArg OsText.mk hs
  next =>
    intro _
    right; left
    split
    · exact ⟨_, _, rfl⟩
    · exact ⟨_, _, rfl⟩
  next =>
    intro _
    exact .inr (.inr ⟨_, _, rfl⟩)
  next =>
    intro hword
    exact absurd rfl hword

section

variable (hp : p.commands = []) (htrailing : r.trailing = false)

include hp htrailing

theorem readRest_escape (htext : Shape.of text = .escape) :
    readRest p r (text :: rest) = readRest p { r with trailing := true } rest := by
  apply readRest_congr
  rw [readArguments, htrailing, if_neg Bool.false_ne_true, command?_eq_none hp]
  simp only [ite_self, htext]

theorem readRest_long {name : OsText} {attached : Option OsText}
    (htext : Shape.of text = .long name attached) :
    readRest p r (text :: rest) =
      r.takeLong p.main name attached >>= fun r => readRest p r rest := by
  unfold readRest
  rw [readArguments, htrailing, if_neg Bool.false_ne_true, command?_eq_none hp]
  simp only [ite_self, htext]
  cases r.takeLong p.main name attached <;> rfl

theorem readRest_letters {ls : List Text.Stretch} (htext : Shape.of text = .letters ls) :
    readRest p r (text :: rest) = r.takeLetters p.main ls >>= fun r => readRest p r rest := by
  unfold readRest
  rw [readArguments, htrailing, if_neg Bool.false_ne_true, command?_eq_none hp]
  simp only [ite_self, htext]
  cases r.takeLetters p.main ls <;> rfl

/-- **An option does not get its value from what looks like an option**: the command line is
refused, whatever follows. -/
theorem refused_of_unfilled (hunfilled : r.Unfilled) (htext : LooksLikeOption text) :
    Refused (readRest p r (text :: rest)) := by
  have hsettle := hunfilled.refused_settle p.main
  rcases Shape.cases_of_looksLikeOption htext with ⟨-, hs⟩ | ⟨name, attached, hs⟩ | ⟨l, ls, hs⟩
  · -- what follows is positional, but the option is asked for its value first
    rw [readRest_escape hp htrailing hs]
    have hunfilled' : { r with trailing := true }.Unfilled := hunfilled
    have hsettle' := hunfilled'.refused_settle p.main
    cases rest with
    | nil => exact refused_finish_of_settle hsettle'
    | cons word rest =>
        unfold readRest
        rw [readArguments, if_pos rfl]
        exact Refused.bind ((Reading.refused_takeWord hsettle' word).bind _) _
  · rw [readRest_long hp htrailing hs]
    exact (Reading.refused_takeLong hsettle name attached).bind _
  · rw [readRest_letters hp htrailing hs]
    exact (Reading.refused_takeLetters hsettle l ls).bind _

end

namespace Reading.OnlyOptions

/-- An option that is followed by its value leaves the argument missing. -/
theorem refused_option {a : ArgumentSpec} {o : OptionSpec} (hp : p.commands = [])
    (ha : p.main.argument = some a) (hrequired : a.required = true)
    (ho : p.main.options.find? (fun o' => OsText.ofString o'.name == o.name) = some o)
    (hvalue : o.taking.hasValue = true) (hname : o.name ≠ a.name)
    (htext : Shape.of text = .long o.name none) (h : r.OnlyOptions a.name) (value : OsText) :
    Refused (readRest p r [text, value]) := by
  cases hsettle : r.settle p.main with
  | error e =>
      have hrefused : Refused (r.settle p.main) := ⟨e, hsettle⟩
      rw [readRest_long hp h.trailing htext]
      exact (refused_takeLong hrefused _ none).bind _
  | ok r₁ =>
      have h₁ := h.settle hsettle
      rw [readRest_congr (readArguments_option hp htext ho hvalue h.trailing hsettle)]
      -- the option now waits: its value comes, and the argument is missing, or it does not come
      by_cases hlooks : LooksLikeOption value
      · exact refused_of_unfilled hp h₁.trailing ⟨_, rfl, rfl⟩ hlooks
      · have hword := Shape.of_eq_word_iff.2 hlooks
        rw [readRest_congr (readArguments_value
          (r := { r₁ with pending := some ⟨o.name, o.display, o.taking, none⟩, waiting := true })
          hword h₁.trailing rfl rfl)]
        exact refused_finish ha hrequired
          (h₁.keepBack (w := ⟨o.name, o.display, o.taking, some value⟩) hname false)

/-- **The argument is not given by what looks like an option**: if what follows is refused after
options alone, so is the command line. -/
theorem refused_text {argument : String} (hp : p.commands = [])
    (hoptions : ∀ o ∈ p.main.options, o.name ≠ argument) (htext : LooksLikeOption text)
    (hescape : text ≠ "--") (h : r.OnlyOptions argument)
    (hrest : ∀ r', r'.OnlyOptions argument → Refused (readRest p r' rest)) :
    Refused (readRest p r (text :: rest)) := by
  rcases Shape.cases_of_looksLikeOption htext with ⟨htext', -⟩ | ⟨name, attached, hs⟩ | ⟨l, ls, hs⟩
  · exact absurd htext' hescape
  · rw [readRest_long hp h.trailing hs]
    exact refused_bind fun r' hr => hrest r' (h.takeLong hoptions hr)
  · rw [readRest_letters hp h.trailing hs]
    exact refused_bind fun r' hr => hrest r' (h.takeLetters hoptions hr)

end Reading.OnlyOptions

end UnitReview.CommandLine
