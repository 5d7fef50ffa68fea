import UnitReview.CommandLine.Reader
import UnitReview.Proofs.Host.OsText

/-!
# Reading arguments step by step

One lemma for each way in which the reader of a program without commands goes on: a word becomes
the argument, an option waits for its value, a word becomes the value. In each the reader is left
with a state that says what is kept back, so that a command line is read by rewriting with them
from the left.
-/

set_option autoImplicit false

namespace UnitReview.CommandLine

open Host (OsText)

/-- An argument that does not start with a hyphen is a word. -/
theorem Shape.of_eq_word {s : OsText} (h : s.bytes.head? ≠ some hyphen) : Shape.of s = .word := by
  unfold Shape.of
  -- all other shapes start with a hyphen
  split
  next hs => simp [hs] at h
  next hs => simp [hs] at h
  next hs => simp [hs] at h
  next => rfl

variable {p : ProgramSpec} {c : CommandSpec} {top : Bool} {r r' : Reading} {word : OsText}
  {rest : List OsText}

/-- Without commands no word is one. -/
theorem command?_eq_none (hp : p.commands = []) (name : OsText) : p.command? name = none := by
  unfold ProgramSpec.command?
  rw [hp]
  rfl

/-- The first word is kept back as the argument. -/
theorem readArguments_argument {a : ArgumentSpec} (hp : p.commands = [])
    (hc : c.argument = some a) (hword : Shape.of word = .word) (htrailing : r.trailing = false)
    (hwaiting : r.waiting = false) (hplaced : r.placed = false) (hsettle : r.settle c = .ok r') :
    readArguments p c top r (word :: rest) =
      readArguments p c top
        { r' with
          pending := some ⟨a.name, a.display, a.taking, some word⟩
          waiting := false
          placed := true } rest := by
  rw [readArguments, htrailing, if_neg Bool.false_ne_true, hwaiting, command?_eq_none hp]
  simp only [ite_self, hword, Reading.takeWord, hc, hplaced, hsettle, bind, Except.bind, pure,
    Except.pure]

/-- An option whose value is a word of its own waits for it. -/
theorem readArguments_option {o : OptionSpec} {text : OsText} (hp : p.commands = [])
    (htext : Shape.of text = .long o.name none)
    (ho : c.options.find? (fun o' => OsText.ofString o'.name == o.name) = some o)
    (hvalue : o.taking.hasValue = true) (htrailing : r.trailing = false)
    (hsettle : r.settle c = .ok r') :
    readArguments p c top r (text :: rest) =
      readArguments p c top
        { r' with pending := some ⟨o.name, o.display, o.taking, none⟩, waiting := true } rest := by
  rw [readArguments, htrailing, if_neg Bool.false_ne_true, command?_eq_none hp]
  simp only [ite_self, htext, Reading.takeLong, ho, hvalue, if_true, Reading.takeOption, hsettle,
    bind, Except.bind, pure, Except.pure]

/-- What was kept back is checked before the option is looked at. -/
theorem readArguments_option_refused {o : OptionSpec} {text : OsText} {e : UsageError}
    (hp : p.commands = []) (htext : Shape.of text = .long o.name none)
    (ho : c.options.find? (fun o' => OsText.ofString o'.name == o.name) = some o)
    (hvalue : o.taking.hasValue = true) (htrailing : r.trailing = false)
    (hsettle : r.settle c = .error e) :
    readArguments p c top r (text :: rest) = .error e := by
  rw [readArguments, htrailing, if_neg Bool.false_ne_true, command?_eq_none hp]
  simp only [ite_self, htext, Reading.takeLong, ho, hvalue, if_true, Reading.takeOption, hsettle,
    bind, Except.bind]

/-- The word that an option waits for becomes its value. -/
theorem readArguments_value {w : Pending} (hword : Shape.of word = .word)
    (htrailing : r.trailing = false) (hwaiting : r.waiting = true) (hpending : r.pending = some w) :
    readArguments p c top r (word :: rest) =
      readArguments p c top
        { r with pending := some { w with value := some word }, waiting := false } rest := by
  rw [readArguments, htrailing, if_neg Bool.false_ne_true, hwaiting]
  simp only [Bool.not_true, Bool.and_false, Bool.false_eq_true, if_false, hword, hpending]

/-- A text that is kept back is taken at the end, if nothing of its name was taken before. -/
theorem settle_text {name display : String} {value : OsText}
    (hpending : r.pending = some ⟨name, display, .text, some value⟩)
    (hnew : r.found.value? name = none) (htext : value.isText = true) :
    r.settle c =
      .ok { r with
        pending := none
        found := { r.found with values := (name, value) :: r.found.values } } := by
  simp only [Reading.settle, hpending, Reading.accept, hnew, htext]
  rfl

/-- What has to be a text and is none is refused. -/
theorem settle_invalid {name display : String} {value : OsText}
    (hpending : r.pending = some ⟨name, display, .text, some value⟩)
    (hnew : r.found.value? name = none) (htext : value.isText = false) :
    r.settle c = .error (.invalidText c) := by
  simp only [Reading.settle, hpending, Reading.accept, hnew, htext]
  rfl

end UnitReview.CommandLine
