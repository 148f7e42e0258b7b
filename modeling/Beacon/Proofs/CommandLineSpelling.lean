import Beacon.CommandLine
import Beacon.Proofs.Json.Meaning

/-!
# Spellings of a command line

What a command line says can be spelled in many ways: in any order, each option
by its letter or by its name, its value attached or in an argument of its own,
a number with a sign and zeros, and the duty behind `--`.  They are all read as
the same command line.

* `Numeral` are the texts of a number, and `Style` the ways to give an option its
  value.  `Spelling` puts them together argument by argument, and `Arrangement`
  adds the `--`.
* `word_of_numeral`: every text of a number is read as that number.
* `Progress.Stands` is the invariant of the arguments that have been taken: once
  the value that was put aside is looked at, they give some command line.  Its
  lemmas say what an option and what a value of its own add to that.
-/

namespace Beacon.CommandLine

open Json (Digit)
open Json.Number (ofDigits)

/-! ## What is spelled -/

def digitChar (d : Digit) : Char := Char.ofNat ('0'.toNat + d.val)

/-- The texts of a number: digits of that value, with zeros in front of them or
not, and a plus sign in front of all or not. -/
inductive Numeral (n : UInt32) : String → Prop where
  | plain {digits : List Digit} {text : String} :
    digits ≠ [] → ofDigits digits = n.toNat → text.toList = digits.map digitChar →
      Numeral n text
  | signed {digits : List Digit} {text : String} :
    digits ≠ [] → ofDigits digits = n.toNat → text.toList = '+' :: digits.map digitChar →
      Numeral n text

/-- The ways to give an option its value. -/
inductive Style where
  /-- Right behind the letter. -/
  | joined
  /-- Behind the letter and an equals sign. -/
  | equated
  /-- In the argument behind the letter. -/
  | apart
  /-- Behind the name and an equals sign. -/
  | longEquated
  /-- In the argument behind the name. -/
  | longApart
deriving DecidableEq

/-- The arguments that give an option its value. -/
def Style.arguments (letter name value : String) : Style → List String
  | joined => ["-" ++ letter ++ value]
  | equated => ["-" ++ letter ++ "=" ++ value]
  | apart => ["-" ++ letter, value]
  | longEquated => ["--" ++ name ++ "=" ++ value]
  | longApart => ["--" ++ name, value]

/-- Whether a value can be told from other arguments: one that is joined to its letter must not
begin with an equals sign, and one of its own not with a dash, unless it is a lone dash. -/
def Style.Admits (value : String) : Style → Prop
  | joined => value.toList.head? ≠ some '='
  | apart | longApart => value.toList.head? = some '-' → value = "-"
  | equated | longEquated => True

/-- The arguments that give a command line, in any order, each part once. -/
inductive Spelling : CommandLine → List String → Prop where
  | nothing : Spelling {} []
  | duty {line : CommandLine} {arguments : List String} {n : UInt32} {value : String} :
    Spelling line arguments → line.duty = none → Numeral n value →
      Spelling { line with duty := some n } (arguments ++ [value])
  | period {line : CommandLine} {arguments : List String} {n : UInt32} {value : String}
    (style : Style) :
    Spelling line arguments → line.periodMs = none → Numeral n value →
      Spelling { line with periodMs := some n }
        (arguments ++ style.arguments "p" "period-ms" value)
  | config {line : CommandLine} {arguments : List String} {path : String} (style : Style) :
    Spelling line arguments → line.config = none → path ≠ "" → style.Admits path →
      Spelling { line with config := some path } (arguments ++ style.arguments "c" "config" path)

/-- The arguments that give a command line, the duty possibly last and behind `--`. -/
inductive Arrangement : CommandLine → List String → Prop where
  | plain {line : CommandLine} {arguments : List String} :
    Spelling line arguments → Arrangement line arguments
  | terminated {line : CommandLine} {arguments : List String} {n : UInt32} {value : String} :
    Spelling line arguments → line.duty = none → Numeral n value →
      Arrangement { line with duty := some n } (arguments ++ ["--", value])

/-! ## Numbers -/

theorem digit?_digitChar (d : Digit) : digit? (digitChar d) = some d.val := by
  revert d
  decide

theorem digits_of_le {bound : Nat} {beyond : NumberFault} {number : Nat} {spelled : List Digit}
    (h : spelled.foldl (fun n d => 10 * n + d.val) number ≤ bound) :
    digits bound beyond number (spelled.map digitChar) =
      .ok (spelled.foldl (fun n d => 10 * n + d.val) number) := by
  induction spelled generalizing number with
  | nil => rfl
  | cons d rest ih =>
    have hgrows := Json.Number.le_foldl_digits rest (10 * number + d.val)
    have hwithin : ¬bound < 10 * number + d.val :=
      Nat.not_lt.mpr (Nat.le_trans hgrows h)
    rw [List.map_cons, digits, digit?_digitChar]
    simp only [if_neg hwithin]
    exact ih h

theorem unsigned_of_le {beyond : NumberFault} {spelled : List Digit} (hsome : spelled ≠ [])
    (h : ofDigits spelled ≤ largest) :
    unsigned largest beyond (spelled.map digitChar) = .ok (ofDigits spelled) := by
  cases spelled with
  | nil => exact absurd rfl hsome
  | cons d rest => exact digits_of_le h

theorem digitChar_ne {c : Char} (h : digit? c = none) (d : Digit) : digitChar d ≠ c := by
  rintro rfl
  rw [digit?_digitChar] at h
  cases h

/-- Digits without a sign are read as a number. -/
theorem integer_digits {spelled : List Digit} (hsome : spelled ≠ []) :
    integer (spelled.map digitChar) =
      (unsigned largest .tooLarge (spelled.map digitChar)).map Int.ofNat := by
  cases spelled with
  | nil => exact absurd rfl hsome
  | cons d rest =>
    rw [List.map_cons]
    unfold integer
    split
    · next h => cases h
    · next h => exact absurd (List.cons.inj h).1 (digitChar_ne rfl d)
    · next h => exact absurd (List.cons.inj h).1 (digitChar_ne rfl d)
    · rfl

theorem word_of_integer {text : List Char} {n : UInt32} (h : integer text = .ok n.toNat) :
    word text = .ok n := by
  unfold word
  rw [h]
  have hsize := n.toNat_lt
  simp only
  rw [if_pos ⟨Int.natCast_nonneg _, Int.ofNat_lt.mpr hsize⟩]
  simp

/-- Every text of a number is read as that number. -/
theorem word_of_numeral {n : UInt32} {text : String} (h : Numeral n text) :
    word text.toList = .ok n := by
  have hlargest : n.toNat ≤ largest := Nat.le_trans (Nat.le_of_lt n.toNat_lt) (by decide)
  apply word_of_integer
  cases h with
  | plain hsome hvalue htext =>
    rw [← hvalue] at hlargest
    rw [htext, integer_digits hsome, unsigned_of_le hsome hlargest, hvalue]
    rfl
  | signed hsome hvalue htext =>
    rw [← hvalue] at hlargest
    rw [htext, integer, unsigned_of_le hsome hlargest, hvalue]
    rfl

/-! ## Arguments -/

/-- A value of its own is not taken for an option. -/
theorem Form.of_value {argument : List Char}
    (h : argument.head? = some '-' → argument = ['-']) : Form.of argument = .value := by
  rcases argument with _ | ⟨c, rest⟩
  · rfl
  · by_cases hdash : c = '-'
    · subst hdash
      rw [h rfl]
      rfl
    · unfold Form.of
      split
      · next heq => exact absurd (List.cons.inj heq).1 hdash
      · next heq => exact absurd (List.cons.inj heq).1 hdash
      · next heq => exact absurd (List.cons.inj heq).1 hdash
      · rfl

theorem attached_of_ne {value : List Char} (hsome : value ≠ []) (h : value.head? ≠ some '=') :
    attached value = some value := by
  rcases value with _ | ⟨c, rest⟩
  · exact absurd rfl hsome
  · have hc : c ≠ '=' := by simpa using h
    unfold attached
    split
    · next heq => cases heq
    · next heq => exact absurd (List.cons.inj heq).1 hc
    · next heq => rfl

/-- A number can be given in every style. -/
theorem Numeral.toList_ne {n : UInt32} {text : String} (h : Numeral n text) :
    text.toList ≠ [] ∧ text.toList.head? ≠ some '=' ∧ text.toList.head? ≠ some '-' := by
  cases h with
  | @plain spelled _ hsome _ htext =>
    cases spelled with
    | nil => exact absurd rfl hsome
    | cons d rest =>
      rw [htext]
      simp [digitChar_ne (c := '=') rfl, digitChar_ne (c := '-') rfl]
  | signed _ _ htext =>
    rw [htext]
    simp

theorem Numeral.admits {n : UInt32} {text : String} (h : Numeral n text) (style : Style) :
    style.Admits text := by
  obtain ⟨-, hequals, hdash⟩ := h.toList_ne
  cases style with
  | joined => exact hequals
  | apart | longApart => exact fun hhead => absurd hhead hdash
  | equated | longEquated => trivial

theorem Numeral.form {n : UInt32} {text : String} (h : Numeral n text) :
    Form.of text.toList = .value :=
  Form.of_value fun hdash => absurd hdash h.toList_ne.2.2

/-! ## Taking arguments -/

namespace Progress

/-- The command line that the arguments so far give, once the value that was put
aside is looked at. -/
def owed (p : Progress) : Except Halt CommandLine :=
  match p.pending with
  | none => .ok p.line
  | some (parameter, none) => .error (.fault (.missing parameter))
  | some (parameter, some value) => assign p.line parameter value

theorem settle_eq (p : Progress) :
    settle p = p.owed.map fun line => { p with line, pending := none } := by
  obtain ⟨line, pending, dutyTaken, valuesOnly⟩ := p
  rcases pending with _ | ⟨parameter, _ | value⟩ <;> rfl

/-- The arguments so far give a command line. No option waits for its value, and
there was no `--`. -/
structure Stands (p : Progress) (line : CommandLine) : Prop where
  owes : p.owed = .ok line
  filled : ∀ parameter, p.pending ≠ some (parameter, none)
  taken : p.dutyTaken = line.duty.isSome
  optional : p.valuesOnly = false

variable {p : Progress} {line next : CommandLine} {parameter : Parameter} {value : List Char}

theorem Stands.start : Stands {} {} where
  owes := rfl
  filled := by intro parameter h; cases h
  taken := rfl
  optional := rfl

theorem Stands.settle_eq (h : p.Stands line) :
    settle p = .ok { p with line, pending := none } := by
  rw [Progress.settle_eq, h.owes]
  rfl

/-- An option with its value attached. -/
theorem Stands.option_attached (h : p.Stands line)
    (hassign : assign line parameter value = .ok next) (hduty : next.duty = line.duty) :
    ∃ p', option p parameter (some value) = .ok p' ∧ p'.Stands next := by
  refine ⟨{ p with line := next, pending := none }, ?_, rfl, ?_, ?_, h.optional⟩
  · unfold option
    rw [h.settle_eq]
    simp [hassign, Except.map]
  · intro parameter hpending
    cases hpending
  · rw [hduty]
    exact h.taken

/-- An option, and its value in an argument of its own. -/
theorem Stands.option_apart (h : p.Stands line)
    (hassign : assign line parameter value = .ok next) (hduty : next.duty = line.duty)
    (hform : Form.of value = .value) :
    ∃ p', (option p parameter none >>= fun p => take p value) = .ok p' ∧ p'.Stands next := by
  refine ⟨{ p with line, pending := some (parameter, some value) }, ?_, hassign, ?_, ?_,
    h.optional⟩
  · unfold option
    rw [h.settle_eq]
    show take { p with line, pending := some (parameter, none) } value = _
    unfold take
    rw [if_neg (by simp [h.optional]), hform]
  · intro other hpending
    cases hpending
  · rw [hduty]
    exact h.taken

/-- A value that belongs to no option is put aside as the duty, be it behind a
`--` or not. -/
theorem Stands.positional (h : p.Stands line) (hnone : line.duty = none) (value : List Char)
    (valuesOnly : Bool) :
    CommandLine.positional { p with valuesOnly } value =
      .ok { line, pending := some (.duty, some value), dutyTaken := true, valuesOnly } := by
  have howes : owed { p with valuesOnly } = .ok line := h.owes
  unfold CommandLine.positional
  rw [if_neg (by simp [h.taken, hnone]), Progress.settle_eq, howes]
  rfl

/-- The duty as an argument of its own. -/
theorem Stands.duty (h : p.Stands line) (hnone : line.duty = none)
    (hassign : assign line .duty value = .ok next) (hsome : next.duty.isSome = true)
    (hform : Form.of value = .value) :
    ∃ p', take p value = .ok p' ∧ p'.Stands next := by
  refine ⟨{ line, pending := some (.duty, some value), dutyTaken := true, valuesOnly := false },
    ?_, hassign, ?_, hsome.symm, rfl⟩
  · have hpositional := h.positional hnone value false
    rw [← h.optional] at hpositional ⊢
    unfold take
    rw [if_neg (by simp [h.optional]), hform]
    simp only
    split
    · next hpending => exact absurd hpending (h.filled _)
    · exact hpositional
  · intro other hpending
    cases hpending

end Progress

/-! ## Options -/

/-- What is taken for an option: its letter, and its name. -/
structure Parameter.Called (parameter : Parameter) (letter name : String) : Prop where
  short : ∀ (p : Progress) (rest : String), p.valuesOnly = false →
    take p ("-" ++ letter ++ rest).toList = option p parameter (attached rest.toList)
  long : ∀ p : Progress, p.valuesOnly = false →
    take p ("--" ++ name).toList = option p parameter none
  equated : ∀ (p : Progress) (value : String), p.valuesOnly = false →
    take p ("--" ++ name ++ "=" ++ value).toList = option p parameter (some value.toList)

theorem called_period : Parameter.period.Called "p" "period-ms" where
  short p rest hoptional := by
    rw [String.toList_append, take, if_neg (by simp [hoptional])]
    rfl
  long p hoptional := by
    rw [take, if_neg (by simp [hoptional])]
    rfl
  equated p value hoptional := by
    rw [String.toList_append, take, if_neg (by simp [hoptional])]
    rfl

theorem called_config : Parameter.config.Called "c" "config" where
  short p rest hoptional := by
    rw [String.toList_append, take, if_neg (by simp [hoptional])]
    rfl
  long p hoptional := by
    rw [take, if_neg (by simp [hoptional])]
    rfl
  equated p value hoptional := by
    rw [String.toList_append, take, if_neg (by simp [hoptional])]
    rfl

/-- Takes arguments, one after the other. -/
def takeAll (p : Progress) (arguments : List String) : Except Halt Progress :=
  arguments.foldlM (fun p argument => take p argument.toList) p

theorem takeAll_append (p : Progress) (first second : List String) :
    takeAll p (first ++ second) = takeAll p first >>= (takeAll · second) :=
  List.foldlM_append

theorem takeAll_one (p : Progress) (argument : String) :
    takeAll p [argument] = take p argument.toList :=
  bind_pure _

theorem takeAll_two (p : Progress) (first second : String) :
    takeAll p [first, second] = take p first.toList >>= fun p => take p second.toList :=
  congrArg _ (funext fun p => takeAll_one p second)

/-- In whatever style it is given, an option adds its value. -/
theorem Progress.Stands.given {p : Progress} {line next : CommandLine} {parameter : Parameter}
    {letter name value : String} (h : p.Stands line) (hcalled : parameter.Called letter name)
    (hassign : assign line parameter value.toList = .ok next) (hduty : next.duty = line.duty)
    (hsome : value.toList ≠ []) {style : Style} (hadmits : style.Admits value) :
    ∃ p', takeAll p (style.arguments letter name value) = .ok p' ∧ p'.Stands next := by
  have hform : (value.toList.head? = some '-' → value = "-") → Form.of value.toList = .value := by
    intro hdash
    refine Form.of_value fun hhead => ?_
    rw [hdash hhead]
    rfl
  cases style with
  | joined =>
    rw [Style.arguments, takeAll_one, hcalled.short p value h.optional,
      attached_of_ne hsome hadmits]
    exact h.option_attached hassign hduty
  | equated =>
    have hshort := hcalled.short p ("=" ++ value) h.optional
    have hvalue : ("=" ++ value).toList = '=' :: value.toList := String.toList_append
    rw [← String.append_assoc, hvalue] at hshort
    rw [Style.arguments, takeAll_one, hshort]
    exact h.option_attached hassign hduty
  | apart =>
    have hshort := hcalled.short p "" h.optional
    rw [String.append_empty] at hshort
    rw [Style.arguments, takeAll_two, hshort]
    exact h.option_apart hassign hduty (hform hadmits)
  | longEquated =>
    rw [Style.arguments, takeAll_one, hcalled.equated p value h.optional]
    exact h.option_attached hassign hduty
  | longApart =>
    rw [Style.arguments, takeAll_two, hcalled.long p h.optional]
    exact h.option_apart hassign hduty (hform hadmits)

/-! ## Command lines -/

theorem assign_duty {line : CommandLine} {n : UInt32} {value : String} (hnone : line.duty = none)
    (h : Numeral n value) :
    assign line .duty value.toList = .ok { line with duty := some n } := by
  simp [assign, number, hnone, word_of_numeral h, Except.map]

theorem assign_period {line : CommandLine} {n : UInt32} {value : String}
    (hnone : line.periodMs = none) (h : Numeral n value) :
    assign line .period value.toList = .ok { line with periodMs := some n } := by
  simp [assign, number, hnone, word_of_numeral h, Except.map]

theorem assign_config {line : CommandLine} {path : String} (hnone : line.config = none)
    (hsome : path ≠ "") :
    assign line .config path.toList = .ok { line with config := some path } := by
  simp [assign, hnone, hsome]

theorem stands_of_spelling {line : CommandLine} {arguments : List String}
    (h : Spelling line arguments) : ∃ p, takeAll {} arguments = .ok p ∧ p.Stands line := by
  induction h with
  | nothing => exact ⟨{}, rfl, .start⟩
  | duty _ hnone hnumeral ih =>
    obtain ⟨p, htaken, hstands⟩ := ih
    rw [takeAll_append, htaken]
    show ∃ p', takeAll p [_] = .ok p' ∧ _
    rw [takeAll_one]
    exact hstands.duty hnone (assign_duty hnone hnumeral) rfl hnumeral.form
  | period style _ hnone hnumeral ih =>
    obtain ⟨p, htaken, hstands⟩ := ih
    rw [takeAll_append, htaken]
    exact hstands.given called_period (assign_period hnone hnumeral) rfl hnumeral.toList_ne.1
      (hnumeral.admits style)
  | config style _ hnone hsome hadmits ih =>
    obtain ⟨p, htaken, hstands⟩ := ih
    rw [takeAll_append, htaken]
    exact hstands.given called_config (assign_config hnone hsome) rfl (by simpa using hsome)
      hadmits

theorem parse_of_owes {arguments : List String} {p : Progress} {line : CommandLine}
    (htaken : takeAll {} arguments = .ok p) (howes : p.owed = .ok line) :
    parse arguments = .ok line := by
  show (takeAll {} arguments >>= fun p => settle p >>= fun p => pure p.line) = _
  rw [htaken]
  show (settle p >>= fun p => pure p.line) = _
  rw [Progress.settle_eq, howes]
  rfl

/-- However a command line is spelled and arranged, it is read as what it is. -/
theorem parse_of_arrangement {line : CommandLine} {arguments : List String}
    (h : Arrangement line arguments) : parse arguments = .ok line := by
  cases h with
  | plain hspelling =>
    obtain ⟨p, htaken, hstands⟩ := stands_of_spelling hspelling
    exact parse_of_owes htaken hstands.owes
  | @terminated line arguments n value hspelling hnone hnumeral =>
    obtain ⟨p, htaken, hstands⟩ := stands_of_spelling hspelling
    have hterminator : take p "--".toList = .ok { p with valuesOnly := true } := by
      rw [take, if_neg (by simp [hstands.optional])]
      rfl
    have hbehind : takeAll {} (arguments ++ ["--", value]) =
        .ok { line, pending := some (.duty, some value.toList), dutyTaken := true,
              valuesOnly := true } := by
      rw [takeAll_append, htaken]
      show takeAll p ["--", value] = _
      rw [takeAll_two, hterminator]
      exact hstands.positional hnone value.toList true
    exact parse_of_owes hbehind (assign_duty hnone hnumeral)

/-- A lone dash as the file, a period with a sign and zeros, and the duty behind
`--`. -/
theorem parse_of_arrangement_terminated :
    let line : CommandLine := { duty := some 40, periodMs := some 1000, config := some "-" }
    let arguments := ["-c", "-", "-p=+0001000", "--", "040"]
    Arrangement line arguments ∧ parse arguments = .ok line := by
  intro line arguments
  have hperiod : Numeral 1000 "+0001000" :=
    @Numeral.signed 1000 [0, 0, 0, 1, 0, 0, 0] _ (by decide) (by decide) (by decide)
  have hduty : Numeral 40 "040" :=
    @Numeral.plain 40 [0, 4, 0] _ (by decide) (by decide) (by decide)
  have harrangement : Arrangement line arguments :=
    .terminated (.period .equated (.config .apart .nothing rfl (by decide) fun _ => rfl) rfl hperiod)
      rfl hduty
  exact ⟨harrangement, parse_of_arrangement harrangement⟩

end Beacon.CommandLine
