namespace AddressIntake

/-- Between `least` and `most` characters of a class; without `most` there is no upper bound. -/
structure CharRun where
  accepts : Char → Bool
  least : Nat
  most : Option Nat

namespace CharRun

/-- Exactly one character of a class. -/
def one (accepts : Char → Bool) : CharRun := ⟨accepts, 1, some 1⟩

/-- Exactly the given number of characters of a class. -/
def exactly (n : Nat) (accepts : Char → Bool) : CharRun := ⟨accepts, n, some n⟩

/-- One character of a class or none. -/
def optional (accepts : Char → Bool) : CharRun := ⟨accepts, 0, some 1⟩

/-- At least the given number of characters of a class. -/
def atLeast (n : Nat) (accepts : Char → Bool) : CharRun := ⟨accepts, n, none⟩

/-- Whether a text is some run of the class, with a length within the bounds, followed by a text
that is accepted further on. -/
def matchThen (accepts : Char → Bool) (further : List Char → Bool) :
    Nat → Option Nat → List Char → Bool
  | least, _, [] => least == 0 && further []
  | least, most, c :: rest =>
    (least == 0 && further (c :: rest)) ||
      (most != some 0 && accepts c &&
        matchThen accepts further (least - 1) (most.map (· - 1)) rest)

end CharRun

/-- A pattern is a list of runs, one after the other. -/
abbrev Pattern := List CharRun

/-- Whether the whole text is made of the runs of the pattern. -/
def Pattern.accepts : Pattern → List Char → Bool
  | [], cs => cs.isEmpty
  | run :: rest, cs =>
    CharRun.matchThen run.accepts (Pattern.accepts rest) run.least run.most cs

end AddressIntake
