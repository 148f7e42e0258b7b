/-!
# Buttons, timers and what wakes the controller

Three buttons and two timers can have news. A `Source` names the one that has; the token that
stands for it in the readiness queue is a number, and `Source.ofToken?` reads it back. An `Edge`
is a change of a button that its line has confirmed.
-/

namespace Beacon

inductive Button where
  | k1
  | k2
  | k3
deriving DecidableEq

inductive Role where
  | accelerate
  | reset
  | decelerate
deriving DecidableEq

namespace Button

/-- All buttons, in their order on the board. -/
def all : List Button := [k1, k2, k3]

/-- The place of a button on the board, counted from zero. -/
def index : Button → Nat
  | k1 => 0
  | k2 => 1
  | k3 => 2

def label : Button → String
  | k1 => "K1"
  | k2 => "K2"
  | k3 => "K3"

def role : Button → Role
  | k1 => .accelerate
  | k2 => .reset
  | k3 => .decelerate

end Button

def Role.name : Role → String
  | .accelerate => "Accelerate"
  | .reset => "Reset"
  | .decelerate => "Decelerate"

structure PerButton (α : Type) where
  k1 : α
  k2 : α
  k3 : α
deriving DecidableEq

def PerButton.get {α : Type} (things : PerButton α) : Button → α
  | .k1 => things.k1
  | .k2 => things.k2
  | .k3 => things.k3

def PerButton.set {α : Type} (things : PerButton α) (button : Button) (a : α) : PerButton α :=
  match button with
  | .k1 => { things with k1 := a }
  | .k2 => { things with k2 := a }
  | .k3 => { things with k3 := a }

inductive Transition where
  | pressed
  | released
deriving DecidableEq

def Transition.name : Transition → String
  | .pressed => "Pressed"
  | .released => "Released"

/-- A change of a button, confirmed by its line. -/
structure Edge where
  button : Button
  transition : Transition
deriving DecidableEq

inductive Clock where
  | blink
  | repeating
deriving DecidableEq

def Clock.name : Clock → String
  | .blink => "blink timer"
  | .repeating => "repeat timer"

inductive Source where
  | timer (clock : Clock)
  | button (button : Button)
deriving DecidableEq

namespace Source

/-- Every source, in the order of registration. -/
def all : List Source :=
  [timer .blink, timer .repeating, button .k1, button .k2, button .k3]

def label : Source → String
  | timer clock => clock.name
  | button b => "button " ++ b.label

/-- The number that stands for a source in the readiness queue. -/
def token : Source → Nat
  | timer .blink => 0
  | timer .repeating => 1
  | button b => 10 + b.index

def ofToken? (token : Nat) : Option Source :=
  all.find? (·.token == token)

theorem mem_all (source : Source) : source ∈ all := by
  rcases source with clock | b
  · cases clock <;> simp [all]
  · cases b <;> simp [all]

/-- No two sources share a token. -/
theorem token_inj {a b : Source} (h : a.token = b.token) : a = b := by
  rcases a with c | c <;> rcases b with d | d <;> cases c <;> cases d <;>
    first | rfl | simp [token, Button.index] at h

theorem ofToken?_token (source : Source) : ofToken? source.token = some source := by
  rcases source with clock | b
  · cases clock <;> rfl
  · cases b <;> rfl

/-- A number stands for a source only if it is that source's token. -/
theorem ofToken?_eq_some_iff {token : Nat} {source : Source} :
    ofToken? token = some source ↔ source.token = token := by
  constructor
  · intro h
    simpa using List.find?_some h
  · rintro rfl
    exact ofToken?_token source

end Source

inductive Interest where
  | readable
  /-- Something exceptional happened, such as an edge on a line. -/
  | priority
deriving DecidableEq

def maxReady : Nat := 8

end Beacon
