import ImageFreshness.Journal.Notice

/-!
# Waiting for answers
-/

namespace ImageFreshness

/-- An answer of a registry, the time until it is there, and the notices it gives rise to. -/
structure Reply (α : Type) where
  delay : Nat
  answer : Except RegistryError α
  notices : List Notice

inductive Token where
  | live
  | cancelled
  /-- It is cancelled at this instant, after everything that starts then. -/
  | cancelledAt (instant : Nat)
  deriving DecidableEq, Repr

namespace Token

def stopsStart (token : Token) (now : Nat) : Bool :=
  match token with
  | .live => false
  | .cancelled => true
  | .cancelledAt instant => instant < now

/-- Whether what has waited until an instant is cancelled by then. -/
def stopsWait (token : Token) (now : Nat) : Bool :=
  match token with
  | .live => false
  | .cancelled => true
  | .cancelledAt instant => instant ≤ now

/-- The instant at which a wait ends that nothing else ends before `ready`. -/
def waitEnd (token : Token) (ready : Nat) : Nat :=
  match token with
  | .live => ready
  | .cancelled => 0
  | .cancelledAt instant => min instant ready

end Token

end ImageFreshness
