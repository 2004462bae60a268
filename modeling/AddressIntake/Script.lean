namespace AddressIntake

/-- A program that does nothing by itself but ask requests, each with its own type of answer, and
ends with a value. -/
inductive Script (Request : Type) (Answer : Request → Type) (α : Type) where
  | done (value : α)
  | ask (request : Request) (next : Answer request → Script Request Answer α)

namespace Script

variable {Request : Type} {Answer : Request → Type} {α β : Type} {m : Type → Type}

/-- The script that goes on with the value of another one. -/
def bind : Script Request Answer α → (α → Script Request Answer β) → Script Request Answer β
  | done value, next => next value
  | ask request rest, next => ask request fun answer => (rest answer).bind next

instance : Monad (Script Request Answer) where
  pure := done
  bind := bind

/-- The script that asks one request and ends with the answer. -/
def request (r : Request) : Script Request Answer (Answer r) :=
  ask r done

/-- A script whose requests are answered in a monad. -/
def perform [Monad m] (answer : (r : Request) → m (Answer r)) : Script Request Answer α → m α
  | done value => pure value
  | ask r next => do
    let a ← answer r
    perform answer (next a)

@[simp]
theorem perform_done [Monad m] (answer : (r : Request) → m (Answer r)) (value : α) :
    perform answer (done value) = pure value :=
  rfl

@[simp]
theorem perform_ask [Monad m] (answer : (r : Request) → m (Answer r)) (r : Request)
    (next : Answer r → Script Request Answer α) :
    perform answer (ask r next) = answer r >>= fun a => perform answer (next a) :=
  rfl

end Script

end AddressIntake
