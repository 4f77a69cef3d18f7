/-!
# A bounded queue

First in, first out, between one giver and one taker. The giver never waits: what does not fit is refused. Once the
taker is gone, nothing is held any more.
-/

namespace WeatherRelay

/-- What is held, oldest first; at most `depth` items, and none once the taker is gone. -/
structure Queue (α : Type) where
  depth : Nat
  items : List α := []
  hasTaker : Bool := true

/-- What became of an item that was offered. -/
inductive Offered where
  | accepted
  | full
  | noTaker
deriving DecidableEq, Repr

namespace Queue

variable {α : Type}

/-- Offers an item. -/
def offer (q : Queue α) (a : α) : Offered × Queue α :=
  if !q.hasTaker then (.noTaker, q)
  else if q.items.length < q.depth then (.accepted, { q with items := q.items ++ [a] })
  else (.full, q)

/-- Takes the oldest item. -/
def take (q : Queue α) : Option α × Queue α :=
  match q.items with
  | [] => (none, q)
  | a :: rest => (some a, { q with items := rest })

/-- The taker goes. -/
def abandon (q : Queue α) : Queue α := { q with items := [], hasTaker := false }

end Queue

end WeatherRelay
