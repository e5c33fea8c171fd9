import TnsClient.Bytes

set_option autoImplicit false

/-!
# Random octets

A computation that takes random octets, and that may fail, is a tree: it ends with a value or with
an error, or it draws some octets and goes on with them. A source of randomness leads to one of the
ends, and what was drawn on the way there is gone, be the end an error or not.

## Main definitions

* `TnsClient.RandomSource` — a source of random octets.
* `TnsClient.Drawing` — a computation that draws octets and may fail; `TnsClient.Drawing.run` — what
  it comes to with a source.
-/

namespace TnsClient

/-! ## Sources -/

/-- A source of random octets. -/
structure RandomSource where
  /-- The octets it yields. -/
  stream : Nat → UInt8
  /-- The number of octets drawn so far. -/
  drawn : Nat

/-- Draws octets. -/
def RandomSource.draw (source : RandomSource) (count : Nat) : Bytes × RandomSource :=
  ((List.range count).map fun i => source.stream (source.drawn + i),
    { source with drawn := source.drawn + count })

/-! ## Computations -/

/-- A computation that draws random octets and may fail. -/
inductive Drawing (ε α : Type) where
  /-- There is a value. -/
  | done (value : α)
  /-- It has failed. -/
  | failed (error : ε)
  /-- Octets are drawn, and it goes on with them. -/
  | draw (count : Nat) (next : Bytes → Drawing ε α)

namespace Drawing

variable {ε α β : Type}

/-- A computation that goes on with the value of another one. -/
def bind : Drawing ε α → (α → Drawing ε β) → Drawing ε β
  | done value, next => next value
  | failed error, _ => failed error
  | draw count rest, next => draw count fun octets => (rest octets).bind next

instance : Monad (Drawing ε) where
  pure := done
  bind := bind

/-- A computation that draws nothing. -/
def ofExcept : Except ε α → Drawing ε α
  | .ok value => done value
  | .error error => failed error

/-- Draws octets. -/
def octets (count : Nat) : Drawing ε Bytes := draw count done

/-- What a computation comes to with a source of randomness, and what is left of the source. -/
def run : Drawing ε α → RandomSource → Except ε α × RandomSource
  | done value, source => (.ok value, source)
  | failed error, source => (.error error, source)
  | draw count next, source => (next (source.draw count).1).run (source.draw count).2

end Drawing

end TnsClient
