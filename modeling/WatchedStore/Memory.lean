/-! # Memory

A bounded buffer takes all its memory when it is made, in one block with a cell for each place. A
block has fewer bytes than half of the 64-bit addresses, so a buffer with too many places cannot be
made at all, on no machine.
-/

namespace WatchedStore

/-- The most bytes of one block of memory. -/
def maxBlockSize : Nat := 9223372036854775807

/-- The bytes of a machine word. -/
def wordSize : Nat := 8

/-- Whether a block can hold a number of cells, each of some words. -/
def fitsBlock (cells words : Nat) : Bool := cells * (words * wordSize) ≤ maxBlockSize

end WatchedStore
