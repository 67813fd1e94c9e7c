/-! # Control characters

The general category `Cc`: the codes below the space, the delete character, and the codes up to
U+009F. The category is closed: no later version of Unicode adds to it.
-/

namespace WatchedStore.Text

/-- The general category `Cc`. -/
def isControl (c : Char) : Bool :=
  c.toNat < 0x20 || (0x7F ≤ c.toNat && c.toNat ≤ 0x9F)

end WatchedStore.Text
