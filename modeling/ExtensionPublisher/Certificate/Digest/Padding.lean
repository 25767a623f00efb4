/-!
# Blocks of a digest

A digest is taken over whole blocks. Behind the bytes stands a byte that marks their end,
then as many zeros as it takes, then the number of bits, the greatest place first, so that the
last block is full.
-/
namespace ExtensionPublisher.Certificate.Digest

/-- The last bytes of a number, the greatest place first. -/
def bigEndian : Nat → Nat → List UInt8
  | 0, _ => []
  | places + 1, n => bigEndian places (n / 256) ++ [UInt8.ofNat n]

/-- Bytes and what stands behind them, for blocks of a size and a count of some
places. What stands behind them tells how many bits there are. -/
def padded (size places : Nat) (bytes : List UInt8) : List UInt8 :=
  let zeros := (size - (bytes.length + 1 + places) % size) % size
  bytes ++ 0x80 :: List.replicate zeros 0 ++ bigEndian places (8 * bytes.length)

/-- Values in groups of a size, the last of which may be smaller. There is always
one group. -/
def groups {α : Type} (size : Nat) (values : List α) : List (List α) :=
  if _more : 0 < size ∧ size < values.length then
    values.take size :: groups size (values.drop size)
  else [values]
termination_by values.length
decreasing_by simp only [List.length_drop]; omega

/-- As many places as asked for. -/
theorem big_endian_length (places n : Nat) : (bigEndian places n).length = places := by
  induction places generalizing n with
  | zero => rfl
  | succ places inductionHypothesis => simp [bigEndian, inductionHypothesis]

end ExtensionPublisher.Certificate.Digest
