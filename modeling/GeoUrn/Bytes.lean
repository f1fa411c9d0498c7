/-!
Byte strings, and their division into blocks.
-/
namespace GeoUrn

abbrev Bytes := List UInt8

namespace Bytes

/-- The bytes in blocks of the given size, of which the last may be shorter. -/
def blocks (size : Nat) (bytes : Bytes) : List Bytes :=
  if bytes.length = 0 ∨ size = 0 then []
  else bytes.take size :: blocks size (bytes.drop size)
  termination_by bytes.length
  decreasing_by simp; omega

theorem blocks_of_ne_nil {size : Nat} (hs : 0 < size) {bytes : Bytes} (h : bytes ≠ []) :
    blocks size bytes = bytes.take size :: blocks size (bytes.drop size) := by
  have hlen : 0 < bytes.length := List.length_pos_iff.mpr h
  rw [blocks, if_neg (by omega)]

/-- Nothing is lost: the blocks in order make up the bytes. -/
theorem flatten_blocks (size : Nat) (h : 0 < size) (bytes : Bytes) :
    (blocks size bytes).flatten = bytes := by
  fun_induction blocks size bytes with
  | case1 bytes hb =>
    have : bytes.length = 0 := by omega
    simp [List.eq_nil_of_length_eq_zero this]
  | case2 bytes hb ih => simp [ih]

/-- No block is empty, and none is longer than the size. -/
theorem length_of_mem_blocks {size : Nat} {bytes block : Bytes} (h : block ∈ blocks size bytes) :
    0 < block.length ∧ block.length ≤ size := by
  fun_induction blocks size bytes with
  | case1 bytes hb => cases h
  | case2 bytes hb ih =>
    rcases List.mem_cons.mp h with rfl | hrest
    · rw [List.length_take]
      omega
    · exact ih hrest

def readSize : Nat := 8192

end Bytes

end GeoUrn
