import GeoUrn.Digest
import GeoUrn.Proofs.FileTrees
import GeoUrn.Proofs.Numerals

/-!
Digests built up in parts. What is taken in part by part is digested as the whole would be, wherever
it is cut, so that the digest of a file does not depend on how it is read.
-/
namespace GeoUrn

namespace Sha256

/-- Bytes left over from a message wait for those that come after it. -/
theorem takeBlocks_append (words : Words) (message bytes : Bytes) :
    takeBlocks words (message ++ bytes) =
      takeBlocks (takeBlocks words message).1 ((takeBlocks words message).2 ++ bytes) := by
  -- One block of the message after the other is taken from both sides, until less than one is left.
  fun_induction takeBlocks words message with
  | case1 words message h ih =>
    have hle : 64 ≤ (message ++ bytes).length := by
      rw [List.length_append]
      omega
    rw [takeBlocks, if_pos hle, List.take_append_of_le_length h, List.drop_append_of_le_length h]
    exact ih
  | case2 words message h => rfl

theorem takeBlocks_of_whole {bytes : Bytes} (words : Words) (h : bytes.length % 64 = 0) :
    takeBlocks words bytes = ((bytes.blocks 64).foldl compress words, []) := by
  fun_induction takeBlocks words bytes with
  | case1 words bytes hle ih =>
    have hrest : (bytes.drop 64).length % 64 = 0 := by
      rw [List.length_drop]
      omega
    have hne : bytes ≠ [] := List.ne_nil_of_length_pos (by omega)
    rw [ih hrest, Bytes.blocks_of_ne_nil (by decide) hne, List.foldl_cons]
  | case2 words bytes hlt =>
    have hnil : bytes = [] := List.eq_nil_of_length_eq_zero (by omega)
    simp [hnil, Bytes.blocks]

theorem length_padded_message (message : Bytes) :
    (message ++ padding message.length).length % 64 = 0 := by
  simp only [padding, lengthBytes, List.length_append, List.length_cons, List.length_map,
    List.length_replicate, List.length_nil]
  omega

structure State.Holds (state : State) (message : Bytes) : Prop where
  taken : takeBlocks initialWords message = (state.words, state.waiting)
  length : state.length = message.length

theorem State.holds_initial : State.initial.Holds [] where
  taken := by
    rw [takeBlocks]
    rfl
  length := rfl

/-- Part after part is taken in as if they were one. -/
theorem State.Holds.update {state : State} {message : Bytes} (h : state.Holds message)
    (bytes : Bytes) : (state.update bytes).Holds (message ++ bytes) where
  taken := by
    rw [takeBlocks_append, h.taken]
    rfl
  length := by
    rw [State.update, List.length_append, h.length]

theorem State.Holds.finish {state : State} {message : Bytes} (h : state.Holds message) :
    state.finish = digest message := by
  have hpad : takeBlocks initialWords (message ++ padding message.length) =
      takeBlocks state.words (state.waiting ++ padding state.length) := by
    rw [takeBlocks_append, h.taken, h.length]
  rw [State.finish, ← hpad, takeBlocks_of_whole _ (length_padded_message message), digest]

def Words.toNat (w : Words) : ℕ :=
  [w.a, w.b, w.c, w.d, w.e, w.f, w.g, w.h].foldl (fun n word => 16 ^ 8 * n + word.toNat) 0

theorem word_lt (word : UInt32) : word.toNat < 16 ^ 8 := word.toNat_lt

theorem length_hexWords (words : List UInt32) :
    (words.flatMap fun word => Decimal.hex 8 word.toNat).length = 8 * words.length := by
  induction words with
  | nil => rfl
  | cons word words ih =>
    rw [List.flatMap_cons, List.length_append, Decimal.length_hex (by decide) (word_lt word), ih,
      List.length_cons]
    omega

theorem hexValueFrom?_hexWords (words : List UInt32) (start : ℕ) :
    Decimal.hexValueFrom? start (words.flatMap fun word => Decimal.hex 8 word.toNat) =
      some (words.foldl (fun n word => 16 ^ 8 * n + word.toNat) start) := by
  induction words generalizing start with
  | nil => rfl
  | cons word words ih =>
    rw [List.flatMap_cons, Decimal.hexValueFrom?_append,
      Decimal.hexValueFrom?_hex (by decide) (word_lt word), Option.bind_some, ih, List.foldl_cons]

/-- Whether a text is the words in sixty-four hexadecimal digits of lower case. -/
structure Words.IsHex (w : Words) (digits : Text) : Prop where
  length : digits.length = 64
  lower : ∀ c ∈ digits, c ∈ Decimal.hexDigits
  value : Decimal.hexValueFrom? 0 digits = some w.toNat

theorem Words.isHex_hex (w : Words) : w.IsHex w.hex where
  length := length_hexWords _
  lower c hc := by
    obtain ⟨word, -, hword⟩ := List.mem_flatMap.mp hc
    exact Decimal.mem_hexDigits_of_mem_hex 8 word.toNat c hword
  value := hexValueFrom?_hexWords _ 0

end Sha256

namespace Digest
open Sha256 (State)

/-- What a run over any parts preserves. -/
theorem holds_feed {state : State} {message : Bytes} (h : state.Holds message)
    (parts : List Bytes) : (feed state parts).Holds (message ++ parts.flatten) := by
  induction parts generalizing state message with
  | nil => simpa [feed] using h
  | cons part parts ih =>
    rw [List.flatten_cons, ← List.append_assoc]
    exact ih (h.update part)

/-- Parts give the digest of what they make up. -/
theorem finish_feed (parts : List Bytes) :
    (feed .initial parts).finish = Sha256.digest parts.flatten :=
  (holds_feed State.holds_initial parts).finish

def partFrom (bytes : Bytes) (position : ℕ) : Bytes := (bytes.drop position).take Bytes.readSize

theorem length_partFrom (bytes : Bytes) (position : ℕ) :
    (partFrom bytes position).length = min 8192 (bytes.length - position) := by
  simp [partFrom, Bytes.readSize]

theorem partFrom_eq_nil_iff {bytes : Bytes} {position : ℕ} :
    partFrom bytes position = [] ↔ bytes.length ≤ position := by
  rw [← List.length_eq_zero_iff, length_partFrom]
  omega

/-- Takes in what is read, from a position on, until a read gives nothing. Answers the position then
and the state. -/
def drain (bytes : Bytes) (position : ℕ) (state : State) : ℕ × State :=
  let part := partFrom bytes position
  if part = [] then (position, state)
  else drain bytes (position + part.length) (state.update part)
  termination_by bytes.length - position
  decreasing_by
    rename_i h
    have hpos := mt partFrom_eq_nil_iff.mpr h
    rw [length_partFrom]
    omega

theorem blocks_of_end {bytes : Bytes} {position : ℕ} (h : bytes.length ≤ position) :
    Bytes.blocks Bytes.readSize (bytes.drop position) = [] := by
  rw [List.drop_eq_nil_of_le h, Bytes.blocks]
  rfl

theorem blocks_of_lt {bytes : Bytes} {position : ℕ} (h : position < bytes.length) :
    Bytes.blocks Bytes.readSize (bytes.drop position) = partFrom bytes position ::
      Bytes.blocks Bytes.readSize (bytes.drop (position + (partFrom bytes position).length)) := by
  have hrest : bytes.drop (position + (partFrom bytes position).length) =
      (bytes.drop position).drop Bytes.readSize := by
    rw [List.drop_drop, List.drop_eq_drop_iff, length_partFrom, Bytes.readSize]
    omega
  have hne : bytes.drop position ≠ [] := List.drop_eq_nil_iff.not.mpr (by omega)
  rw [hrest, Bytes.blocks_of_ne_nil (by decide) hne, partFrom]

/-- The reads end behind the last byte, and have given the blocks. -/
theorem drain_eq {bytes : Bytes} {position : ℕ} (h : position ≤ bytes.length) (state : State) :
    drain bytes position state =
      (bytes.length, feed state (Bytes.blocks Bytes.readSize (bytes.drop position))) := by
  fun_induction drain bytes position state with
  | case1 position state part hpart =>
    have hend := partFrom_eq_nil_iff.mp hpart
    rw [blocks_of_end hend, Nat.le_antisymm h hend]
    rfl
  | case2 position state part hpart ih =>
    have hlt : position < bytes.length := Nat.lt_of_not_le (mt partFrom_eq_nil_iff.mpr hpart)
    have hnext : position + part.length ≤ bytes.length := by
      have hlen : part.length = _ := length_partFrom bytes position
      omega
    rw [ih hnext, blocks_of_lt hlt, feed, feed, List.foldl_cons]

theorem ofBytes_eq (bytes : Bytes) : ofBytes bytes = labelled (Sha256.digest bytes).hex := by
  rw [ofBytes, finish_feed, Bytes.flatten_blocks _ (by decide)]

theorem ofFile_of_read {files : FileTree} {path : Path} {bytes : Bytes}
    (h : files.read path = .ok bytes) : ofFile files path = .ok (ofBytes bytes) := by
  rw [ofFile, FileTree.lookup_of_read h, h]
  rfl

/-- A file is read block by block, each byte once and to the end, and gets the digest of all its bytes
at once. So it would if it were cut in any other way. -/
theorem file_has_digest_of_whole (bytes : Bytes) :
    (∀ (files : FileTree) (path : Path), files.read path = .ok bytes →
      ofFile files path = .ok (labelled (Sha256.digest bytes).hex)) ∧
    (Sha256.digest bytes).IsHex (Sha256.digest bytes).hex ∧
    drain bytes 0 .initial = (bytes.length, feed .initial (Bytes.blocks 8192 bytes)) ∧
    (Bytes.blocks 8192 bytes).flatten = bytes ∧
    (∀ block ∈ Bytes.blocks 8192 bytes, 0 < block.length ∧ block.length ≤ 8192) ∧
    ∀ parts : List Bytes, parts.flatten = bytes →
      (feed .initial parts).finish = Sha256.digest bytes := by
  refine ⟨?whole, (Sha256.digest bytes).isHex_hex, drain_eq bytes.length.zero_le .initial,
    Bytes.flatten_blocks 8192 (by decide) bytes, fun block hb => Bytes.length_of_mem_blocks hb, ?parts⟩
  case whole =>
    intro files path hread
    rw [ofFile_of_read hread, ofBytes_eq]
  case parts =>
    intro parts hparts
    rw [finish_feed, hparts]

/-- Of a file that is one byte longer than a block. -/
theorem file_has_digest_of_whole_across_blocks :
    ofFile ⟨[Path.rootName], [([Path.rootName, ['a']], .file (List.replicate 8193 0x61))]⟩
        (Path.ofText ['a']) =
      .ok (labelled (Sha256.digest (List.replicate 8193 0x61)).hex) ∧
    (feed .initial [List.replicate 8192 0x61, [0x61]]).finish =
      Sha256.digest (List.replicate 8193 0x61) := by
  obtain ⟨hwhole, -, -, -, -, hparts⟩ := file_has_digest_of_whole (List.replicate 8193 0x61)
  have hcut : [List.replicate 8192 0x61, [0x61]].flatten = List.replicate 8193 (0x61 : UInt8) := by
    rw [List.flatten_cons, List.flatten_singleton, ← List.replicate_succ']
  exact ⟨hwhole _ _ rfl, hparts _ hcut⟩

example : ofBytes [0x61, 0x62, 0x63] =
    "sha256:ba7816bf8f01cfea414140de5dae2223b00361a396177a9cb410ff61f20015ad".toList := by
  decide +kernel

end Digest

end GeoUrn
