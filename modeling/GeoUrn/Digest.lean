import GeoUrn.Bytes
import GeoUrn.Decimal.Digits
import GeoUrn.Files.Tree

/-!
The digest SHA-256: of a whole message, and built up from blocks of any size, as it is for files,
which are read in blocks of a fixed size.
-/
namespace GeoUrn.Sha256

/-- The constants of the rounds: the first bits of the fractions of the cube roots of the first
sixty-four primes. -/
def roundConstants : List UInt32 :=
  [0x428A2F98, 0x71374491, 0xB5C0FBCF, 0xE9B5DBA5, 0x3956C25B, 0x59F111F1, 0x923F82A4, 0xAB1C5ED5,
   0xD807AA98, 0x12835B01, 0x243185BE, 0x550C7DC3, 0x72BE5D74, 0x80DEB1FE, 0x9BDC06A7, 0xC19BF174,
   0xE49B69C1, 0xEFBE4786, 0x0FC19DC6, 0x240CA1CC, 0x2DE92C6F, 0x4A7484AA, 0x5CB0A9DC, 0x76F988DA,
   0x983E5152, 0xA831C66D, 0xB00327C8, 0xBF597FC7, 0xC6E00BF3, 0xD5A79147, 0x06CA6351, 0x14292967,
   0x27B70A85, 0x2E1B2138, 0x4D2C6DFC, 0x53380D13, 0x650A7354, 0x766A0ABB, 0x81C2C92E, 0x92722C85,
   0xA2BFE8A1, 0xA81A664B, 0xC24B8B70, 0xC76C51A3, 0xD192E819, 0xD6990624, 0xF40E3585, 0x106AA070,
   0x19A4C116, 0x1E376C08, 0x2748774C, 0x34B0BCB5, 0x391C0CB3, 0x4ED8AA4A, 0x5B9CCA4F, 0x682E6FF3,
   0x748F82EE, 0x78A5636F, 0x84C87814, 0x8CC70208, 0x90BEFFFA, 0xA4506CEB, 0xBEF9A3F7, 0xC67178F2]

structure Words where
  a : UInt32
  b : UInt32
  c : UInt32
  d : UInt32
  e : UInt32
  f : UInt32
  g : UInt32
  h : UInt32
  deriving DecidableEq, Repr

/-- The words before any block: the first bits of the fractions of the square roots of the first
eight primes. -/
def initialWords : Words :=
  ⟨0x6A09E667, 0xBB67AE85, 0x3C6EF372, 0xA54FF53A, 0x510E527F, 0x9B05688C, 0x1F83D9AB, 0x5BE0CD19⟩

def Words.add (x y : Words) : Words :=
  ⟨x.a + y.a, x.b + y.b, x.c + y.c, x.d + y.d, x.e + y.e, x.f + y.f, x.g + y.g, x.h + y.h⟩

def rotate (x : UInt32) (n : UInt32) : UInt32 := (x >>> n) ||| (x <<< (32 - n))

def round (w : Words) (constant scheduled : UInt32) : Words :=
  let s1 := rotate w.e 6 ^^^ rotate w.e 11 ^^^ rotate w.e 25
  let choice := (w.e &&& w.f) ^^^ (~~~w.e &&& w.g)
  let t1 := w.h + s1 + choice + constant + scheduled
  let s0 := rotate w.a 2 ^^^ rotate w.a 13 ^^^ rotate w.a 22
  let majority := (w.a &&& w.b) ^^^ (w.a &&& w.c) ^^^ (w.b &&& w.c)
  ⟨t1 + (s0 + majority), w.a, w.b, w.c, w.d + t1, w.e, w.f, w.g⟩

def blockWords : Bytes → List UInt32
  | p :: q :: r :: s :: rest =>
    (p.toUInt32 <<< 24 ||| q.toUInt32 <<< 16 ||| r.toUInt32 <<< 8 ||| s.toUInt32) ::
      blockWords rest
  | _ => []

/-- Adds `n` words to a schedule, which is kept with the newest word first. -/
def extendSchedule : Nat → List UInt32 → List UInt32
  | 0, schedule => schedule
  | n + 1, schedule =>
    let word (back : Nat) : UInt32 := schedule.getD (back - 1) 0
    let s0 := rotate (word 15) 7 ^^^ rotate (word 15) 18 ^^^ (word 15 >>> 3)
    let s1 := rotate (word 2) 17 ^^^ rotate (word 2) 19 ^^^ (word 2 >>> 10)
    extendSchedule n ((word 16 + s0 + word 7 + s1) :: schedule)

def schedule (block : Bytes) : List UInt32 :=
  (extendSchedule 48 (blockWords block).reverse).reverse

def compress (words : Words) (block : Bytes) : Words :=
  let rounds := roundConstants.zip (schedule block)
  words.add (rounds.foldl (fun w r => round w r.1 r.2) words)

def lengthBytes (bits : Nat) : Bytes :=
  [bits >>> 56, bits >>> 48, bits >>> 40, bits >>> 32, bits >>> 24, bits >>> 16, bits >>> 8,
    bits].map fun n => (n % 256).toUInt8

/-- What is added to a message of `length` bytes, to end with its length at a block's end. -/
def padding (length : Nat) : Bytes :=
  0x80 :: List.replicate ((119 - length % 64) % 64) 0 ++ lengthBytes (8 * length)

/-- Takes all whole blocks at the front in; answers the words and the bytes that are left. -/
def takeBlocks (words : Words) (bytes : Bytes) : Words × Bytes :=
  if 64 ≤ bytes.length then takeBlocks (compress words (bytes.take 64)) (bytes.drop 64)
  else (words, bytes)
  termination_by bytes.length
  decreasing_by simp; omega

/-- A digest that is being built up: the words so far, the bytes that wait for the rest of their
block, and the number of bytes in all. -/
structure State where
  words : Words
  waiting : Bytes
  length : Nat
  deriving DecidableEq, Repr

def State.initial : State := ⟨initialWords, [], 0⟩

def State.update (s : State) (bytes : Bytes) : State :=
  let taken := takeBlocks s.words (s.waiting ++ bytes)
  ⟨taken.1, taken.2, s.length + bytes.length⟩

def State.finish (s : State) : Words :=
  (takeBlocks s.words (s.waiting ++ padding s.length)).1

def Words.hex (w : Words) : Text :=
  [w.a, w.b, w.c, w.d, w.e, w.f, w.g, w.h].flatMap fun word => Decimal.hex 8 word.toNat

def digest (message : Bytes) : Words :=
  ((message ++ padding message.length).blocks 64).foldl compress initialWords

end GeoUrn.Sha256

namespace GeoUrn.Digest

def labelled (hexDigits : Text) : Text := "sha256:" ++ hexDigits

def feed (state : Sha256.State) (blocks : List Bytes) : Sha256.State :=
  blocks.foldl Sha256.State.update state

def ofBytes (bytes : Bytes) : Text :=
  labelled (feed .initial (bytes.blocks Bytes.readSize)).finish.hex

def ofFile (files : FileTree) (path : Path) : Except Fault Text :=
  match files.lookup path with
  | .error fault => .error fault
  | .ok none => .error (.fileNotFound path.toText)
  | .ok (some _) => (files.read path).map ofBytes

end GeoUrn.Digest
