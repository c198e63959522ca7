import SeedVault.Hash.BlockHash

/-!
# RIPEMD-160

Two lines of eighty steps run over the same sixteen little-endian words, each with its own order
of the words and its own rotations, and their results are added crosswise into the chaining state.
-/

namespace SeedVault.Ripemd160

/-- Five working words. -/
structure State where
  a : UInt32
  b : UInt32
  c : UInt32
  d : UInt32
  e : UInt32

/-- The words before any block. -/
def init : State := ⟨0x67452301, 0xefcdab89, 0x98badcfe, 0x10325476, 0xc3d2e1f0⟩

/-- What distinguishes the two lines: the five functions in their order, a constant a group of
sixteen steps, and the word and the rotation of each step. -/
structure Line where
  functions : List (UInt32 → UInt32 → UInt32 → UInt32)
  constants : List UInt32
  words : List (List Nat)
  rotations : List (List UInt32)

/-- The five functions of three words. -/
def functions : List (UInt32 → UInt32 → UInt32 → UInt32) :=
  [fun x y z => x ^^^ y ^^^ z,
   fun x y z => (x &&& y) ||| (~~~x &&& z),
   fun x y z => (x ||| ~~~y) ^^^ z,
   fun x y z => (x &&& z) ||| (y &&& ~~~z),
   fun x y z => x ^^^ (y ||| ~~~z)]

/-- The first line. -/
def left : Line where
  functions := functions
  constants := [0x00000000, 0x5a827999, 0x6ed9eba1, 0x8f1bbcdc, 0xa953fd4e]
  words :=
    [[0, 1, 2, 3, 4, 5, 6, 7, 8, 9, 10, 11, 12, 13, 14, 15],
     [7, 4, 13, 1, 10, 6, 15, 3, 12, 0, 9, 5, 2, 14, 11, 8],
     [3, 10, 14, 4, 9, 15, 8, 1, 2, 7, 0, 6, 13, 11, 5, 12],
     [1, 9, 11, 10, 0, 8, 12, 4, 13, 3, 7, 15, 14, 5, 6, 2],
     [4, 0, 5, 9, 7, 12, 2, 10, 14, 1, 3, 8, 11, 6, 15, 13]]
  rotations :=
    [[11, 14, 15, 12, 5, 8, 7, 9, 11, 13, 14, 15, 6, 7, 9, 8],
     [7, 6, 8, 13, 11, 9, 7, 15, 7, 12, 15, 9, 11, 7, 13, 12],
     [11, 13, 6, 7, 14, 9, 13, 15, 14, 8, 13, 6, 5, 12, 7, 5],
     [11, 12, 14, 15, 14, 15, 9, 8, 9, 14, 5, 6, 8, 6, 5, 12],
     [9, 15, 5, 11, 6, 8, 13, 12, 5, 12, 13, 14, 11, 8, 5, 6]]

/-- The second line, which takes the functions in the opposite order. -/
def right : Line where
  functions := functions.reverse
  constants := [0x50a28be6, 0x5c4dd124, 0x6d703ef3, 0x7a6d76e9, 0x00000000]
  words :=
    [[5, 14, 7, 0, 9, 2, 11, 4, 13, 6, 15, 8, 1, 10, 3, 12],
     [6, 11, 3, 7, 0, 13, 5, 10, 14, 15, 8, 12, 4, 9, 1, 2],
     [15, 5, 1, 3, 7, 14, 6, 9, 11, 8, 12, 2, 10, 0, 4, 13],
     [8, 6, 4, 1, 3, 11, 15, 0, 5, 12, 2, 13, 9, 7, 10, 14],
     [12, 15, 10, 4, 1, 5, 8, 7, 6, 2, 13, 14, 0, 3, 9, 11]]
  rotations :=
    [[8, 9, 9, 11, 13, 15, 15, 5, 7, 7, 8, 11, 14, 14, 12, 6],
     [9, 13, 15, 7, 12, 8, 9, 11, 7, 7, 12, 7, 6, 15, 13, 11],
     [9, 7, 15, 11, 8, 6, 6, 14, 12, 13, 5, 14, 13, 13, 7, 5],
     [15, 5, 8, 11, 14, 14, 6, 14, 6, 9, 12, 9, 12, 5, 15, 8],
     [8, 5, 12, 9, 12, 5, 14, 6, 8, 13, 6, 5, 15, 13, 11, 11]]

/-- Rotation to the left. -/
def rotate (x n : UInt32) : UInt32 := (x <<< n) ||| (x >>> (32 - n))

/-- One step with the function `f`, the constant `k`, the word `x` and the rotation `r`. -/
def State.step (f : UInt32 → UInt32 → UInt32 → UInt32) (k x r : UInt32) (s : State) : State :=
  ⟨s.e, rotate (s.a + f s.b s.c s.d + x + k) r + s.e, s.b, rotate s.c 10, s.d⟩

/-- The eighty steps of a line over the words `x` of a block. -/
def Line.run (l : Line) (x : Array UInt32) (s : State) : State :=
  let groups := l.functions.zip (l.constants.zip (l.words.zip l.rotations))
  groups.foldl
    (fun s (f, k, ws, rs) => (ws.zip rs).foldl (fun s (i, r) => s.step f k (x.getD i 0) r) s) s

/-- The word spelled by a little-endian byte string. -/
def word (bs : Bytes) : UInt32 := bs.foldr (fun b w => (w <<< 8) ||| b.toUInt32) 0

/-- Takes a block in. -/
def compress (s : State) (block : Bytes) : State :=
  let x := ((blocks 4 block).map word).toArray
  let l := left.run x s
  let r := right.run x s
  ⟨s.b + l.c + r.d, s.c + l.d + r.e, s.d + l.e + r.a, s.e + l.a + r.b, s.a + l.b + r.c⟩

/-- The bytes of the words, each least significant byte first. -/
def State.bytes (s : State) : Bytes :=
  [s.a, s.b, s.c, s.d, s.e].flatMap fun w => Bytes.ofNatReversed 4 w.toNat

/-- The hash function: blocks of 64 bytes, the length on 8 bytes. -/
def hash : BlockHash where
  State := State
  init := init
  blockSize := 64
  lengthField := Bytes.ofNatReversed 8
  compress := compress
  output := State.bytes

/-- The 20-byte digest of a message. -/
def digest (message : Bytes) : Bytes := hash.digest message

/-- Digests have twenty bytes. -/
theorem length_digest (message : Bytes) : (digest message).length = 20 := by
  simp [digest, BlockHash.digest, BlockHash.resume, hash, State.bytes]

end SeedVault.Ripemd160
