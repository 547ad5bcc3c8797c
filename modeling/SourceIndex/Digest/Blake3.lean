/-!
# BLAKE3

The unkeyed 256-bit digest of a byte sequence. The message is cut into chunks of 1024 bytes, the
leaves of a binary tree whose left subtrees are full; every node is compressed to eight words.
-/

namespace SourceIndex.Digest.Blake3

/-- Four words that are processed side by side. -/
structure Lanes where
  a : UInt32
  b : UInt32
  c : UInt32
  d : UInt32

namespace Lanes

/-- Lane by lane combination. -/
@[inline] def zip (f : UInt32 → UInt32 → UInt32) (x y : Lanes) : Lanes :=
  ⟨f x.a y.a, f x.b y.b, f x.c y.c, f x.d y.d⟩

/-- The same operation on every lane. -/
@[inline] def map (f : UInt32 → UInt32) (x : Lanes) : Lanes := ⟨f x.a, f x.b, f x.c, f x.d⟩

/-- The lanes moved left by one place. -/
def shift (x : Lanes) : Lanes := ⟨x.b, x.c, x.d, x.a⟩

/-- The lanes in order. -/
def words (x : Lanes) : List UInt32 := [x.a, x.b, x.c, x.d]

end Lanes

/-- The sixteen words of the permutation, row by row. -/
structure State where
  top : Lanes
  upper : Lanes
  lower : Lanes
  bottom : Lanes

/-- The bits of a word moved right by `n`, the lowest ones entering on the left. -/
def rotateRight (n x : UInt32) : UInt32 := (x >>> n) ||| (x <<< (32 - n))

/-- Mixes two rows of message words into the columns. -/
def mixColumns (s : State) (x y : Lanes) : State :=
  let top := (s.top.zip (· + ·) s.upper).zip (· + ·) x
  let bottom := (s.bottom.zip (· ^^^ ·) top).map (rotateRight 16)
  let lower := s.lower.zip (· + ·) bottom
  let upper := (s.upper.zip (· ^^^ ·) lower).map (rotateRight 12)
  let top := (top.zip (· + ·) upper).zip (· + ·) y
  let bottom := (bottom.zip (· ^^^ ·) top).map (rotateRight 8)
  let lower := lower.zip (· + ·) bottom
  let upper := (upper.zip (· ^^^ ·) lower).map (rotateRight 7)
  ⟨top, upper, lower, bottom⟩

/-- Mixes two rows of message words into the diagonals. -/
def mixDiagonals (s : State) (x y : Lanes) : State :=
  let mixed := mixColumns
    ⟨s.top, s.upper.shift, s.lower.shift.shift, s.bottom.shift.shift.shift⟩ x y
  ⟨mixed.top, mixed.upper.shift.shift.shift, mixed.lower.shift.shift, mixed.bottom.shift⟩

/-- One round: columns, then diagonals. -/
def round (s : State) (message : List UInt32) : State :=
  match message with
  | [m0, m1, m2, m3, m4, m5, m6, m7, m8, m9, m10, m11, m12, m13, m14, m15] =>
    mixDiagonals (mixColumns s ⟨m0, m2, m4, m6⟩ ⟨m1, m3, m5, m7⟩)
      ⟨m8, m10, m12, m14⟩ ⟨m9, m11, m13, m15⟩
  | _ => s

/-- The order of the message words in the next round. -/
def permute (message : List UInt32) : List UInt32 :=
  [2, 6, 3, 10, 7, 0, 4, 13, 1, 11, 12, 5, 9, 14, 15, 8].map (message.getD · 0)

/-- Rounds with the message permuted between them. -/
def rounds : Nat → State → List UInt32 → State
  | 0, s, _ => s
  | count + 1, s, message => rounds count (round s message) (permute message)

/-- The constants that start every compression. -/
def initial : Lanes × Lanes :=
  (⟨0x6a09e667, 0xbb67ae85, 0x3c6ef372, 0xa54ff53a⟩,
   ⟨0x510e527f, 0x9b05688c, 0x1f83d9ab, 0x5be0cd19⟩)

/-- Marks the first block of a chunk. -/
def chunkStart : UInt32 := 1

/-- Marks the last block of a chunk. -/
def chunkEnd : UInt32 := 2

/-- Marks an inner node. -/
def parent : UInt32 := 4

/-- Marks the root of the tree. -/
def root : UInt32 := 8

/-- The input of the last compression of a node, which is finished with or without the root mark. -/
structure Node where
  chain : Lanes × Lanes
  message : List UInt32
  counter : Nat
  size : Nat
  flags : UInt32

/-- The eight words of a compression. -/
def compress (node : Node) : Lanes × Lanes :=
  let s := rounds 7
    ⟨node.chain.1, node.chain.2, initial.1,
      ⟨UInt32.ofNat node.counter, UInt32.ofNat (node.counter / UInt32.size), UInt32.ofNat node.size,
        node.flags⟩⟩ node.message
  (s.top.zip (· ^^^ ·) s.lower, s.upper.zip (· ^^^ ·) s.bottom)

/-- The little-endian word of four bytes. -/
def word (a b c d : UInt8) : UInt32 :=
  a.toUInt32 ||| (b.toUInt32 <<< 8) ||| (c.toUInt32 <<< 16) ||| (d.toUInt32 <<< 24)

/-- The bytes as `count` words, with zeros where they run out. -/
def wordsOf : Nat → List UInt8 → List UInt32
  | 0, _ => []
  | count + 1, bytes =>
    word (bytes.getD 0 0) (bytes.getD 1 0) (bytes.getD 2 0) (bytes.getD 3 0)
      :: wordsOf count (bytes.drop 4)

/-- The bytes of a word, the lowest first. -/
def bytesOf (w : UInt32) : List UInt8 :=
  [w.toUInt8, (w >>> 8).toUInt8, (w >>> 16).toUInt8, (w >>> 24).toUInt8]

/-- Runs through the blocks of a chunk; `count` is the number of blocks after this one. -/
def chunkBlocks (counter : Nat) : Nat → Lanes × Lanes → UInt32 → List UInt8 → Node
  | 0, chain, start, bytes =>
    ⟨chain, wordsOf 16 bytes, counter, bytes.length, start ||| chunkEnd⟩
  | count + 1, chain, start, bytes =>
    let block := bytes.take 64
    chunkBlocks counter count (compress ⟨chain, wordsOf 16 block, counter, 64, start⟩) 0
      (bytes.drop 64)

/-- The node of a chunk of at most 1024 bytes. -/
def chunkNode (counter : Nat) (chunk : List UInt8) : Node :=
  chunkBlocks counter ((chunk.length - 1) / 64) initial chunkStart chunk

/-- The node above two subtrees. -/
def parentNode (left right : Lanes × Lanes) : Node :=
  ⟨initial, left.1.words ++ left.2.words ++ right.1.words ++ right.2.words, 0, 64, parent⟩

/-- The largest power of two below `n`, at least one. -/
def powerBelow (n : Nat) : Nat := 1 <<< Nat.log2 (n - 1)

/-- The node of a subtree over the chunks numbered from `counter`. The depth bounds the height. -/
def treeNode : (depth counter : Nat) → List (List UInt8) → Node
  | _, counter, [chunk] => chunkNode counter chunk
  | 0, counter, chunks => chunkNode counter (chunks.headD [])
  | depth + 1, counter, chunks =>
    let size := powerBelow chunks.length
    parentNode (compress (treeNode depth counter (chunks.take size)))
      (compress (treeNode depth (counter + size) (chunks.drop size)))

/-- The bytes in chunks of 1024; `count` is the number of chunks after the first. -/
def chunksOf : Nat → List UInt8 → List (List UInt8)
  | 0, bytes => [bytes]
  | count + 1, bytes => bytes.take 1024 :: chunksOf count (bytes.drop 1024)

/-- The thirty-two bytes of the digest. -/
def digest (message : List UInt8) : List UInt8 :=
  let chunks := chunksOf ((message.length - 1) / 1024) message
  let top := treeNode chunks.length 0 chunks
  let (low, high) := compress { top with flags := top.flags ||| root }
  (low.words ++ high.words).flatMap bytesOf

end SourceIndex.Digest.Blake3
