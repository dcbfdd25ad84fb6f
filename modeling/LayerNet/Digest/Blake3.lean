/-!
# The BLAKE3 digest

Bytes are cut into chunks of 1024 bytes and chunks into blocks of 64.  The blocks of a chunk are
compressed one after another; the chunks are the leaves of a binary tree whose left subtrees are
complete and as large as possible.  The digest is the root's output, 32 bytes written in
hexadecimal.

Main definitions:

- `compress`: the compression function.
- `Node`: a place of the tree before its last compression, a leaf or a parent.
- `Node.ofList`: the tree over a list of leaves.
- `hexDigest`: the digest of bytes.
-/

namespace LayerNet.Blake3

/-! ## Words -/

/-- Eight words that chain one compression to the next. -/
abbrev Chain := Vector UInt32 8

/-- Sixteen words: a message block, or the state of a compression. -/
abbrev Block := Vector UInt32 16

/-- The words that a chain begins with. -/
def initial : Chain :=
  #v[0x6A09E667, 0xBB67AE85, 0x3C6EF372, 0xA54FF53A, 0x510E527F, 0x9B05688C, 0x1F83D9AB, 0x5BE0CD19]

/-- Turns a word to the right. -/
def turn (x : UInt32) (n : UInt32) : UInt32 :=
  (x >>> n) ||| (x <<< (32 - n))

/-! ## Compression -/

/-- Mixes two message words into four words of the state. -/
def mix (s : Block) (a b c d : Fin 16) (x y : UInt32) : Block :=
  let s := s.set a (s[a] + s[b] + x)
  let s := s.set d (turn (s[d] ^^^ s[a]) 16)
  let s := s.set c (s[c] + s[d])
  let s := s.set b (turn (s[b] ^^^ s[c]) 12)
  let s := s.set a (s[a] + s[b] + y)
  let s := s.set d (turn (s[d] ^^^ s[a]) 8)
  let s := s.set c (s[c] + s[d])
  s.set b (turn (s[b] ^^^ s[c]) 7)

/-- One round: the columns, then the diagonals. -/
def round (s m : Block) : Block :=
  let s := mix s 0 4 8 12 m[0] m[1]
  let s := mix s 1 5 9 13 m[2] m[3]
  let s := mix s 2 6 10 14 m[4] m[5]
  let s := mix s 3 7 11 15 m[6] m[7]
  let s := mix s 0 5 10 15 m[8] m[9]
  let s := mix s 1 6 11 12 m[10] m[11]
  let s := mix s 2 7 8 13 m[12] m[13]
  mix s 3 4 9 14 m[14] m[15]

/-- The order of the message words in the next round. -/
def permuted (m : Block) : Block :=
  #v[m[2], m[6], m[3], m[10], m[7], m[0], m[4], m[13], m[1], m[11], m[12], m[5], m[9], m[14], m[15],
    m[8]]

/-- Further rounds, the message permuted before each. -/
def rounds : Nat → Block → Block → Block
  | 0, s, _ => s
  | n + 1, s, m => rounds n (round s (permuted m)) (permuted m)

/-- The compression function, seven rounds; its result is cut to the chaining words. -/
def compress (chain : Chain) (m : Block) (counter : UInt64) (size flags : UInt32) : Chain :=
  let s : Block := #v[
    chain[0], chain[1], chain[2], chain[3], chain[4], chain[5], chain[6], chain[7],
    initial[0], initial[1], initial[2], initial[3],
    counter.toUInt32, (counter >>> 32).toUInt32, size, flags]
  let s := rounds 6 (round s m) m
  #v[s[0] ^^^ s[8], s[1] ^^^ s[9], s[2] ^^^ s[10], s[3] ^^^ s[11],
    s[4] ^^^ s[12], s[5] ^^^ s[13], s[6] ^^^ s[14], s[7] ^^^ s[15]]

/-! ## Flags -/

/-- Marks the first block of a chunk. -/
def chunkStart : UInt32 := 1

/-- Marks the last block of a chunk. -/
def chunkEnd : UInt32 := 2

/-- Marks a parent. -/
def parentFlag : UInt32 := 4

/-- Marks the root. -/
def rootFlag : UInt32 := 8

/-! ## The tree -/

/-- The inputs of a compression that is the root's or some parent's part. -/
structure Node where
  chain : Chain
  block : Block
  counter : UInt64
  size : UInt32
  flags : UInt32

namespace Node

/-- What a node hands to its parent. -/
def output (n : Node) : Chain :=
  compress n.chain n.block n.counter n.size n.flags

/-- What a node gives when it is the root. -/
def rootOutput (n : Node) : Chain :=
  compress n.chain n.block n.counter n.size (n.flags ||| rootFlag)

/-- The parent of two nodes. -/
def parent (left right : Node) : Node where
  chain := initial
  block := left.output.append right.output
  counter := 0
  size := 64
  flags := parentFlag

/-- How many of `n` leaves are in the left subtree: the largest power of two below `n`. -/
def leftSize (n : Nat) : Nat :=
  Nat.pow 2 (Nat.log2 (n - 1))

theorem leftSize_pos (n : Nat) : 0 < leftSize n :=
  Nat.two_pow_pos _

/-- Of two leaves or more some are left for the right subtree. -/
theorem leftSize_lt {n : Nat} (h : 2 ≤ n) : leftSize n < n := by
  have := Nat.log2_self_le (n := n - 1) (by omega)
  simp only [leftSize, Nat.pow_eq]
  omega

/-- The tree over leaves, of which there is at least one. -/
def ofList (leaf : Node) (leaves : List Node) : Node :=
  match leaves with
  | [] => leaf
  | next :: more =>
    let all := leaf :: next :: more
    let k := leftSize all.length
    match _hl : all.take k, _hr : all.drop k with
    | l :: ls, r :: rs => parent (ofList l ls) (ofList r rs)
    | _, _ => leaf
termination_by leaves.length
decreasing_by
  · have total : all.length = more.length + 2 := by simp [all]
    have hk : k < all.length := leftSize_lt (by omega)
    have taken := congrArg List.length _hl
    simp only [List.length_take, List.length_cons] at taken
    simp only [List.length_cons]
    omega
  · have total : all.length = more.length + 2 := by simp [all]
    have hk : 0 < k := leftSize_pos all.length
    have left := congrArg List.length _hr
    simp only [List.length_drop, List.length_cons] at left
    simp only [List.length_cons]
    omega

end Node

/-! ## Chunks -/

/-- Cuts a list into pieces of `n + 1` items; the last may be shorter, and there is at least one. -/
def pieces {α : Type} (n : Nat) (xs : List α) : List (List α) :=
  if h : xs.length ≤ n + 1 then [xs] else xs.take (n + 1) :: pieces n (xs.drop (n + 1))
termination_by xs.length
decreasing_by
  simp only [List.length_drop]
  omega

/-- The little-endian word at a place of a block; bytes that are missing count as zero. -/
def wordAt (bytes : ByteArray) (i : Nat) : UInt32 :=
  let byte (j : Nat) : UInt32 := (bytes.get! (4 * i + j)).toUInt32
  byte 0 ||| (byte 1 <<< 8) ||| (byte 2 <<< 16) ||| (byte 3 <<< 24)

/-- The words of a block of at most 64 bytes. -/
def blockOf (bytes : List UInt8) : Block :=
  let padded : ByteArray := ⟨(bytes ++ List.replicate (64 - bytes.length) 0).toArray⟩
  Vector.ofFn fun i => wordAt padded i

/-- The leaf of a chunk: all blocks but the last are compressed. -/
def leafFrom (counter : UInt64) (chain : Chain) (start : UInt32) : List (List UInt8) → Node
  | [] => ⟨chain, blockOf [], counter, 0, start ||| chunkEnd⟩
  | [last] => ⟨chain, blockOf last, counter, last.length.toUInt32, start ||| chunkEnd⟩
  | block :: blocks =>
    leafFrom counter (compress chain (blockOf block) counter 64 start) 0 blocks

/-- The leaf of the chunk with the given number. -/
def leaf (number : Nat) (chunk : List UInt8) : Node :=
  leafFrom number.toUInt64 initial chunkStart (pieces 63 chunk)

/-- The root of the tree over bytes. -/
def tree (bytes : List UInt8) : Node :=
  match (pieces 1023 bytes).mapIdx leaf with
  | [] => leaf 0 []
  | first :: more => Node.ofList first more

/-! ## The digest -/

/-- Two hexadecimal digits of a byte. -/
def byteChars (b : Nat) : List Char :=
  [Nat.digitChar (b / 16 % 16), Nat.digitChar (b % 16)]

/-- The hexadecimal digits of a word, its bytes in little-endian order. -/
def wordChars (w : UInt32) : List Char :=
  let n := w.toNat
  byteChars (n % 256) ++ byteChars (n / 256 % 256) ++ byteChars (n / 65536 % 256)
    ++ byteChars (n / 16777216 % 256)

/-- The digest of bytes: 64 hexadecimal digits. -/
def hexDigest (bytes : ByteArray) : String :=
  String.ofList ((tree bytes.toList).rootOutput.toList.flatMap wordChars)

end LayerNet.Blake3
