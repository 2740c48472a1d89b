import HardwareFingerprint.Bytes.LittleEndian

/-!
# The MD5 sum

A message is padded to whole blocks of 64 bytes; each block is read as sixteen little-endian words
and stirred into a chain of four words in 64 steps. The sum is the chain written out in sixteen
bytes, whatever the length of the message.
-/
namespace HardwareFingerprint.Bytes.Md5

set_option autoImplicit false

/-- The four words carried from block to block. -/
structure Chain where
  a : UInt32
  b : UInt32
  c : UInt32
  d : UInt32

def Chain.start : Chain := ⟨0x67452301, 0xefcdab89, 0x98badcfe, 0x10325476⟩

def Chain.add (x y : Chain) : Chain :=
  ⟨x.a + y.a, x.b + y.b, x.c + y.c, x.d + y.d⟩

/-- The constant added in each step: the integer part of `2 ^ 32 * |sin (i + 1)|`. -/
def constants : Array UInt32 :=
  #[0xd76aa478, 0xe8c7b756, 0x242070db, 0xc1bdceee, 0xf57c0faf, 0x4787c62a, 0xa8304613, 0xfd469501,
    0x698098d8, 0x8b44f7af, 0xffff5bb1, 0x895cd7be, 0x6b901122, 0xfd987193, 0xa679438e, 0x49b40821,
    0xf61e2562, 0xc040b340, 0x265e5a51, 0xe9b6c7aa, 0xd62f105d, 0x02441453, 0xd8a1e681, 0xe7d3fbc8,
    0x21e1cde6, 0xc33707d6, 0xf4d50d87, 0x455a14ed, 0xa9e3e905, 0xfcefa3f8, 0x676f02d9, 0x8d2a4c8a,
    0xfffa3942, 0x8771f681, 0x6d9d6122, 0xfde5380c, 0xa4beea44, 0x4bdecfa9, 0xf6bb4b60, 0xbebfbc70,
    0x289b7ec6, 0xeaa127fa, 0xd4ef3085, 0x04881d05, 0xd9d4d039, 0xe6db99e5, 0x1fa27cf8, 0xc4ac5665,
    0xf4292244, 0x432aff97, 0xab9423a7, 0xfc93a039, 0x655b59c3, 0x8f0ccc92, 0xffeff47d, 0x85845dd1,
    0x6fa87e4f, 0xfe2ce6e0, 0xa3014314, 0x4e0811a1, 0xf7537e82, 0xbd3af235, 0x2ad7d2bb, 0xeb86d391]

/-- The rotation of each step; a round of sixteen steps repeats four of them. -/
def rotations : Array UInt32 :=
  #[7, 12, 17, 22, 5, 9, 14, 20, 4, 11, 16, 23, 6, 10, 15, 21]

def rotateLeft (w n : UInt32) : UInt32 :=
  (w <<< n) ||| (w >>> (32 - n))

/-- The mixing function of a step's round. -/
def mix (round : Nat) (s : Chain) : UInt32 :=
  match round with
  | 0 => (s.b &&& s.c) ||| (~~~s.b &&& s.d)
  | 1 => (s.d &&& s.b) ||| (~~~s.d &&& s.c)
  | 2 => s.b ^^^ s.c ^^^ s.d
  | _ => s.c ^^^ (s.b ||| ~~~s.d)

/-- The word of the block used by a step. -/
def wordIndex (i : Nat) : Nat :=
  match i / 16 with
  | 0 => i
  | 1 => (5 * i + 1) % 16
  | 2 => (3 * i + 5) % 16
  | _ => 7 * i % 16

/-- One of the 64 steps of a block. -/
def step (words : Array UInt32) (s : Chain) (i : Nat) : Chain :=
  let sum := mix (i / 16) s + s.a + constants.getD i 0 + words.getD (wordIndex i) 0
  ⟨s.d, s.b + rotateLeft sum (rotations.getD (i / 16 * 4 + i % 4) 0), s.b, s.c⟩

/-- The little-endian words of a block. -/
def words : Bytes → List UInt32
  | a :: b :: c :: d :: rest => UInt32.ofNat (ofLittleEndian [a, b, c, d]) :: words rest
  | _ => []

/-- A block stirred into the chain. -/
def absorb (s : Chain) (block : Bytes) : Chain :=
  s.add ((List.range 64).foldl (step (words block).toArray) s)

/-- The message, a set bit, zeros up to eight bytes short of a block, and the length in bits. -/
def pad (message : Bytes) : Bytes :=
  let zeros := (119 - message.length % 64) % 64
  message ++ 0x80 :: (List.replicate zeros 0 ++ littleEndian 8 (8 * message.length))

/-- The chain after `count` blocks of the padded message. -/
def absorbBlocks : Nat → Bytes → Chain → Chain
  | 0, _, s => s
  | count + 1, bytes, s => absorbBlocks count (bytes.drop 64) (absorb s (bytes.take 64))

/-- The sixteen bytes of a chain. -/
def Chain.bytes (s : Chain) : Bytes :=
  littleEndian 4 s.a.toNat ++ littleEndian 4 s.b.toNat ++ littleEndian 4 s.c.toNat ++
    littleEndian 4 s.d.toNat

/-- The MD5 sum of a message. -/
def sum (message : Bytes) : Bytes :=
  let padded := pad message
  (absorbBlocks (padded.length / 64) padded .start).bytes

@[simp] theorem length_sum (message : Bytes) : (sum message).length = 16 := by
  simp [sum, Chain.bytes]

end HardwareFingerprint.Bytes.Md5
