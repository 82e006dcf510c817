import ReleaseMatrix.Text

namespace ReleaseMatrix

namespace Sha256

/-- The chaining value: eight words. -/
structure State where
  a : UInt32
  b : UInt32
  c : UInt32
  d : UInt32
  e : UInt32
  f : UInt32
  g : UInt32
  h : UInt32

/-- The first 32 bits of the fractional parts of the square roots of the first eight primes. -/
def initial : State :=
  ⟨0x6a09e667, 0xbb67ae85, 0x3c6ef372, 0xa54ff53a, 0x510e527f, 0x9b05688c, 0x1f83d9ab, 0x5be0cd19⟩

/-- The first 32 bits of the fractional parts of the cube roots of the first 64 primes. -/
def roundConstants : List UInt32 :=
  [0x428a2f98, 0x71374491, 0xb5c0fbcf, 0xe9b5dba5, 0x3956c25b, 0x59f111f1, 0x923f82a4, 0xab1c5ed5,
   0xd807aa98, 0x12835b01, 0x243185be, 0x550c7dc3, 0x72be5d74, 0x80deb1fe, 0x9bdc06a7, 0xc19bf174,
   0xe49b69c1, 0xefbe4786, 0x0fc19dc6, 0x240ca1cc, 0x2de92c6f, 0x4a7484aa, 0x5cb0a9dc, 0x76f988da,
   0x983e5152, 0xa831c66d, 0xb00327c8, 0xbf597fc7, 0xc6e00bf3, 0xd5a79147, 0x06ca6351, 0x14292967,
   0x27b70a85, 0x2e1b2138, 0x4d2c6dfc, 0x53380d13, 0x650a7354, 0x766a0abb, 0x81c2c92e, 0x92722c85,
   0xa2bfe8a1, 0xa81a664b, 0xc24b8b70, 0xc76c51a3, 0xd192e819, 0xd6990624, 0xf40e3585, 0x106aa070,
   0x19a4c116, 0x1e376c08, 0x2748774c, 0x34b0bcb5, 0x391c0cb3, 0x4ed8aa4a, 0x5b9cca4f, 0x682e6ff3,
   0x748f82ee, 0x78a5636f, 0x84c87814, 0x8cc70208, 0x90befffa, 0xa4506ceb, 0xbef9a3f7, 0xc67178f2]

def rotateRight (x n : UInt32) : UInt32 :=
  (x >>> n) ||| (x <<< (32 - n))

/-- The bytes of a number, most significant first. -/
def bigEndian (width value : Nat) : Bytes :=
  (List.range width).reverse.map fun i => UInt8.ofNat (value / Nat.pow 256 i % 256)

/-- How many zeros bring a message, the delimiter byte and the length to full blocks. -/
def zeroCount (length : Nat) : Nat :=
  (119 - length % 64) % 64

/-- The message followed by a single bit, zeros and its length in bits. -/
def pad (message : Bytes) : Bytes :=
  message ++ 0x80 :: (List.replicate (zeroCount message.length) 0 ++ bigEndian 8 (8 * message.length))

def words : Bytes → List UInt32
  | a :: b :: c :: d :: rest =>
    (a.toUInt32 <<< 24 ||| b.toUInt32 <<< 16 ||| c.toUInt32 <<< 8 ||| d.toUInt32) :: words rest
  | _ => []

/-- The schedule after `n` more words, newest first. -/
def extend : Nat → List UInt32 → List UInt32
  | 0, ws => ws
  | n + 1, ws =>
    let x := ws.getD 1 0
    let y := ws.getD 14 0
    let s1 := rotateRight x 17 ^^^ rotateRight x 19 ^^^ (x >>> 10)
    let s0 := rotateRight y 7 ^^^ rotateRight y 18 ^^^ (y >>> 3)
    extend n ((s1 + ws.getD 6 0 + s0 + ws.getD 15 0) :: ws)

def schedule (block : Bytes) : List UInt32 :=
  (extend 48 (words block).reverse).reverse

def round (s : State) (k w : UInt32) : State :=
  let s1 := rotateRight s.e 6 ^^^ rotateRight s.e 11 ^^^ rotateRight s.e 25
  let choice := (s.e &&& s.f) ^^^ (~~~s.e &&& s.g)
  let t1 := s.h + s1 + choice + k + w
  let s0 := rotateRight s.a 2 ^^^ rotateRight s.a 13 ^^^ rotateRight s.a 22
  let majority := (s.a &&& s.b) ^^^ (s.a &&& s.c) ^^^ (s.b &&& s.c)
  ⟨t1 + (s0 + majority), s.a, s.b, s.c, s.d + t1, s.e, s.f, s.g⟩

def compress (s : State) (block : Bytes) : State :=
  let r := (roundConstants.zip (schedule block)).foldl (fun s (k, w) => round s k w) s
  ⟨s.a + r.a, s.b + r.b, s.c + r.c, s.d + r.d, s.e + r.e, s.f + r.f, s.g + r.g, s.h + r.h⟩

/-- Compresses `n` blocks of 64 bytes. -/
def absorb : Nat → State → Bytes → State
  | 0, s, _ => s
  | n + 1, s, bytes => absorb n (compress s (bytes.take 64)) (bytes.drop 64)

def State.bytes (s : State) : Bytes :=
  [s.a, s.b, s.c, s.d, s.e, s.f, s.g, s.h].flatMap fun w => bigEndian 4 w.toNat

def digest (message : Bytes) : Bytes :=
  let padded := pad message
  (absorb (padded.length / 64) initial padded).bytes

/-- What digests of 224 bits start from. -/
def shortInitial : State :=
  ⟨0xc1059ed8, 0x367cd507, 0x3070dd17, 0xf70e5939, 0xffc00b31, 0x68581511, 0x64f98fa7, 0xbefa4fa4⟩

/-- The digest of 224 bits. -/
def shortDigest (message : Bytes) : Bytes :=
  let padded := pad message
  ((absorb (padded.length / 64) shortInitial padded).bytes).take 28

end Sha256

/-- The byte as two lowercase hexadecimal digits. -/
def hexByte (b : UInt8) : List Char :=
  [Nat.digitChar (b.toNat / 16), Nat.digitChar (b.toNat % 16)]

def hex (bytes : Bytes) : String :=
  String.ofList (bytes.flatMap hexByte)

end ReleaseMatrix

namespace ReleaseMatrix.Sha512

/-- The chaining value: eight words. -/
structure State where
  a : UInt64
  b : UInt64
  c : UInt64
  d : UInt64
  e : UInt64
  f : UInt64
  g : UInt64
  h : UInt64

/-- The first 64 bits of the fractional parts of the square roots of the first eight primes. -/
def initial : State :=
  ⟨0x6a09e667f3bcc908, 0xbb67ae8584caa73b, 0x3c6ef372fe94f82b, 0xa54ff53a5f1d36f1,
   0x510e527fade682d1, 0x9b05688c2b3e6c1f, 0x1f83d9abfb41bd6b, 0x5be0cd19137e2179⟩

/-- The same of the next eight primes, for shorter digests. -/
def shortInitial : State :=
  ⟨0xcbbb9d5dc1059ed8, 0x629a292a367cd507, 0x9159015a3070dd17, 0x152fecd8f70e5939,
   0x67332667ffc00b31, 0x8eb44a8768581511, 0xdb0c2e0d64f98fa7, 0x47b5481dbefa4fa4⟩

/-- The first 64 bits of the fractional parts of the cube roots of the first 80 primes. -/
def roundConstants : List UInt64 :=
  [0x428a2f98d728ae22, 0x7137449123ef65cd, 0xb5c0fbcfec4d3b2f, 0xe9b5dba58189dbbc,
   0x3956c25bf348b538, 0x59f111f1b605d019, 0x923f82a4af194f9b, 0xab1c5ed5da6d8118,
   0xd807aa98a3030242, 0x12835b0145706fbe, 0x243185be4ee4b28c, 0x550c7dc3d5ffb4e2,
   0x72be5d74f27b896f, 0x80deb1fe3b1696b1, 0x9bdc06a725c71235, 0xc19bf174cf692694,
   0xe49b69c19ef14ad2, 0xefbe4786384f25e3, 0x0fc19dc68b8cd5b5, 0x240ca1cc77ac9c65,
   0x2de92c6f592b0275, 0x4a7484aa6ea6e483, 0x5cb0a9dcbd41fbd4, 0x76f988da831153b5,
   0x983e5152ee66dfab, 0xa831c66d2db43210, 0xb00327c898fb213f, 0xbf597fc7beef0ee4,
   0xc6e00bf33da88fc2, 0xd5a79147930aa725, 0x06ca6351e003826f, 0x142929670a0e6e70,
   0x27b70a8546d22ffc, 0x2e1b21385c26c926, 0x4d2c6dfc5ac42aed, 0x53380d139d95b3df,
   0x650a73548baf63de, 0x766a0abb3c77b2a8, 0x81c2c92e47edaee6, 0x92722c851482353b,
   0xa2bfe8a14cf10364, 0xa81a664bbc423001, 0xc24b8b70d0f89791, 0xc76c51a30654be30,
   0xd192e819d6ef5218, 0xd69906245565a910, 0xf40e35855771202a, 0x106aa07032bbd1b8,
   0x19a4c116b8d2d0c8, 0x1e376c085141ab53, 0x2748774cdf8eeb99, 0x34b0bcb5e19b48a8,
   0x391c0cb3c5c95a63, 0x4ed8aa4ae3418acb, 0x5b9cca4f7763e373, 0x682e6ff3d6b2b8a3,
   0x748f82ee5defb2fc, 0x78a5636f43172f60, 0x84c87814a1f0ab72, 0x8cc702081a6439ec,
   0x90befffa23631e28, 0xa4506cebde82bde9, 0xbef9a3f7b2c67915, 0xc67178f2e372532b,
   0xca273eceea26619c, 0xd186b8c721c0c207, 0xeada7dd6cde0eb1e, 0xf57d4f7fee6ed178,
   0x06f067aa72176fba, 0x0a637dc5a2c898a6, 0x113f9804bef90dae, 0x1b710b35131c471b,
   0x28db77f523047d84, 0x32caab7b40c72493, 0x3c9ebe0a15c9bebc, 0x431d67c49c100d4c,
   0x4cc5d4becb3e42b6, 0x597f299cfc657e2a, 0x5fcb6fab3ad6faec, 0x6c44198c4a475817]

def rotateRight (x n : UInt64) : UInt64 :=
  (x >>> n) ||| (x <<< (64 - n))

/-- The message followed by a single bit, zeros and its length in bits. -/
def pad (message : Bytes) : Bytes :=
  message ++ 0x80 ::
    (List.replicate ((239 - message.length % 128) % 128) 0 ++ Sha256.bigEndian 16 (8 * message.length))

def words : Bytes → List UInt64
  | a :: b :: c :: d :: e :: f :: g :: h :: rest =>
    ([a, b, c, d, e, f, g, h].foldl (fun (w : UInt64) byte => w <<< 8 ||| byte.toUInt64) 0) :: words rest
  | _ => []

/-- The schedule after `n` more words, newest first. -/
def extend : Nat → List UInt64 → List UInt64
  | 0, ws => ws
  | n + 1, ws =>
    let x := ws.getD 1 0
    let y := ws.getD 14 0
    let s1 := rotateRight x 19 ^^^ rotateRight x 61 ^^^ (x >>> 6)
    let s0 := rotateRight y 1 ^^^ rotateRight y 8 ^^^ (y >>> 7)
    extend n ((s1 + ws.getD 6 0 + s0 + ws.getD 15 0) :: ws)

def round (s : State) (k w : UInt64) : State :=
  let s1 := rotateRight s.e 14 ^^^ rotateRight s.e 18 ^^^ rotateRight s.e 41
  let choice := (s.e &&& s.f) ^^^ (~~~s.e &&& s.g)
  let t1 := s.h + s1 + choice + k + w
  let s0 := rotateRight s.a 28 ^^^ rotateRight s.a 34 ^^^ rotateRight s.a 39
  let majority := (s.a &&& s.b) ^^^ (s.a &&& s.c) ^^^ (s.b &&& s.c)
  ⟨t1 + (s0 + majority), s.a, s.b, s.c, s.d + t1, s.e, s.f, s.g⟩

def compress (s : State) (block : Bytes) : State :=
  let schedule := (extend 64 (words block).reverse).reverse
  let r := (roundConstants.zip schedule).foldl (fun s (k, w) => round s k w) s
  ⟨s.a + r.a, s.b + r.b, s.c + r.c, s.d + r.d, s.e + r.e, s.f + r.f, s.g + r.g, s.h + r.h⟩

/-- Compresses `n` blocks of 128 bytes. -/
def absorb : Nat → State → Bytes → State
  | 0, s, _ => s
  | n + 1, s, bytes => absorb n (compress s (bytes.take 128)) (bytes.drop 128)

/-- The digest that starts from a chaining value. -/
def digestFrom (start : State) (message : Bytes) : Bytes :=
  let padded := pad message
  let s := absorb (padded.length / 128) start padded
  [s.a, s.b, s.c, s.d, s.e, s.f, s.g, s.h].flatMap fun w => Sha256.bigEndian 8 w.toNat

def digest (message : Bytes) : Bytes :=
  digestFrom initial message

/-- The digest of 384 bits. -/
def shortDigest (message : Bytes) : Bytes :=
  (digestFrom shortInitial message).take 48

end ReleaseMatrix.Sha512

namespace ReleaseMatrix.Sha1

/-- The chaining value: five words. -/
structure State where
  a : UInt32
  b : UInt32
  c : UInt32
  d : UInt32
  e : UInt32

def initial : State :=
  ⟨0x67452301, 0xefcdab89, 0x98badcfe, 0x10325476, 0xc3d2e1f0⟩

def rotateLeft (x n : UInt32) : UInt32 :=
  (x <<< n) ||| (x >>> (32 - n))

/-- The schedule after `n` more words, newest first. -/
def extend : Nat → List UInt32 → List UInt32
  | 0, ws => ws
  | n + 1, ws =>
    extend n (rotateLeft (ws.getD 2 0 ^^^ ws.getD 7 0 ^^^ ws.getD 13 0 ^^^ ws.getD 15 0) 1 :: ws)

/-- One round, with its number and its word. -/
def round (s : State) (i : Nat) (w : UInt32) : State :=
  let (mixed, k) : UInt32 × UInt32 := match i / 20 with
    | 0 => ((s.b &&& s.c) ||| (~~~s.b &&& s.d), 0x5a827999)
    | 1 => (s.b ^^^ s.c ^^^ s.d, 0x6ed9eba1)
    | 2 => ((s.b &&& s.c) ||| (s.b &&& s.d) ||| (s.c &&& s.d), 0x8f1bbcdc)
    | _ => (s.b ^^^ s.c ^^^ s.d, 0xca62c1d6)
  ⟨rotateLeft s.a 5 + mixed + s.e + k + w, s.a, rotateLeft s.b 30, s.c, s.d⟩

def compress (s : State) (block : Bytes) : State :=
  let schedule := (extend 64 (Sha256.words block).reverse).reverse
  let r := schedule.zipIdx.foldl (fun s (w, i) => round s i w) s
  ⟨s.a + r.a, s.b + r.b, s.c + r.c, s.d + r.d, s.e + r.e⟩

/-- Compresses `n` blocks of 64 bytes. -/
def absorb : Nat → State → Bytes → State
  | 0, s, _ => s
  | n + 1, s, bytes => absorb n (compress s (bytes.take 64)) (bytes.drop 64)

def digest (message : Bytes) : Bytes :=
  let padded := Sha256.pad message
  let s := absorb (padded.length / 64) initial padded
  [s.a, s.b, s.c, s.d, s.e].flatMap fun w => Sha256.bigEndian 4 w.toNat

end ReleaseMatrix.Sha1

namespace ReleaseMatrix.Md5

/-- The chaining value: four words. -/
structure State where
  a : UInt32
  b : UInt32
  c : UInt32
  d : UInt32

def initial : State :=
  ⟨0x67452301, 0xefcdab89, 0x98badcfe, 0x10325476⟩

/-- The first 32 bits of the sines of the first 64 whole numbers, without their signs. -/
def sines : Array UInt32 :=
  #[0xd76aa478, 0xe8c7b756, 0x242070db, 0xc1bdceee, 0xf57c0faf, 0x4787c62a, 0xa8304613, 0xfd469501,
   0x698098d8, 0x8b44f7af, 0xffff5bb1, 0x895cd7be, 0x6b901122, 0xfd987193, 0xa679438e, 0x49b40821,
   0xf61e2562, 0xc040b340, 0x265e5a51, 0xe9b6c7aa, 0xd62f105d, 0x02441453, 0xd8a1e681, 0xe7d3fbc8,
   0x21e1cde6, 0xc33707d6, 0xf4d50d87, 0x455a14ed, 0xa9e3e905, 0xfcefa3f8, 0x676f02d9, 0x8d2a4c8a,
   0xfffa3942, 0x8771f681, 0x6d9d6122, 0xfde5380c, 0xa4beea44, 0x4bdecfa9, 0xf6bb4b60, 0xbebfbc70,
   0x289b7ec6, 0xeaa127fa, 0xd4ef3085, 0x04881d05, 0xd9d4d039, 0xe6db99e5, 0x1fa27cf8, 0xc4ac5665,
   0xf4292244, 0x432aff97, 0xab9423a7, 0xfc93a039, 0x655b59c3, 0x8f0ccc92, 0xffeff47d, 0x85845dd1,
   0x6fa87e4f, 0xfe2ce6e0, 0xa3014314, 0x4e0811a1, 0xf7537e82, 0xbd3af235, 0x2ad7d2bb, 0xeb86d391]

/-- By how many bits the rounds turn, four numbers for each group of sixteen rounds. -/
def turns : Array UInt32 :=
  #[7, 12, 17, 22, 5, 9, 14, 20, 4, 11, 16, 23, 6, 10, 15, 21]

def rotateLeft (x n : UInt32) : UInt32 :=
  (x <<< n) ||| (x >>> (32 - n))

/-- The bytes of a number, least significant first. -/
def littleEndian (width value : Nat) : Bytes :=
  (List.range width).map fun i => UInt8.ofNat (value / Nat.pow 256 i % 256)

/-- The message followed by a single bit, zeros and its length in bits. -/
def pad (message : Bytes) : Bytes :=
  message ++ 0x80 :: (List.replicate ((119 - message.length % 64) % 64) 0 ++ littleEndian 8 (8 * message.length))

def words : Bytes → List UInt32
  | a :: b :: c :: d :: rest =>
    (a.toUInt32 ||| b.toUInt32 <<< 8 ||| c.toUInt32 <<< 16 ||| d.toUInt32 <<< 24) :: words rest
  | _ => []

/-- One round, with the words of the block. -/
def round (block : Array UInt32) (s : State) (i : Nat) : State :=
  let (mixed, k) := match i / 16 with
    | 0 => ((s.b &&& s.c) ||| (~~~s.b &&& s.d), i)
    | 1 => ((s.d &&& s.b) ||| (~~~s.d &&& s.c), 5 * i + 1)
    | 2 => (s.b ^^^ s.c ^^^ s.d, 3 * i + 5)
    | _ => (s.c ^^^ (s.b ||| ~~~s.d), 7 * i)
  let sum := s.a + mixed + sines.getD i 0 + block.getD (k % 16) 0
  ⟨s.d, s.b + rotateLeft sum (turns.getD (i / 16 * 4 + i % 4) 0), s.b, s.c⟩

def compress (s : State) (block : Bytes) : State :=
  let r := (List.range 64).foldl (round (words block).toArray) s
  ⟨s.a + r.a, s.b + r.b, s.c + r.c, s.d + r.d⟩

/-- Compresses `n` blocks of 64 bytes. -/
def absorb : Nat → State → Bytes → State
  | 0, s, _ => s
  | n + 1, s, bytes => absorb n (compress s (bytes.take 64)) (bytes.drop 64)

def digest (message : Bytes) : Bytes :=
  let padded := pad message
  let s := absorb (padded.length / 64) initial padded
  [s.a, s.b, s.c, s.d].flatMap fun w => littleEndian 4 w.toNat

end ReleaseMatrix.Md5
