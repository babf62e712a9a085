namespace DtoGen.Digest

abbrev Bytes := List UInt8

/-- The number in so many bytes, the highest one first. -/
def bigEndian (size n : Nat) : Bytes :=
  (List.range size).map fun i => UInt8.ofNat (n / Nat.pow 256 (size - 1 - i))

def littleEndian (size n : Nat) : Bytes :=
  (bigEndian size n).reverse

/-- A text with a mark, zeros and its length in bits, up to a multiple of a block. -/
def filled (block lengthSize : Nat) (lengthBytes : Nat → Nat → Bytes) (text : Bytes) : Bytes :=
  let used := (text.length + 1 + lengthSize) % block
  let zeros := if used = 0 then 0 else block - used
  text ++ 128 :: List.replicate zeros 0 ++ lengthBytes lengthSize (8 * text.length)

/-- The words of a text, each of so many bytes. The first argument bounds their number. -/
def words (size : Nat) (valueOf : Bytes → Nat) : Nat → Bytes → List Nat
  | 0, _ => []
  | bound + 1, bs =>
    if bs.isEmpty then [] else valueOf (bs.take size) :: words size valueOf bound (bs.drop size)

def ofBigEndian (bs : Bytes) : Nat :=
  bs.foldl (fun n b => n * 256 + b.toNat) 0

def ofLittleEndian (bs : Bytes) : Nat :=
  ofBigEndian bs.reverse

/-- Stirs the state with one block of words after the other. The first argument bounds their
number. -/
def stirAll {State : Type} (stir : State → Array Nat → State) :
    Nat → State → List Nat → State
  | 0, state, _ => state
  | bound + 1, state, ws =>
    if ws.isEmpty then state else stirAll stir bound (stir state (ws.take 16).toArray) (ws.drop 16)

/-- The whole part of the absolute value of a root, by its digits in binary: the largest number
whose power is not above the bound. The first argument counts the digits. -/
def rootOf (power bound : Nat) : Nat → Nat → Nat
  | 0, found => found
  | digits + 1, found =>
    let next := found + Nat.pow 2 digits
    rootOf power bound digits (if Nat.pow next power ≤ bound then next else found)

/-- The first bits behind the point of a root of a number. -/
def rootBits (power bits n : Nat) : Nat :=
  rootOf power (n * Nat.pow 2 (power * bits)) (bits + 8) 0 % Nat.pow 2 bits

def isPrime (n : Nat) : Bool :=
  2 ≤ n && (List.range n).all fun d => d < 2 || n % d != 0

def primes : List Nat :=
  (List.range 410).filter isPrime

def turn (w : UInt32) (n : UInt32) : UInt32 :=
  (w <<< n) ||| (w >>> (32 - n))

def md5Turns : Array UInt32 :=
  #[ 7, 12, 17, 22, 5, 9, 14, 20, 4, 11, 16, 23, 6, 10, 15, 21 ]

def md5Constants : Array UInt32 :=
  #[ 0xd76aa478, 0xe8c7b756, 0x242070db, 0xc1bdceee, 0xf57c0faf, 0x4787c62a, 0xa8304613, 0xfd469501,
     0x698098d8, 0x8b44f7af, 0xffff5bb1, 0x895cd7be, 0x6b901122, 0xfd987193, 0xa679438e, 0x49b40821,
     0xf61e2562, 0xc040b340, 0x265e5a51, 0xe9b6c7aa, 0xd62f105d, 0x02441453, 0xd8a1e681, 0xe7d3fbc8,
     0x21e1cde6, 0xc33707d6, 0xf4d50d87, 0x455a14ed, 0xa9e3e905, 0xfcefa3f8, 0x676f02d9, 0x8d2a4c8a,
     0xfffa3942, 0x8771f681, 0x6d9d6122, 0xfde5380c, 0xa4beea44, 0x4bdecfa9, 0xf6bb4b60, 0xbebfbc70,
     0x289b7ec6, 0xeaa127fa, 0xd4ef3085, 0x04881d05, 0xd9d4d039, 0xe6db99e5, 0x1fa27cf8, 0xc4ac5665,
     0xf4292244, 0x432aff97, 0xab9423a7, 0xfc93a039, 0x655b59c3, 0x8f0ccc92, 0xffeff47d, 0x85845dd1,
     0x6fa87e4f, 0xfe2ce6e0, 0xa3014314, 0x4e0811a1, 0xf7537e82, 0xbd3af235, 0x2ad7d2bb,
     0xeb86d391 ]

structure Quad where
  a : UInt32
  b : UInt32
  c : UInt32
  d : UInt32

def md5Step (block : Array Nat) (q : Quad) (i : Nat) : Quad :=
  let (f, g) :=
    if i < 16 then ((q.b &&& q.c) ||| (~~~q.b &&& q.d), i)
    else if i < 32 then ((q.d &&& q.b) ||| (~~~q.d &&& q.c), (5 * i + 1) % 16)
    else if i < 48 then (q.b ^^^ q.c ^^^ q.d, (3 * i + 5) % 16)
    else (q.c ^^^ (q.b ||| ~~~q.d), 7 * i % 16)
  let sum := q.a + f + (md5Constants[i]?).getD 0 + UInt32.ofNat ((block[g]?).getD 0)
  let amount := (md5Turns[i / 16 * 4 + i % 4]?).getD 0
  ⟨q.d, q.b + turn sum amount, q.b, q.c⟩

def md5Stir (q : Quad) (block : Array Nat) : Quad :=
  let r := (List.range 64).foldl (md5Step block) q
  ⟨q.a + r.a, q.b + r.b, q.c + r.c, q.d + r.d⟩

def md5 (text : Bytes) : Bytes :=
  let bs := filled 64 8 littleEndian text
  let start : Quad := ⟨0x67452301, 0xefcdab89, 0x98badcfe, 0x10325476⟩
  let q := stirAll md5Stir (bs.length / 64 + 1) start (words 4 ofLittleEndian bs.length bs)
  [q.a, q.b, q.c, q.d].flatMap fun w => littleEndian 4 w.toNat

/-- The words of a block, each of those behind it made from four before. The first argument counts
the words that are added. -/
def lengthened (next : Array Nat → Nat) : Nat → Array Nat → Array Nat
  | 0, ws => ws
  | count + 1, ws => lengthened next count (ws.push (next ws))

def wordAt (ws : Array Nat) (back : Nat) : Nat :=
  (ws[ws.size - back]?).getD 0

def sha1Next (ws : Array Nat) : Nat :=
  let word (back : Nat) : UInt32 := UInt32.ofNat (wordAt ws back)
  (turn (word 3 ^^^ word 8 ^^^ word 14 ^^^ word 16) 1).toNat

structure Quint where
  quad : Quad
  e : UInt32

def sha1Step (ws : Array Nat) (s : Quint) (i : Nat) : Quint :=
  let q := s.quad
  let (f, k) : UInt32 × UInt32 :=
    if i < 20 then ((q.b &&& q.c) ||| (~~~q.b &&& q.d), 0x5a827999)
    else if i < 40 then (q.b ^^^ q.c ^^^ q.d, 0x6ed9eba1)
    else if i < 60 then ((q.b &&& q.c) ||| (q.b &&& q.d) ||| (q.c &&& q.d), 0x8f1bbcdc)
    else (q.b ^^^ q.c ^^^ q.d, 0xca62c1d6)
  let sum := turn q.a 5 + f + s.e + k + UInt32.ofNat ((ws[i]?).getD 0)
  ⟨⟨sum, q.a, turn q.b 30, q.c⟩, q.d⟩

def sha1Stir (s : Quint) (block : Array Nat) : Quint :=
  let r := (List.range 80).foldl (sha1Step (lengthened sha1Next 64 block)) s
  ⟨⟨s.quad.a + r.quad.a, s.quad.b + r.quad.b, s.quad.c + r.quad.c, s.quad.d + r.quad.d⟩, s.e + r.e⟩

def sha1 (text : Bytes) : Bytes :=
  let bs := filled 64 8 bigEndian text
  let start : Quint := ⟨⟨0x67452301, 0xefcdab89, 0x98badcfe, 0x10325476⟩, 0xc3d2e1f0⟩
  let s := stirAll sha1Stir (bs.length / 64 + 1) start (words 4 ofBigEndian bs.length bs)
  [s.quad.a, s.quad.b, s.quad.c, s.quad.d, s.e].flatMap fun w => bigEndian 4 w.toNat

/-- The sizes and distances of one of the two word lengths. -/
structure Sha2 where
  bits : Nat
  rounds : Nat
  /-- Turns of the words of the state, and of those of the block; of the latter the last is a
  shift. -/
  upper : List Nat
  lower : List Nat
  near : List Nat
  far : List Nat

def sha2Short : Sha2 where
  bits := 32
  rounds := 64
  upper := [2, 13, 22]
  lower := [6, 11, 25]
  near := [7, 18, 3]
  far := [17, 19, 10]

def sha2Long : Sha2 where
  bits := 64
  rounds := 80
  upper := [28, 34, 39]
  lower := [14, 18, 41]
  near := [1, 8, 7]
  far := [19, 61, 6]

namespace Sha2

def modulus (m : Sha2) : Nat :=
  Nat.pow 2 m.bits

/-- The word with its lowest bits taken to the front. -/
def turned (m : Sha2) (w n : Nat) : Nat :=
  (w >>> n) ||| ((w <<< (m.bits - n)) % m.modulus)

def turnedAll (m : Sha2) (amounts : List Nat) (w : Nat) : Nat :=
  amounts.foldl (fun x n => x ^^^ m.turned w n) 0

def mixed (m : Sha2) (amounts : List Nat) (w : Nat) : Nat :=
  m.turnedAll amounts.dropLast w ^^^ (w >>> amounts.getLastD 0)

def next (m : Sha2) (ws : Array Nat) : Nat :=
  (wordAt ws 16 + m.mixed m.near (wordAt ws 15) + wordAt ws 7 + m.mixed m.far (wordAt ws 2))
    % m.modulus

/-- The third roots of prime numbers, behind the point. -/
def constants (m : Sha2) : Array Nat :=
  ((primes.take m.rounds).map (rootBits 3 m.bits)).toArray

/-- One round; the state is eight words. -/
def step (m : Sha2) (ks ws : Array Nat) (state : List Nat) (i : Nat) : List Nat :=
  match state with
  | [a, b, c, d, e, f, g, h] =>
    let choice := (e &&& f) ^^^ ((m.modulus - 1 - e) &&& g)
    let most := (a &&& b) ^^^ (a &&& c) ^^^ (b &&& c)
    let one := h + m.turnedAll m.lower e + choice + (ks[i]?).getD 0 + (ws[i]?).getD 0
    let two := m.turnedAll m.upper a + most
    [(one + two) % m.modulus, a, b, c, (d + one) % m.modulus, e, f, g]
  | state => state

def stir (m : Sha2) (ks : Array Nat) (state : List Nat) (block : Array Nat) : List Nat :=
  let ws := lengthened m.next (m.rounds - 16) block
  let stirred := (List.range m.rounds).foldl (m.step ks ws) state
  (state.zip stirred).map fun (a, b) => (a + b) % m.modulus

def digest (m : Sha2) (start : List Nat) (size : Nat) (text : Bytes) : Bytes :=
  let word := m.bits / 8
  let bs := filled (16 * word) (2 * word) bigEndian text
  let ws := words word ofBigEndian bs.length bs
  let state := stirAll (m.stir m.constants) (bs.length / (16 * word) + 1) start ws
  (state.flatMap (bigEndian word)).take size

/-- The square roots of prime numbers, behind the point. -/
def roots (m : Sha2) : List Nat :=
  (primes.take 8).map (rootBits 2 m.bits)

end Sha2

def sha256 (text : Bytes) : Bytes :=
  sha2Short.digest sha2Short.roots 32 text

def sha512 (text : Bytes) : Bytes :=
  sha2Long.digest sha2Long.roots 64 text

/-- The roots of the second eight prime numbers. -/
def laterRoots : List Nat :=
  ((primes.drop 8).take 8).map (rootBits 2 64)

def sha384 (text : Bytes) : Bytes :=
  sha2Long.digest laterRoots 48 text

def sha224 (text : Bytes) : Bytes :=
  sha2Short.digest (laterRoots.map fun w => w % Nat.pow 2 32) 28 text

def crcStep (crc : UInt32) (b : UInt8) : UInt32 :=
  (List.range 8).foldl
    (fun (c : UInt32) _ => if c &&& 0x80000000 != 0 then (c <<< 1) ^^^ 0x04c11db7 else c <<< 1)
    (crc ^^^ (b.toUInt32 <<< 24))

/-- The bytes of a length, the lowest one first, without zeros at the end. The first argument bounds
their number. -/
def lengthBytes : Nat → Nat → Bytes
  | 0, _ | _, 0 => []
  | bound + 1, n => UInt8.ofNat n :: lengthBytes bound (n / 256)

/-- The checksum by division of polynomials, the length included. -/
def checksum (text : Bytes) : Nat :=
  (~~~((text ++ lengthBytes 8 text.length).foldl crcStep 0)).toNat

/-- A sum of sixteen bits, turned by one bit for each byte. -/
def turningSum (text : Bytes) : Nat :=
  text.foldl (fun sum b => (sum / 2 + sum % 2 * 32768 + b.toNat) % 65536) 0

/-- A sum of sixteen bits with the overflow added. -/
def plainSum (text : Bytes) : Nat :=
  let s := text.foldl (fun sum b => sum + b.toNat) 0
  let r := s % 65536 + s % 4294967296 / 65536
  r % 65536 + r / 65536

end DtoGen.Digest
