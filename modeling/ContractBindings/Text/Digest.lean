/-!
# Digests

Short texts that stand for long ones: checks by division, which find accidents, and digests, in
which a message is cut into blocks that stir a state one after the other. The constants of the
digests are digits of roots of primes, and of sines for the oldest one.

* `md5`, `sha1`, `sha224`, `sha256`, `sha384`, `sha512`: digests as bytes.
* `crc`: the check with the length of the message behind it.
* `rotatingSum`, `plainSum`: sums of bytes.
-/

namespace ContractBindings.Text.Digest

/-! ## Blocks -/

/-- The bytes of a number, the greatest first. -/
def bigBytes (count n : Nat) : List UInt8 :=
  (List.range count).reverse.map fun i => (n / Nat.pow 256 i % 256).toUInt8

/-- The bytes of a number, the least first. -/
def littleBytes (count n : Nat) : List UInt8 :=
  (List.range count).map fun i => (n / Nat.pow 256 i % 256).toUInt8

/-- A message with what is put behind it: a one, zeros, and the number of its bits, so that blocks
of a size are filled. -/
def pad (block lengthSize : Nat) (lengthBytes : Nat → List UInt8) (message : ByteArray) :
    ByteArray :=
  let used := message.size + 1 + lengthSize
  let zeros := (block - used % block) % block
  message ++
    (0x80 :: List.replicate zeros (0 : UInt8) ++ lengthBytes (message.size * 8)).toByteArray

/-- A number in some bytes, the greatest first. -/
def bigAt (bytes : ByteArray) (first count : Nat) : Nat :=
  (List.range count).foldl (fun n i => n * 256 + ((bytes[first + i]?).getD 0).toNat) 0

/-- A number in some bytes, the least first. -/
def littleAt (bytes : ByteArray) (first count : Nat) : Nat :=
  (List.range count).foldr (fun i n => n * 256 + ((bytes[first + i]?).getD 0).toNat) 0

/-- Lets each block of a message stir a state. -/
def overBlocks {σ : Type} (block : Nat) (stir : σ → Nat → σ) (size : Nat) (state : σ) : σ :=
  (List.range (size / block)).foldl (fun s i => stir s (i * block)) state

/-! ## Constants -/

/-- The greatest number of which a power is not above a bound, found bit by bit. -/
def rootOf (power bound : Nat) : Nat → Nat → Nat
  | 0, found => found
  | bit + 1, found =>
    let more := found + Nat.pow 2 bit
    rootOf power bound bit (if Nat.pow more power ≤ bound then more else found)

/-- The first primes. -/
def primes (count : Nat) : List Nat :=
  ((List.range 420).filter fun n => 2 ≤ n && (List.range n).all fun d => d < 2 || n % d ≠ 0).take
    count

/-- The first bits behind the point of a root of a number. -/
def rootBits (power bits n : Nat) : Nat :=
  rootOf power (n * Nat.pow 2 (bits * power)) (bits + 5) 0 % Nat.pow 2 bits

/-- The bits of the cube roots of the first primes. -/
def cubeBits (count bits : Nat) : Array Nat := ((primes count).map (rootBits 3 bits)).toArray

/-- The bits of the square roots of some primes. -/
def squareBits (first count bits : Nat) : List Nat :=
  ((primes (first + count)).drop first).map (rootBits 2 bits)

/-- The constants of the narrow digests. -/
def narrowConstants : Array UInt32 := (cubeBits 64 32).map Nat.toUInt32

/-- The constants of the wide digests. -/
def wideConstants : Array UInt64 := (cubeBits 80 64).map Nat.toUInt64

/-- The digits of the sines of whole numbers. -/
def sineConstants : Array UInt32 := #[
  0xd76aa478, 0xe8c7b756, 0x242070db, 0xc1bdceee, 0xf57c0faf, 0x4787c62a,
  0xa8304613, 0xfd469501, 0x698098d8, 0x8b44f7af, 0xffff5bb1, 0x895cd7be,
  0x6b901122, 0xfd987193, 0xa679438e, 0x49b40821, 0xf61e2562, 0xc040b340,
  0x265e5a51, 0xe9b6c7aa, 0xd62f105d, 0x02441453, 0xd8a1e681, 0xe7d3fbc8,
  0x21e1cde6, 0xc33707d6, 0xf4d50d87, 0x455a14ed, 0xa9e3e905, 0xfcefa3f8,
  0x676f02d9, 0x8d2a4c8a, 0xfffa3942, 0x8771f681, 0x6d9d6122, 0xfde5380c,
  0xa4beea44, 0x4bdecfa9, 0xf6bb4b60, 0xbebfbc70, 0x289b7ec6, 0xeaa127fa,
  0xd4ef3085, 0x04881d05, 0xd9d4d039, 0xe6db99e5, 0x1fa27cf8, 0xc4ac5665,
  0xf4292244, 0x432aff97, 0xab9423a7, 0xfc93a039, 0x655b59c3, 0x8f0ccc92,
  0xffeff47d, 0x85845dd1, 0x6fa87e4f, 0xfe2ce6e0, 0xa3014314, 0x4e0811a1,
  0xf7537e82, 0xbd3af235, 0x2ad7d2bb, 0xeb86d391]

/-! ## Narrow words -/

/-- Turns a word to the left. -/
def turnLeft (x : UInt32) (n : UInt32) : UInt32 := (x <<< n) ||| (x >>> (32 - n))

/-- Turns a word to the right. -/
def turnRight (x : UInt32) (n : UInt32) : UInt32 := (x >>> n) ||| (x <<< (32 - n))

/-- The state of a digest with up to eight narrow words. -/
structure Words where
  a : UInt32 := 0
  b : UInt32 := 0
  c : UInt32 := 0
  d : UInt32 := 0
  e : UInt32 := 0
  f : UInt32 := 0
  g : UInt32 := 0
  h : UInt32 := 0

/-- The sum of two states. -/
def Words.add (s t : Words) : Words :=
  ⟨s.a + t.a, s.b + t.b, s.c + t.c, s.d + t.d, s.e + t.e, s.f + t.f, s.g + t.g, s.h + t.h⟩

/-- By how much a round of the oldest digest turns a word. -/
def sineTurn (round : Nat) : UInt32 :=
  let table : List (List UInt32) :=
    [[7, 12, 17, 22], [5, 9, 14, 20], [4, 11, 16, 23], [6, 10, 15, 21]]
  ((table[round / 16]?).bind (·[round % 4]?)).getD 0

/-- A round of the oldest digest. -/
def sineRound (words : Array UInt32) (s : Words) (round : Nat) : Words :=
  let (mixed, index) : UInt32 × Nat :=
    match round / 16 with
    | 0 => ((s.b &&& s.c) ||| (~~~s.b &&& s.d), round)
    | 1 => ((s.d &&& s.b) ||| (~~~s.d &&& s.c), (5 * round + 1) % 16)
    | 2 => (s.b ^^^ s.c ^^^ s.d, (3 * round + 5) % 16)
    | _ => (s.c ^^^ (s.b ||| ~~~s.d), 7 * round % 16)
  let sum := s.a + mixed + (sineConstants[round]?).getD 0 + (words[index]?).getD 0
  { s with a := s.d, b := s.b + turnLeft sum (sineTurn round), c := s.b, d := s.c }

/-- The oldest digest, of sixteen bytes. -/
def md5 (message : ByteArray) : List UInt8 :=
  let bytes := pad 64 8 (littleBytes 8) message
  let stir (s : Words) (first : Nat) : Words :=
    let words := ((List.range 16).map fun i => (littleAt bytes (first + 4 * i) 4).toUInt32).toArray
    s.add ((List.range 64).foldl (sineRound words) s)
  let s := overBlocks 64 stir bytes.size
    { a := 0x67452301, b := 0xefcdab89, c := 0x98badcfe, d := 0x10325476 }
  [s.a, s.b, s.c, s.d].flatMap fun w => littleBytes 4 w.toNat

/-- The words of a block with those that are made of them. -/
def schedule (bytes : ByteArray) (first count : Nat) (next : Array UInt32 → Nat → UInt32) :
    Array UInt32 :=
  (List.range count).foldl (fun words i =>
    words.push (if i < 16 then (bigAt bytes (first + 4 * i) 4).toUInt32 else next words i)) #[]

/-- A round of the digest of twenty bytes. -/
def middleRound (words : Array UInt32) (s : Words) (round : Nat) : Words :=
  let (mixed, constant) : UInt32 × UInt32 :=
    match round / 20 with
    | 0 => ((s.b &&& s.c) ||| (~~~s.b &&& s.d), 0x5a827999)
    | 1 => (s.b ^^^ s.c ^^^ s.d, 0x6ed9eba1)
    | 2 => ((s.b &&& s.c) ||| (s.b &&& s.d) ||| (s.c &&& s.d), 0x8f1bbcdc)
    | _ => (s.b ^^^ s.c ^^^ s.d, 0xca62c1d6)
  let sum := turnLeft s.a 5 + mixed + s.e + constant + (words[round]?).getD 0
  { s with a := sum, b := s.a, c := turnLeft s.b 30, d := s.c, e := s.d }

/-- The digest of twenty bytes. -/
def sha1 (message : ByteArray) : List UInt8 :=
  let bytes := pad 64 8 (bigBytes 8) message
  let next (words : Array UInt32) (i : Nat) : UInt32 :=
    let at_ (n : Nat) : UInt32 := (words[i - n]?).getD 0
    turnLeft (at_ 3 ^^^ at_ 8 ^^^ at_ 14 ^^^ at_ 16) 1
  let stir (s : Words) (first : Nat) : Words :=
    s.add ((List.range 80).foldl (middleRound (schedule bytes first 80 next)) s)
  let s := overBlocks 64 stir bytes.size
    { a := 0x67452301, b := 0xefcdab89, c := 0x98badcfe, d := 0x10325476, e := 0xc3d2e1f0 }
  [s.a, s.b, s.c, s.d, s.e].flatMap fun w => bigBytes 4 w.toNat

/-- A round of the narrow digests. -/
def narrowRound (words : Array UInt32) (s : Words) (round : Nat) : Words :=
  let high := turnRight s.e 6 ^^^ turnRight s.e 11 ^^^ turnRight s.e 25
  let choice := (s.e &&& s.f) ^^^ (~~~s.e &&& s.g)
  let one := s.h + high + choice + (narrowConstants[round]?).getD 0 + (words[round]?).getD 0
  let low := turnRight s.a 2 ^^^ turnRight s.a 13 ^^^ turnRight s.a 22
  let two := low + ((s.a &&& s.b) ^^^ (s.a &&& s.c) ^^^ (s.b &&& s.c))
  ⟨one + two, s.a, s.b, s.c, s.d + one, s.e, s.f, s.g⟩

/-- A narrow digest from a state. -/
def narrow (start : List Nat) (message : ByteArray) : List UInt8 :=
  let bytes := pad 64 8 (bigBytes 8) message
  let next (words : Array UInt32) (i : Nat) : UInt32 :=
    let at_ (n : Nat) : UInt32 := (words[i - n]?).getD 0
    let x := at_ 15
    let y := at_ 2
    at_ 16 + (turnRight x 7 ^^^ turnRight x 18 ^^^ (x >>> 3)) + at_ 7 +
      (turnRight y 17 ^^^ turnRight y 19 ^^^ (y >>> 10))
  let stir (s : Words) (first : Nat) : Words :=
    s.add ((List.range 64).foldl (narrowRound (schedule bytes first 64 next)) s)
  let word (i : Nat) : UInt32 := ((start[i]?).getD 0).toUInt32
  let s := overBlocks 64 stir bytes.size
    ⟨word 0, word 1, word 2, word 3, word 4, word 5, word 6, word 7⟩
  [s.a, s.b, s.c, s.d, s.e, s.f, s.g, s.h].flatMap fun w => bigBytes 4 w.toNat

/-- The digest of thirty-two bytes. -/
def sha256 (message : ByteArray) : List UInt8 := narrow (squareBits 0 8 32) message

/-- The digest of twenty-eight bytes. -/
def sha224 (message : ByteArray) : List UInt8 :=
  (narrow ((squareBits 8 8 64).map (· % Nat.pow 2 32)) message).take 28

/-! ## Wide words -/

/-- Turns a wide word to the right. -/
def turnWide (x : UInt64) (n : UInt64) : UInt64 := (x >>> n) ||| (x <<< (64 - n))

/-- The state of a digest with wide words. -/
structure WideWords where
  a : UInt64
  b : UInt64
  c : UInt64
  d : UInt64
  e : UInt64
  f : UInt64
  g : UInt64
  h : UInt64

/-- The sum of two states. -/
def WideWords.add (s t : WideWords) : WideWords :=
  ⟨s.a + t.a, s.b + t.b, s.c + t.c, s.d + t.d, s.e + t.e, s.f + t.f, s.g + t.g, s.h + t.h⟩

/-- A round of the wide digests. -/
def wideRound (words : Array UInt64) (s : WideWords) (round : Nat) : WideWords :=
  let high := turnWide s.e 14 ^^^ turnWide s.e 18 ^^^ turnWide s.e 41
  let choice := (s.e &&& s.f) ^^^ (~~~s.e &&& s.g)
  let one := s.h + high + choice + (wideConstants[round]?).getD 0 + (words[round]?).getD 0
  let low := turnWide s.a 28 ^^^ turnWide s.a 34 ^^^ turnWide s.a 39
  let two := low + ((s.a &&& s.b) ^^^ (s.a &&& s.c) ^^^ (s.b &&& s.c))
  ⟨one + two, s.a, s.b, s.c, s.d + one, s.e, s.f, s.g⟩

/-- A wide digest from a state. -/
def wide (start : List Nat) (message : ByteArray) : List UInt8 :=
  let bytes := pad 128 16 (bigBytes 16) message
  let next (words : Array UInt64) (i : Nat) : UInt64 :=
    let at_ (n : Nat) : UInt64 := (words[i - n]?).getD 0
    let x := at_ 15
    let y := at_ 2
    at_ 16 + (turnWide x 1 ^^^ turnWide x 8 ^^^ (x >>> 7)) + at_ 7 +
      (turnWide y 19 ^^^ turnWide y 61 ^^^ (y >>> 6))
  let stir (s : WideWords) (first : Nat) : WideWords :=
    let words := (List.range 80).foldl (fun words i =>
      words.push (if i < 16 then (bigAt bytes (first + 8 * i) 8).toUInt64 else next words i)) #[]
    s.add ((List.range 80).foldl (wideRound words) s)
  let word (i : Nat) : UInt64 := ((start[i]?).getD 0).toUInt64
  let s := overBlocks 128 stir bytes.size
    ⟨word 0, word 1, word 2, word 3, word 4, word 5, word 6, word 7⟩
  [s.a, s.b, s.c, s.d, s.e, s.f, s.g, s.h].flatMap fun w => bigBytes 8 w.toNat

/-- The digest of sixty-four bytes. -/
def sha512 (message : ByteArray) : List UInt8 := wide (squareBits 0 8 64) message

/-- The digest of forty-eight bytes. -/
def sha384 (message : ByteArray) : List UInt8 := (wide (squareBits 8 8 64) message).take 48

/-! ## Sums -/

/-- The check after one more byte. -/
def crcByte (check : UInt32) (byte : UInt8) : UInt32 :=
  (List.range 8).foldl (fun c _ =>
    if c &&& 0x80000000 ≠ 0 then (c <<< 1) ^^^ 0x04c11db7 else c <<< 1)
    (check ^^^ (byte.toUInt32 <<< 24))

/-- The bytes of a length, the least first, as few as there must be. -/
def lengthBytes : Nat → Nat → List UInt8
  | 0, _ => []
  | fuel + 1, n => if n = 0 then [] else (n % 256).toUInt8 :: lengthBytes fuel (n / 256)

/-- The check of a message and of its length. -/
def crc (message : ByteArray) : UInt32 :=
  ~~~(lengthBytes 8 message.size).foldl crcByte (message.toList.foldl crcByte 0)

/-- The sum of bytes in sixteen bits that are turned before each. -/
def rotatingSum (message : ByteArray) : Nat :=
  message.toList.foldl (fun n b => (n / 2 + n % 2 * 32768 + b.toNat) % 65536) 0

/-- The sum of bytes, folded into sixteen bits. -/
def plainSum (message : ByteArray) : Nat :=
  let sum := message.toList.foldl (fun n b => n + b.toNat) 0 % Nat.pow 2 32
  let folded := sum % 65536 + sum / 65536
  folded % 65536 + folded / 65536

/-- Bytes in hexadecimal digits. -/
def hex (bytes : List UInt8) : String :=
  let digit (n : Nat) : Char :=
    if n < 10 then Char.ofNat (n + '0'.toNat) else Char.ofNat (n - 10 + 'a'.toNat)
  String.ofList (bytes.flatMap fun b => [digit (b.toNat / 16), digit (b.toNat % 16)])

end ContractBindings.Text.Digest
