import ImportBoundary.Text.Basic

/-!
# SHA-256

The digest of a message is computed block by block: `pad` fills the message up to whole blocks of 64
bytes, and `State.compress` mixes one block into the state of eight words. `hex` is the digest as
text.
-/

namespace ImportBoundary.Sha256

/-- One word for each round: the first 32 bits behind the point of the cube roots of the first 64
primes. -/
def roundWords : List UInt32 :=
  [0x428a2f98, 0x71374491, 0xb5c0fbcf, 0xe9b5dba5, 0x3956c25b, 0x59f111f1, 0x923f82a4, 0xab1c5ed5,
   0xd807aa98, 0x12835b01, 0x243185be, 0x550c7dc3, 0x72be5d74, 0x80deb1fe, 0x9bdc06a7, 0xc19bf174,
   0xe49b69c1, 0xefbe4786, 0x0fc19dc6, 0x240ca1cc, 0x2de92c6f, 0x4a7484aa, 0x5cb0a9dc, 0x76f988da,
   0x983e5152, 0xa831c66d, 0xb00327c8, 0xbf597fc7, 0xc6e00bf3, 0xd5a79147, 0x06ca6351, 0x14292967,
   0x27b70a85, 0x2e1b2138, 0x4d2c6dfc, 0x53380d13, 0x650a7354, 0x766a0abb, 0x81c2c92e, 0x92722c85,
   0xa2bfe8a1, 0xa81a664b, 0xc24b8b70, 0xc76c51a3, 0xd192e819, 0xd6990624, 0xf40e3585, 0x106aa070,
   0x19a4c116, 0x1e376c08, 0x2748774c, 0x34b0bcb5, 0x391c0cb3, 0x4ed8aa4a, 0x5b9cca4f, 0x682e6ff3,
   0x748f82ee, 0x78a5636f, 0x84c87814, 0x8cc70208, 0x90befffa, 0xa4506ceb, 0xbef9a3f7, 0xc67178f2]

/-- The words of a digest that is being computed. -/
structure State where
  a : UInt32
  b : UInt32
  c : UInt32
  d : UInt32
  e : UInt32
  f : UInt32
  g : UInt32
  h : UInt32
deriving DecidableEq, Repr

/-- The state of the empty message: the first 32 bits behind the point of the square roots of the
first eight primes. -/
def State.initial : State :=
  ⟨0x6a09e667, 0xbb67ae85, 0x3c6ef372, 0xa54ff53a,
    0x510e527f, 0x9b05688c, 0x1f83d9ab, 0x5be0cd19⟩

/-! ### Padding

The length of a message is part of what is digested. The zeros before it fill the last block.
-/

/-- The bytes of a number, the highest first. -/
def bigEndian (count : Nat) (n : Nat) : List UInt8 :=
  (List.range count).reverse.map fun i => UInt8.ofNat (n >>> (8 * i))

/-- The number of zeros between the mark behind a message and its length. -/
def zeros (size : Nat) : Nat := (119 - size % 64) % 64

/-- A message filled up to whole blocks: a mark, zeros, and its length in bits. -/
def pad (message : List UInt8) : List UInt8 :=
  message ++ 0x80 :: List.replicate (zeros message.length) 0 ++ bigEndian 8 (8 * message.length)

/-! ### Words

All arithmetic is on words of 32 bits and wraps around. The words of a block are the first ones of a
schedule that goes on with words mixed from them, of which no more than a window is kept.
-/

def rotate (x : UInt32) (n : UInt32) : UInt32 := (x >>> n) ||| (x <<< (32 - n))

/-- The window of the message schedule: the words of the next 16 rounds. -/
abbrev Window := Vector UInt32 16

/-- The word that enters the window when its first word leaves. -/
def Window.next (w : Window) : UInt32 :=
  let early := rotate w[1] 7 ^^^ rotate w[1] 18 ^^^ (w[1] >>> 3)
  let late := rotate w[14] 17 ^^^ rotate w[14] 19 ^^^ (w[14] >>> 10)
  w[0] + early + w[9] + late

def Window.shift (w : Window) : Window :=
  Vector.ofFn fun i => if h : i.val + 1 < 16 then w[i.val + 1] else w.next

def wordAt (bytes : Array UInt8) (i : Nat) : UInt32 :=
  [0, 1, 2, 3].foldl (fun word k => word <<< 8 ||| (bytes.getD (4 * i + k) 0).toUInt32) 0

def windowAt (bytes : Array UInt8) (block : Nat) : Window :=
  Vector.ofFn fun i => wordAt bytes (16 * block + i.val)

/-! ### Compression

A round moves the words of a state on by one place and mixes two new ones in. After 64 rounds the state
before them is added.
-/

namespace State

def round (s : State) (roundWord word : UInt32) : State :=
  let mixed := rotate s.e 6 ^^^ rotate s.e 11 ^^^ rotate s.e 25
  let choice := (s.e &&& s.f) ^^^ (~~~s.e &&& s.g)
  let first := s.h + mixed + choice + roundWord + word
  let spread := rotate s.a 2 ^^^ rotate s.a 13 ^^^ rotate s.a 22
  let majority := (s.a &&& s.b) ^^^ (s.a &&& s.c) ^^^ (s.b &&& s.c)
  ⟨first + (spread + majority), s.a, s.b, s.c, s.d + first, s.e, s.f, s.g⟩

def add (s t : State) : State :=
  ⟨s.a + t.a, s.b + t.b, s.c + t.c, s.d + t.d, s.e + t.e, s.f + t.f, s.g + t.g, s.h + t.h⟩

def compress (s : State) (block : Window) : State :=
  let (mixed, _) := roundWords.foldl (fun (t, w) k => (t.round k w[0], w.shift)) (s, block)
  s.add mixed

def words (s : State) : List UInt32 := [s.a, s.b, s.c, s.d, s.e, s.f, s.g, s.h]

end State

def digest (message : List UInt8) : State :=
  let bytes := (pad message).toArray
  (List.range (bytes.size / 64)).foldl (fun s n => s.compress (windowAt bytes n)) .initial

def hexWord (word : UInt32) : List Char :=
  (List.range 8).reverse.map fun i => Text.Hex.digit (word.toNat >>> (4 * i) % 16)

/-- The digest of a text in UTF-8, as hexadecimal digits. -/
def hex (text : String) : String :=
  String.ofList ((digest text.toUTF8.toList).words.flatMap hexWord)

end ImportBoundary.Sha256
