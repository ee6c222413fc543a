/-
  Lib.Sha256 — the SHA-256 function, computed on natural numbers.

  Words are natural numbers below 2^32, written with the operations that the
  kernel computes natively, so that a concrete digest can be evaluated.
-/
import Tidex.Lib.Hex

namespace Tidex.Lib.Sha256

/-! ## Words -/

def width : Nat := 4294967296

def rotr (x n : Nat) : Nat :=
  Nat.mod (Nat.lor (Nat.shiftRight x n) (Nat.shiftLeft x (Nat.sub 32 n))) width

def bigSigma0 (x : Nat) : Nat := Nat.xor (Nat.xor (rotr x 2) (rotr x 13)) (rotr x 22)
def bigSigma1 (x : Nat) : Nat := Nat.xor (Nat.xor (rotr x 6) (rotr x 11)) (rotr x 25)
def smallSigma0 (x : Nat) : Nat := Nat.xor (Nat.xor (rotr x 7) (rotr x 18)) (Nat.shiftRight x 3)
def smallSigma1 (x : Nat) : Nat := Nat.xor (Nat.xor (rotr x 17) (rotr x 19)) (Nat.shiftRight x 10)
def choose (e f g : Nat) : Nat := Nat.xor g (Nat.land e (Nat.xor f g))
def majority (a b c : Nat) : Nat := Nat.lor (Nat.land a b) (Nat.land c (Nat.lor a b))

/-- The round constants: the fractional parts of the cube roots of the first 64 primes. -/
def roundConstants : List Nat := [
  0x428a2f98, 0x71374491, 0xb5c0fbcf, 0xe9b5dba5, 0x3956c25b, 0x59f111f1, 0x923f82a4, 0xab1c5ed5,
  0xd807aa98, 0x12835b01, 0x243185be, 0x550c7dc3, 0x72be5d74, 0x80deb1fe, 0x9bdc06a7, 0xc19bf174,
  0xe49b69c1, 0xefbe4786, 0x0fc19dc6, 0x240ca1cc, 0x2de92c6f, 0x4a7484aa, 0x5cb0a9dc, 0x76f988da,
  0x983e5152, 0xa831c66d, 0xb00327c8, 0xbf597fc7, 0xc6e00bf3, 0xd5a79147, 0x06ca6351, 0x14292967,
  0x27b70a85, 0x2e1b2138, 0x4d2c6dfc, 0x53380d13, 0x650a7354, 0x766a0abb, 0x81c2c92e, 0x92722c85,
  0xa2bfe8a1, 0xa81a664b, 0xc24b8b70, 0xc76c51a3, 0xd192e819, 0xd6990624, 0xf40e3585, 0x106aa070,
  0x19a4c116, 0x1e376c08, 0x2748774c, 0x34b0bcb5, 0x391c0cb3, 0x4ed8aa4a, 0x5b9cca4f, 0x682e6ff3,
  0x748f82ee, 0x78a5636f, 0x84c87814, 0x8cc70208, 0x90befffa, 0xa4506ceb, 0xbef9a3f7, 0xc67178f2]

/-! ## Compression -/

/-- The chaining value. -/
structure State where
  (a b c d e f g h : Nat)
  deriving DecidableEq

def initial : State :=
  ⟨0x6a09e667, 0xbb67ae85, 0x3c6ef372, 0xa54ff53a, 0x510e527f, 0x9b05688c, 0x1f83d9ab, 0x5be0cd19⟩

def temporary (e f g h constant word : Nat) : Nat :=
  Nat.add (Nat.add (Nat.add (Nat.add h (bigSigma1 e)) (choose e f g)) constant) word

def rotate (s : State) (t : Nat) : State :=
  ⟨Nat.mod (Nat.add t (Nat.add (bigSigma0 s.a) (majority s.a s.b s.c))) width, s.a, s.b, s.c,
    Nat.mod (Nat.add s.d t) width, s.e, s.f, s.g⟩

def round (s : State) (constant word : Nat) : State :=
  rotate s (temporary s.e s.f s.g s.h constant word)

/-- The next word of the message schedule, from the last sixteen, latest first. -/
def nextWord : List Nat → Nat
  | _ :: w2 :: _ :: _ :: _ :: _ :: w7 :: _ :: _ :: _ :: _ :: _ :: _ :: _ :: w15 :: w16 :: _ =>
    Nat.mod (Nat.add (Nat.add (Nat.add w16 (smallSigma0 w15)) w7) (smallSigma1 w2)) width
  | _ => 0

def extendSchedule : Nat → List Nat → List Nat
  | 0, words => words
  | n + 1, words => extendSchedule n (nextWord words :: words)

def rounds : List Nat → List Nat → State → State
  | constant :: constants, word :: words, s => rounds constants words (round s constant word)
  | _, _, s => s

def State.add (x y : State) : State :=
  ⟨Nat.mod (Nat.add x.a y.a) width, Nat.mod (Nat.add x.b y.b) width,
    Nat.mod (Nat.add x.c y.c) width, Nat.mod (Nat.add x.d y.d) width,
    Nat.mod (Nat.add x.e y.e) width, Nat.mod (Nat.add x.f y.f) width,
    Nat.mod (Nat.add x.g y.g) width, Nat.mod (Nat.add x.h y.h) width⟩

def compress (s : State) (block : List Nat) : State :=
  s.add (rounds roundConstants (extendSchedule 48 block).reverse s)

/-- Continue with a number, computed first. -/
def withValue {α : Type} (x : Nat) (k : Nat → α) : α :=
  match x with
  | 0 => k 0
  | n + 1 => k (Nat.succ n)

/-- Continue with a chaining value, computed first. -/
def withState {α : Type} (s : State) (k : State → α) : α :=
  withValue s.a fun a => withValue s.b fun b => withValue s.c fun c => withValue s.d fun d =>
    withValue s.e fun e => withValue s.f fun f => withValue s.g fun g => withValue s.h fun h =>
      k ⟨a, b, c, d, e, f, g, h⟩

/-! ## Messages -/

/-- The `n` bytes of a number, most significant first. -/
def bigEndian : Nat → Nat → List Nat
  | 0, _ => []
  | n + 1, x => bigEndian n (Nat.div x 256) ++ [Nat.mod x 256]

/-- What follows a message of a length: a one bit, zeros and the length in bits. -/
def padding (length : Nat) : List Nat :=
  128 :: (List.replicate (Nat.mod (Nat.sub 119 (Nat.mod length 64)) 64) 0 ++
    bigEndian 8 (Nat.mul length 8))

/-- Compress the bytes of a message: `word` is the word being read, `bytes` counts
    its bytes, `block` has the words read before, latest first, `words` of them. -/
def absorb : List Nat → Nat → Nat → List Nat → Nat → State → State
  | [], _, _, _, _, s => s
  | byte :: rest, word, bytes, block, words, s =>
    withValue (Nat.add (Nat.mul word 256) byte) fun word =>
      match bytes with
      | 3 =>
        match words with
        | 15 => withState (compress s (word :: block)) (absorb rest 0 0 [] 0)
        | _ => withValue (Nat.succ words) fun words => absorb rest 0 0 (word :: block) words s
      | _ => withValue (Nat.succ bytes) fun bytes => absorb rest word bytes block words s

/-- Compress a message and then its padding, counting its bytes on the way. -/
def digest (message : List Nat) : State :=
  absorb (message ++ padding message.length) 0 0 [] 0 initial

/-! ## Hexadecimal text -/

def State.hexChars (s : State) : List Char :=
  hexText 8 s.a ++ hexText 8 s.b ++ hexText 8 s.c ++ hexText 8 s.d ++
    hexText 8 s.e ++ hexText 8 s.f ++ hexText 8 s.g ++ hexText 8 s.h

/-- SHA-256 of a byte string, as lower-case hexadecimal text. -/
@[irreducible] def hexChars (bytes : List Nat) : List Char :=
  (digest bytes).hexChars

lemma hexChars_spec (bytes : List Nat) :
    (hexChars bytes).length = 64 ∧ ∀ c ∈ hexChars bytes, c ∈ hexDigits := by
  unfold hexChars State.hexChars
  constructor
  · simp [length_hexText]
  · intro c hc
    simp only [List.mem_append] at hc
    rcases hc with ((((((h | h) | h) | h) | h) | h) | h) | h <;>
      exact mem_hexDigits_of_mem_hexText h

example : (digest [97, 98, 99]).a = 0xba7816bf := by decide +kernel

end Tidex.Lib.Sha256
