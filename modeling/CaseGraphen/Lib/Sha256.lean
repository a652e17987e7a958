import CaseGraphen.Lib.Text

/-!
# SHA-256

The hash function of FIPS 180-4, on lists of bytes. Words are natural numbers
kept below `2 ^ 32`, so that a digest evaluates.
-/

namespace Sha256

open Text

def word (n : Nat) : Nat := n % 2 ^ 32

def rotr (n x : Nat) : Nat := word ((x >>> n) ||| (x <<< (32 - n)))

def bigSigma0 (x : Nat) : Nat := rotr 2 x ^^^ rotr 13 x ^^^ rotr 22 x

def bigSigma1 (x : Nat) : Nat := rotr 6 x ^^^ rotr 11 x ^^^ rotr 25 x

def smallSigma0 (x : Nat) : Nat := rotr 7 x ^^^ rotr 18 x ^^^ (x >>> 3)

def smallSigma1 (x : Nat) : Nat := rotr 17 x ^^^ rotr 19 x ^^^ (x >>> 10)

def ch (x y z : Nat) : Nat := (x &&& y) ^^^ ((2 ^ 32 - 1 - x) &&& z)

def maj (x y z : Nat) : Nat := (x &&& y) ^^^ (x &&& z) ^^^ (y &&& z)

def roundConstants : List Nat :=
  [0x428a2f98, 0x71374491, 0xb5c0fbcf, 0xe9b5dba5, 0x3956c25b, 0x59f111f1, 0x923f82a4, 0xab1c5ed5,
    0xd807aa98, 0x12835b01, 0x243185be, 0x550c7dc3, 0x72be5d74, 0x80deb1fe, 0x9bdc06a7, 0xc19bf174,
    0xe49b69c1, 0xefbe4786, 0x0fc19dc6, 0x240ca1cc, 0x2de92c6f, 0x4a7484aa, 0x5cb0a9dc, 0x76f988da,
    0x983e5152, 0xa831c66d, 0xb00327c8, 0xbf597fc7, 0xc6e00bf3, 0xd5a79147, 0x06ca6351, 0x14292967,
    0x27b70a85, 0x2e1b2138, 0x4d2c6dfc, 0x53380d13, 0x650a7354, 0x766a0abb, 0x81c2c92e, 0x92722c85,
    0xa2bfe8a1, 0xa81a664b, 0xc24b8b70, 0xc76c51a3, 0xd192e819, 0xd6990624, 0xf40e3585, 0x106aa070,
    0x19a4c116, 0x1e376c08, 0x2748774c, 0x34b0bcb5, 0x391c0cb3, 0x4ed8aa4a, 0x5b9cca4f, 0x682e6ff3,
    0x748f82ee, 0x78a5636f, 0x84c87814, 0x8cc70208, 0x90befffa, 0xa4506ceb, 0xbef9a3f7, 0xc67178f2]

/-- The eight working words. -/
structure State where
  a : Nat
  b : Nat
  c : Nat
  d : Nat
  e : Nat
  f : Nat
  g : Nat
  h : Nat
deriving DecidableEq

def State.initial : State :=
  ⟨0x6a09e667, 0xbb67ae85, 0x3c6ef372, 0xa54ff53a, 0x510e527f, 0x9b05688c, 0x1f83d9ab, 0x5be0cd19⟩

def round (s : State) (k w : Nat) : State :=
  let t1 := s.h + bigSigma1 s.e + ch s.e s.f s.g + k + w
  let t2 := bigSigma0 s.a + maj s.a s.b s.c
  ⟨word (t1 + t2), s.a, s.b, s.c, word (s.d + t1), s.e, s.f, s.g⟩

/-- The word that follows a window of sixteen in the message schedule. -/
def scheduled (window : List Nat) : Nat :=
  word (smallSigma1 (window.getD 14 0) + window.getD 9 0 + smallSigma0 (window.getD 1 0) +
    window.getD 0 0)

/-- The rounds of one block, over a sliding window of the message schedule. -/
def rounds : List Nat → State → List Nat → State
  | [], s, _ => s
  | k :: ks, s, window =>
      rounds ks (round s k (window.getD 0 0)) (window.tail ++ [scheduled window])

def State.add (s t : State) : State :=
  ⟨word (s.a + t.a), word (s.b + t.b), word (s.c + t.c), word (s.d + t.d), word (s.e + t.e),
    word (s.f + t.f), word (s.g + t.g), word (s.h + t.h)⟩

def compress (s : State) (block : List Nat) : State :=
  s.add (rounds roundConstants s block)

/-- The `count` bytes of a number, most significant first. -/
def bigEndian : Nat → Nat → List Nat
  | 0, _ => []
  | count + 1, n => (n >>> (8 * count)) % 256 :: bigEndian count n

/-- Words of four bytes. -/
def toWords : List Nat → List Nat
  | p :: q :: r :: s :: rest => (p <<< 24 ||| q <<< 16 ||| r <<< 8 ||| s) :: toWords rest
  | _ => []

/-- The message, a one bit, zeros, and the length in bits. -/
def pad (message : Bytes) : List Nat :=
  message.map UInt8.toNat ++ 0x80 :: List.replicate ((119 - message.length % 64) % 64) 0 ++
    bigEndian 8 (8 * message.length)

/-- Compress block after block, `fuel` bounding their number. -/
def hashWords : Nat → State → List Nat → State
  | 0, s, _ => s
  | fuel + 1, s, words =>
      if words = [] then s else hashWords fuel (compress s (words.take 16)) (words.drop 16)

def digest (message : Bytes) : State :=
  let words := toWords (pad message)
  hashWords words.length .initial words

def State.words (s : State) : List Nat := [s.a, s.b, s.c, s.d, s.e, s.f, s.g, s.h]

def hexDigits : List Char :=
  ['0', '1', '2', '3', '4', '5', '6', '7', '8', '9', 'a', 'b', 'c', 'd', 'e', 'f']

def hexOfByte (n : Nat) : List Char :=
  [hexDigits.getD (n / 16) '0', hexDigits.getD (n % 16) '0']

def hex (message : Bytes) : String :=
  String.ofList ((digest message).words.flatMap fun w => (bigEndian 4 w).flatMap hexOfByte)

theorem getD_hexDigits (n : Nat) : hexDigits.getD n '0' ∈ hexDigits := by
  rw [List.getD_eq_getElem?_getD]
  cases hdigit : hexDigits[n]? with
  | none => decide
  | some digit => exact List.mem_of_getElem? hdigit

theorem mem_hexDigits_of_mem_hex {message : Bytes} {c : Char} (h : c ∈ (hex message).toList) :
    c ∈ hexDigits := by
  simp only [hex, String.toList_ofList, List.mem_flatMap, hexOfByte, List.mem_cons,
    List.not_mem_nil, or_false] at h
  obtain ⟨-, -, n, -, rfl | rfl⟩ := h
  · exact getD_hexDigits _
  · exact getD_hexDigits _

theorem length_hex (message : Bytes) : (hex message).toList.length = 64 := by
  rw [hex, String.toList_ofList]
  generalize digest message = state
  rfl

end Sha256

example : Sha256.hex [97, 98, 99] =
    "ba7816bf8f01cfea414140de5dae2223b00361a396177a9cb410ff61f20015ad" := by decide +kernel
