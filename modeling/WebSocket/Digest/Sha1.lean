import WebSocket.Bytes

/-!
# SHA-1

The digest with which a server proves that it has read the key of an upgrade request.

## Main definitions

* `Sha1.padded` — the message with its padding, a multiple of 64 bytes.
* `Sha1.schedule` — the 80 words of one block.
* `Sha1.compress` — one block taken into the state.
* `sha1` — the digest of a message, 20 bytes.
-/

namespace WebSocket

namespace Sha1

/-- The five words of the running digest. -/
structure State where
  a : UInt32
  b : UInt32
  c : UInt32
  d : UInt32
  e : UInt32
  deriving DecidableEq, Repr

/-- The state before the first block. -/
def State.start : State := ⟨0x67452301, 0xEFCDAB89, 0x98BADCFE, 0x10325476, 0xC3D2E1F0⟩

/-- `x` rotated to the left by `n` bits, for `n` between 1 and 31. -/
def rotate (n : UInt32) (x : UInt32) : UInt32 := (x <<< n) ||| (x >>> (32 - n))

/-- The message followed by a one bit, as many zero bits as fill a block, and the length of the
message in bits. -/
def padded (message : Bytes) : Bytes :=
  let zeros := (119 - message.length % 64) % 64
  message ++ [0x80] ++ List.replicate zeros 0 ++ Bytes.ofNatBE 8 (message.length * 8)

/-- The words of a block, most significant byte first. -/
def wordsOf : Bytes → List UInt32
  | a :: b :: c :: d :: rest => UInt32.ofNat (Bytes.toNatBE [a, b, c, d]) :: wordsOf rest
  | _ => []

/-- `n` more words of a schedule, each from the sixteen before it; the newest stands first. -/
def extend : (n : Nat) → (newest : List UInt32) → List UInt32
  | 0, ws => ws
  | n + 1, ws =>
    let word (back : Nat) := ws.getD (back - 1) 0
    extend n (rotate 1 (word 3 ^^^ word 8 ^^^ word 14 ^^^ word 16) :: ws)

/-- The 80 words of one block. -/
def schedule (block : Bytes) : List UInt32 := (extend 64 (wordsOf block).reverse).reverse

/-- The mixing function and the constant of round `t`. -/
def round (t : Nat) (s : State) : UInt32 × UInt32 :=
  if t < 20 then ((s.b &&& s.c) ||| (~~~s.b &&& s.d), 0x5A827999)
  else if t < 40 then (s.b ^^^ s.c ^^^ s.d, 0x6ED9EBA1)
  else if t < 60 then ((s.b &&& s.c) ||| (s.b &&& s.d) ||| (s.c &&& s.d), 0x8F1BBCDC)
  else (s.b ^^^ s.c ^^^ s.d, 0xCA62C1D6)

/-- Round `t` with the word `w` of the schedule. -/
def step (s : State) (t : Nat) (w : UInt32) : State :=
  let (f, k) := round t s
  ⟨rotate 5 s.a + f + s.e + k + w, s.a, rotate 30 s.b, s.c, s.d⟩

/-- One block taken into the state. -/
def compress (s : State) (block : Bytes) : State :=
  let r := (schedule block).zipIdx.foldl (fun s (w, t) => step s t w) s
  ⟨s.a + r.a, s.b + r.b, s.c + r.c, s.d + r.d, s.e + r.e⟩

/-- All blocks of a message taken into the state; a rest shorter than a block is left out. -/
def absorb (s : State) (message : Bytes) : State :=
  match _h : Bytes.take? 64 message with
  | some (block, rest) => absorb (compress s block) rest
  | none => s
termination_by message.length
decreasing_by
  obtain ⟨rfl, hlen⟩ := Bytes.take?_eq_some.1 _h
  simp only [List.length_append]
  omega

end Sha1

/-- The SHA-1 digest of a message. -/
def sha1 (message : Bytes) : Bytes :=
  let s := Sha1.absorb Sha1.State.start (Sha1.padded message)
  [s.a, s.b, s.c, s.d, s.e].flatMap fun word => Bytes.ofNatBE 4 word.toNat

end WebSocket
