import WebSocket.Bytes

/-!
# UTF-8

Text payloads must be valid UTF-8, so they are read strictly.  Request heads are read tolerantly:
each ill-formed stretch becomes one replacement character, where a stretch is as long as it could
still have been the beginning of a character.

## Main definitions

* `utf8` — the bytes of a text.
* `ofUtf8?` — the text whose bytes these are, if there is one.
* `Utf8.next`, `ofUtf8Lossy` — tolerant reading, one character at a time and as a whole.

## Main results

* `ofUtf8?_eq_some` — strict reading accepts exactly what `utf8` writes.
-/

namespace WebSocket

namespace Text

/-- The UTF-8 bytes of `s`. -/
def utf8 (s : String) : Bytes := s.toUTF8.data.toList

/-- The text whose UTF-8 bytes are `bytes`, if there is one. -/
def ofUtf8? (bytes : Bytes) : Option String := String.fromUTF8? ⟨bytes.toArray⟩

/-- Strict reading accepts exactly what `utf8` writes. -/
theorem ofUtf8?_eq_some {bytes : Bytes} {s : String} :
    ofUtf8? bytes = some s ↔ bytes = utf8 s := by
  unfold ofUtf8? String.fromUTF8? utf8
  constructor
  · intro h
    split at h
    · obtain rfl := Option.some.inj h
      simp [String.fromUTF8, String.toUTF8]
    · simp at h
  · intro h
    have hs : (⟨bytes.toArray⟩ : ByteArray) = s.toUTF8 := by subst h; simp
    simp only [hs]
    simp [String.fromUTF8, String.toUTF8, s.isValidUTF8]

@[simp] theorem ofUtf8?_utf8 (s : String) : ofUtf8? (utf8 s) = some s := ofUtf8?_eq_some.2 rfl

/-- The bytes of a text are the bytes of its characters, one after the other. -/
theorem utf8_ofList (cs : List Char) :
    utf8 (String.ofList cs) = cs.flatMap String.utf8EncodeChar := by
  simp [utf8, String.toUTF8, List.utf8Encode]

namespace Utf8

/-- The replacement character, which stands for an ill-formed stretch. -/
def replacement : Char := '\uFFFD'

/-- A byte that continues a character. -/
def isContinuation (b : UInt8) : Bool := b &&& 0xC0 == 0x80

/-- The six bits a continuation byte carries. -/
def tail (b : UInt8) : Nat := b.toNat % 64

/-- The second bytes that may follow the first byte `b` of a character of three bytes: neither a
character that fits in two bytes nor a surrogate is written with three. -/
def isSecondOfThree (b c : UInt8) : Bool :=
  if b == 0xE0 then 0xA0 ≤ c && c ≤ 0xBF
  else if b == 0xED then 0x80 ≤ c && c ≤ 0x9F
  else 0x80 ≤ c && c ≤ 0xBF

/-- The second bytes that may follow the first byte `b` of a character of four bytes: neither a
character that fits in three bytes nor a number past U+10FFFF is written with four. -/
def isSecondOfFour (b c : UInt8) : Bool :=
  if b == 0xF0 then 0x90 ≤ c && c ≤ 0xBF
  else if b == 0xF4 then 0x80 ≤ c && c ≤ 0x8F
  else 0x80 ≤ c && c ≤ 0xBF

/-- The character that starts with the byte `b`, followed by `rest`, and how many bytes of `rest`
belong to it.  An ill-formed stretch is read as the replacement character. -/
def next (b : UInt8) (rest : Bytes) : Char × Nat :=
  if b < 0x80 then (Char.ofNat b.toNat, 0)
  else if 0xC2 ≤ b && b ≤ 0xDF then
    match rest with
    | c :: _ =>
      if isContinuation c then (Char.ofNat (b.toNat % 32 * 64 + tail c), 1) else (replacement, 0)
    | [] => (replacement, 0)
  else if 0xE0 ≤ b && b ≤ 0xEF then
    match rest with
    | c :: rest =>
      if isSecondOfThree b c then
        match rest with
        | d :: _ =>
          if isContinuation d then
            (Char.ofNat (b.toNat % 16 * 4096 + tail c * 64 + tail d), 2)
          else (replacement, 1)
        | [] => (replacement, 1)
      else (replacement, 0)
    | [] => (replacement, 0)
  else if 0xF0 ≤ b && b ≤ 0xF4 then
    match rest with
    | c :: rest =>
      if isSecondOfFour b c then
        match rest with
        | d :: rest =>
          if isContinuation d then
            match rest with
            | e :: _ =>
              if isContinuation e then
                (Char.ofNat (b.toNat % 8 * 262144 + tail c * 4096 + tail d * 64 + tail e), 3)
              else (replacement, 2)
            | [] => (replacement, 2)
          else (replacement, 1)
        | [] => (replacement, 1)
      else (replacement, 0)
    | [] => (replacement, 0)
  else (replacement, 0)

/-- The characters of `bytes`, with one replacement character for each ill-formed stretch. -/
def decode (bytes : Bytes) : List Char :=
  match bytes with
  | [] => []
  | b :: rest => (next b rest).1 :: decode (rest.drop (next b rest).2)
termination_by bytes.length
decreasing_by simp only [List.length_drop, List.length_cons]; omega

end Utf8

/-- The text in `bytes`, read tolerantly. -/
def ofUtf8Lossy (bytes : Bytes) : String := String.ofList (Utf8.decode bytes)

end Text

end WebSocket
