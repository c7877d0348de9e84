import WebSocket.Text.Decimal

/-!
# Internet addresses

Where a server listens and where a client comes from: an address of four or of sixteen bytes, and a
port.

## Main definitions

* `IpAddress`, `SocketAddress` — the addresses.
* `IpAddress.text`, `SocketAddress.text` — their usual written forms.
* `SocketAddress.parse?` — reading one.
-/

namespace WebSocket

/-- An Internet address. -/
inductive IpAddress
  | v4 (a b c d : UInt8)
  /-- Eight groups of sixteen bits. -/
  | v6 (groups : Vector UInt16 8)
  deriving DecidableEq, Repr

/-- An address with a port; an address of version 6 may be tied to an interface by its scope. -/
structure SocketAddress where
  ip : IpAddress
  port : UInt16
  scope : UInt32
  deriving DecidableEq, Repr

namespace IpAddress

/-- Four numbers with points between them. -/
def dotted (a b c d : Nat) : String := s!"{a}.{b}.{c}.{d}"

/-- Groups in hexadecimal digits with colons between them. -/
def colonHex (groups : List UInt16) : String :=
  ":".intercalate (groups.map fun g => String.ofList (Nat.toDigits 16 g.toNat))

/-- The start and the length of the first longest run of zeros from position `i` on, or of the run
`best` if no later one is longer; `run` zeros stand right before position `i`. -/
def longestZeros (i run : Nat) (best : Nat × Nat) : List UInt16 → Nat × Nat
  | [] => best
  | g :: rest =>
    if g = 0 then
      let best := if run + 1 > best.2 then (i - run, run + 1) else best
      longestZeros (i + 1) (run + 1) best rest
    else longestZeros (i + 1) 0 best rest

/-- The written form: the longest run of at least two zero groups shrinks to two colons, and an
address of version 4 inside one of version 6 keeps its points. -/
def text : IpAddress → String
  | v4 a b c d => dotted a.toNat b.toNat c.toNat d.toNat
  | v6 groups =>
    match groups.toList with
    | [0, 0, 0, 0, 0, 0xFFFF, g, h] =>
      let quad := dotted (g.toNat / 256) (g.toNat % 256) (h.toNat / 256) (h.toNat % 256)
      s!"::ffff:{quad}"
    | groups =>
      let (start, length) := longestZeros 0 0 (0, 0) groups
      if length > 1 then
        colonHex (groups.take start) ++ "::" ++ colonHex (groups.drop (start + length))
      else colonHex groups

end IpAddress

namespace SocketAddress

/-- The written form of an address with its port. -/
def text (a : SocketAddress) : String :=
  let ip := a.ip.text
  match a.ip with
  | .v4 .. => s!"{ip}:{a.port}"
  | .v6 _ => if a.scope = 0 then s!"[{ip}]:{a.port}" else s!"[{ip}%{a.scope}]:{a.port}"

/-! ### Reading -/

/-- A number at the head of a text, below `bound` and of at most `width` digits, and what follows
it. -/
def readNumber (radix width bound : Nat) (cs : List Char) : Option (Nat × List Char) := do
  let isDigit (c : Char) := (Text.digit? radix c).isSome
  let digits := cs.takeWhile isDigit
  let n ← Text.numberBelow? radix bound digits
  if digits.length ≤ width then some (n, cs.dropWhile isDigit) else none

/-- A given character at the head of a text. -/
def readChar (c : Char) (cs : List Char) : Option (List Char) :=
  match cs with
  | d :: rest => if d = c then some rest else none
  | [] => none

/-- A number of at most three digits below 256; only zero itself begins with a zero. -/
def readOctet (cs : List Char) : Option (Nat × List Char) := do
  let (n, rest) ← readNumber 10 3 256 cs
  if cs.head? == some '0' && cs.length - rest.length > 1 then none else some (n, rest)

/-- Four numbers with points between them. -/
def readQuad (cs : List Char) : Option ((Nat × Nat × Nat × Nat) × List Char) := do
  let (a, cs) ← readOctet cs
  let (b, cs) ← readOctet (← readChar '.' cs)
  let (c, cs) ← readOctet (← readChar '.' cs)
  let (d, cs) ← readOctet (← readChar '.' cs)
  return ((a, b, c, d), cs)

/-- At most `room` groups with colons between them; the last two may be written as four numbers with
points.  Returned with whether they were, and with what follows. -/
def readGroups : (room : Nat) → (first : Bool) → List Char → List Nat × Bool × List Char
  | 0, _, cs => ([], false, cs)
  | room + 1, first, cs =>
    let after := if first then some cs else readChar ':' cs
    let quad := if room = 0 then none else after.bind readQuad
    match quad with
    | some ((a, b, c, d), rest) => ([a * 256 + b, c * 256 + d], true, rest)
    | none =>
      match after.bind (readNumber 16 4 65536) with
      | some (g, rest) =>
        let (gs, quad, rest) := readGroups room false rest
        (g :: gs, quad, rest)
      | none => ([], false, cs)

/-- Eight groups, as a list. -/
def readV6 (cs : List Char) : Option (List Nat × List Char) := do
  let (front, quad, rest) := readGroups 8 true cs
  if front.length = 8 then return (front, rest)
  if quad then none
  let rest ← readChar ':' (← readChar ':' rest)
  let (back, _, rest) := readGroups (7 - front.length) true rest
  return (front ++ List.replicate (8 - front.length - back.length) 0 ++ back, rest)

/-- The address of eight groups. -/
def ipOfGroups? (groups : List Nat) : Option IpAddress :=
  if h : groups.length = 8 then
    some (.v6 ⟨(groups.map UInt16.ofNat).toArray, by simpa using h⟩)
  else none

/-- A colon and a port at the head of a text. -/
def readPort (cs : List Char) : Option (Nat × List Char) := do
  let cs ← readChar ':' cs
  readNumber 10 cs.length 65536 cs

/-- An address of version 4 with a port. -/
def readSocketV4 (cs : List Char) : Option (SocketAddress × List Char) := do
  let ((a, b, c, d), cs) ← readQuad cs
  let (port, cs) ← readPort cs
  let ip := IpAddress.v4 (.ofNat a) (.ofNat b) (.ofNat c) (.ofNat d)
  return (⟨ip, .ofNat port, 0⟩, cs)

/-- An address of version 6 in square brackets, perhaps with a scope, and a port. -/
def readSocketV6 (cs : List Char) : Option (SocketAddress × List Char) := do
  let (groups, cs) ← readV6 (← readChar '[' cs)
  let ip ← ipOfGroups? groups
  let found := do
    let cs ← readChar '%' cs
    readNumber 10 cs.length Text.halfWordLimit cs
  let (scope, cs) := found.getD (0, cs)
  let (port, cs) ← readPort (← readChar ']' cs)
  return (⟨ip, .ofNat port, .ofNat scope⟩, cs)

/-- The address that all of a text spells. -/
def parse? (s : String) : Option SocketAddress :=
  match readSocketV4 s.toList <|> readSocketV6 s.toList with
  | some (address, []) => some address
  | _ => none

end SocketAddress

end WebSocket
