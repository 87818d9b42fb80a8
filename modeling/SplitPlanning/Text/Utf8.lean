/-!
# Reading UTF-8

Each longest ill-formed piece that could still have begun a character is replaced by one U+FFFD, and
so is each byte that can begin none. The next byte that a reader is owed lies in a known range,
which is narrower than that of all continuation bytes only right after a first byte whose overlong,
surrogate or too large characters have to be ruled out.
-/

namespace SplitPlanning.Text.Utf8

def replacement : Char := '\uFFFD'

/-- Where the reader stands between two bytes. -/
inductive Position where
  | boundary
  /-- Inside a character of which `value` has been read: `owed + 1` more bytes are needed, the next
  one between `least` and `greatest`. -/
  | inside (owed : Nat) (least greatest : Nat) (value : Nat)
deriving DecidableEq, Repr

def readFirst (byte : Nat) : List Char × Position :=
  if byte < 0x80 then ([Char.ofNat byte], .boundary)
  else if byte < 0xC2 then ([replacement], .boundary)
  else if byte < 0xE0 then ([], .inside 0 0x80 0xBF (byte - 0xC0))
  else if byte = 0xE0 then ([], .inside 1 0xA0 0xBF 0)
  else if byte = 0xED then ([], .inside 1 0x80 0x9F 0xD)
  else if byte < 0xF0 then ([], .inside 1 0x80 0xBF (byte - 0xE0))
  else if byte = 0xF0 then ([], .inside 2 0x90 0xBF 0)
  else if byte < 0xF4 then ([], .inside 2 0x80 0xBF (byte - 0xF0))
  else if byte = 0xF4 then ([], .inside 2 0x80 0x8F 4)
  else ([replacement], .boundary)

/-- The characters completed by a byte, and where the reader stands behind it. A byte that does not
continue the character begun is read again as the first byte of the next one. -/
def readByte (position : Position) (byte : Nat) : List Char × Position :=
  match position with
  | .boundary => readFirst byte
  | .inside owed least greatest value =>
    if least ≤ byte ∧ byte ≤ greatest then
      match owed with
      | 0 => ([Char.ofNat (value * 64 + (byte - 0x80))], .boundary)
      | owed + 1 => ([], .inside owed 0x80 0xBF (value * 64 + (byte - 0x80)))
    else
      (replacement :: (readFirst byte).1, (readFirst byte).2)

def readFrom (position : Position) : List UInt8 → List Char
  | [] =>
    match position with
    | .boundary => []
    | .inside .. => [replacement]
  | byte :: rest =>
    (readByte position byte.toNat).1 ++ readFrom (readByte position byte.toNat).2 rest

/-- The text that the bytes encode, ill-formed pieces replaced. -/
def decode (bytes : List UInt8) : String :=
  String.ofList (readFrom .boundary bytes)

end SplitPlanning.Text.Utf8
