/-
How the standard library reads and writes a socket address.

The parser looks at bytes.  Every reader takes what it recognises from the
front of the input, or leaves the input as it is.
-/

import TlsProxyTunnel.Builder

namespace TlsProxyTunnel

namespace AddrParser

abbrev Reader (α : Type) := Bytes → Option (α × Bytes)

def toDigit (radix : Nat) (byte : UInt8) : Option Nat :=
  let value :=
    if 48 ≤ byte.toNat ∧ byte.toNat ≤ 57 then some (byte.toNat - 48)
    else if 97 ≤ byte.toNat ∧ byte.toNat ≤ 122 then some (byte.toNat - 87)
    else if 65 ≤ byte.toNat ∧ byte.toNat ≤ 90 then some (byte.toNat - 55)
    else none
  value.filter (fun digit => digit < radix)

def readDigits (radix : Nat) : Bytes → List Nat × Bytes
  | [] => ([], [])
  | byte :: rest =>
      match toDigit radix byte with
      | some digit =>
          (digit :: (readDigits radix rest).1, (readDigits radix rest).2)
      | none => ([], byte :: rest)

def readNumber (radix bound : Nat) (maxDigits : Option Nat)
    (allowZeroPrefix : Bool) : Reader Nat := fun input =>
  let (digits, rest) := readDigits radix input
  let value := digits.foldl (fun result digit => result * radix + digit) 0
  if digits ≠ [] ∧ (maxDigits.all fun limit => digits.length ≤ limit) = true ∧
      (allowZeroPrefix = true ∨ digits.length = 1 ∨ digits.head? ≠ some 0) ∧
      value < bound then
    some (value, rest)
  else
    none

def readGivenChar (target : UInt8) : Reader Unit
  | [] => none
  | byte :: rest => if byte = target then some ((), rest) else none

/-- The separator stands in front of every item but the first. -/
def readSeparator {α : Type} (separator : UInt8) (index : Nat)
    (inner : Reader α) : Reader α := fun input =>
  if 0 < index then
    match readGivenChar separator input with
    | some ((), rest) => inner rest
    | none => none
  else
    inner input

def readOctets (index : Nat) : Nat → Reader (List Nat)
  | 0, input => some ([], input)
  | count + 1, input =>
      match readSeparator 46 index (readNumber 10 256 (some 3) false) input with
      | none => none
      | some (octet, rest) =>
          match readOctets (index + 1) count rest with
          | none => none
          | some (octets, behind) => some (octet :: octets, behind)

def readIpv4Addr : Reader (List Nat) := readOctets 0 4

/-- At most `count` groups, of which the first is that at `index`; the flag
tells whether they end with an embedded IPv4 address. -/
def readGroups (index : Nat) : Nat → Bytes → List Nat × Bool × Bytes
  | 0, input => ([], false, input)
  | count + 1, input =>
      match (if 0 < count then readSeparator 58 index readIpv4Addr input
        else none) with
      | some ([one, two, three, four], rest) =>
          ([one * 256 + two, three * 256 + four], true, rest)
      | _ =>
          match readSeparator 58 index (readNumber 16 65536 (some 4) true)
              input with
          | none => ([], false, input)
          | some (group, rest) =>
              let (groups, embedded, behind) := readGroups (index + 1) count rest
              (group :: groups, embedded, behind)

/-- The groups in front of `::`, zeros for those it leaves out, and the groups
behind it. -/
def readIpv6Addr : Reader (List Nat) := fun input =>
  let (head, embedded, rest) := readGroups 0 8 input
  if head.length = 8 then
    some (head, rest)
  else if embedded then
    none
  else
    match readGivenChar 58 rest with
    | none => none
    | some ((), second) =>
        match readGivenChar 58 second with
        | none => none
        | some ((), behind) =>
            let (tail, _, left) := readGroups 0 (8 - (head.length + 1)) behind
            some
              (head ++ List.replicate (8 - head.length - tail.length) 0 ++ tail,
                left)

def readPort : Reader Nat := fun input =>
  match readGivenChar 58 input with
  | none => none
  | some ((), rest) => readNumber 10 65536 none true rest

def readScopeId : Reader Nat := fun input =>
  match readGivenChar 37 input with
  | none => none
  | some ((), rest) => readNumber 10 4294967296 none true rest

def readSocketAddrV4 : Reader SocketAddr := fun input =>
  match readIpv4Addr input with
  | none => none
  | some (octets, behind) =>
      match readPort behind with
      | none => none
      | some (port, rest) =>
          some
            (.v4 (fun index => UInt8.ofNat (octets.getD index 0))
              (UInt16.ofNat port), rest)

def readSocketAddrV6 : Reader SocketAddr := fun input =>
  match readGivenChar 91 input with
  | none => none
  | some ((), inside) =>
      match readIpv6Addr inside with
      | none => none
      | some (groups, behind) =>
          let (scopeId, closing) := (readScopeId behind).getD (0, behind)
          match readGivenChar 93 closing with
          | none => none
          | some ((), after) =>
              match readPort after with
              | none => none
              | some (port, rest) =>
                  some
                    (.v6 (fun index => UInt16.ofNat (groups.getD index 0))
                      (UInt16.ofNat port) 0 (UInt32.ofNat scopeId), rest)

def readSocketAddr : Reader SocketAddr := fun input =>
  match readSocketAddrV4 input with
  | some read => some read
  | none => readSocketAddrV6 input

end AddrParser

/-- `str::parse::<SocketAddr>`; nothing may be left over. -/
def SocketAddr.fromStr (text : String) : Option SocketAddr :=
  match AddrParser.readSocketAddr (asBytes text) with
  | some (address, []) => some address
  | _ => none

/-! ### Writing -/

def displayOctets (octets : List Nat) : String :=
  ".".intercalate (octets.map toString)

def displayGroups (groups : List Nat) : String :=
  ":".intercalate (groups.map (fun group =>
    String.ofList (Nat.toDigits 16 group)))

/-- Start and length of the first of the longest spans of zeros. -/
def longestZeros (groups : List Nat) : Nat × Nat :=
  (groups.zipIdx.foldl
    (fun (longest, current) (group, index) =>
      if group = 0 then
        let grown :=
          (if current.2 = 0 then index else current.1, current.2 + 1)
        (if longest.2 < grown.2 then grown else longest, grown)
      else
        (longest, (0, 0)))
    ((0, 0), (0, 0))).1

def displayIpv6 (groups : List Nat) : String :=
  match groups with
  | [0, 0, 0, 0, 0, 65535, high, low] =>
      "::ffff:" ++ displayOctets [high / 256, high % 256, low / 256, low % 256]
  | _ =>
      let (start, length) := longestZeros groups
      if 1 < length then
        displayGroups (groups.take start) ++ "::" ++
          displayGroups (groups.drop (start + length))
      else
        displayGroups groups

def SocketAddr.display : SocketAddr → String
  | .v4 octets port =>
      displayOctets ((List.ofFn octets).map UInt8.toNat) ++ ":" ++
        toString port.toNat
  | .v6 groups port _ scopeId =>
      let scope := if scopeId = 0 then "" else "%" ++ toString scopeId.toNat
      "[" ++ displayIpv6 ((List.ofFn groups).map UInt16.toNat) ++ scope ++
        "]:" ++ toString port.toNat

def AddrText.std : AddrText :=
  { parse := SocketAddr.fromStr
    display := SocketAddr.display }

example :
    SocketAddr.fromStr "[::1]:8443" =
        SocketAddr.fromStr "[0:0:0:0:0:0:0:1]:08443" ∧
      (SocketAddr.fromStr "[::1]:8443").isSome = true ∧
      SocketAddr.fromStr "127.0.0.1" = none ∧
      SocketAddr.fromStr "127.0.0.01:80" = none := by
  decide

example :
    ["127.0.0.1:9001", "[0:0:1:0:0:0:0:a%3]:08443", "[::ffff:0a00:1]:80"].map
        (fun text => (SocketAddr.fromStr text).map SocketAddr.display) =
      [some "127.0.0.1:9001", some "[0:0:1::a%3]:8443",
        some "[::ffff:10.0.0.1]:80"] := by
  decide

end TlsProxyTunnel
