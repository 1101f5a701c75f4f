import AssessmentRequest.Text.Numeral

/-!
# Socket addresses

Addresses of the two versions of the protocol, their canonical written forms and readers of
their literals. In a version 6 address the longest run of two or more zero groups, the first
of equals, is written as two colons, and an embedded version 4 address in its own form.
-/

namespace AssessmentRequest

/-- An address of a machine. -/
inductive IpAddress where
  /-- Four bytes. -/
  | v4 (first second third fourth : UInt8)
  /-- Eight groups of 16 bits. -/
  | v6 (groups : Vector UInt16 8)
  deriving Repr, DecidableEq

/-- A port at an address. -/
structure SocketAddress where
  /-- The machine. -/
  ip : IpAddress
  /-- The port. -/
  port : UInt16
  /-- The scope of a version 6 address; zero if it has none. -/
  scope : UInt32 := 0
  deriving Repr, DecidableEq

namespace IpAddress

/-- Four bytes in decimal with points between them. -/
def dotted (first second third fourth : UInt8) : String :=
  ".".intercalate ([first, second, third, fourth].map fun byte => byte.toNat.repr)

/-- Groups in hexadecimal with colons between them. -/
def colons (groups : List UInt16) : String :=
  ":".intercalate (groups.map fun group => String.ofList (Nat.toDigits 16 group.toNat))

/-- The number of zeros in front. -/
def leadingZeros (groups : List UInt16) : Nat := (groups.takeWhile (· = 0)).length

/-- The longest run of zeros, the first of equals: where it begins, and its length. -/
def longestZeros : Nat → List UInt16 → Nat × Nat
  | _, [] => (0, 0)
  | start, group :: rest =>
    let here := leadingZeros (group :: rest)
    let later := longestZeros (start + 1) rest
    if later.2 ≤ here then (start, here) else later

/-- The canonical form of a version 6 address. -/
def render6 (groups : List UInt16) : String :=
  match groups with
  | [0, 0, 0, 0, 0, 0xFFFF, high, low] =>
    "::ffff:" ++ dotted (high >>> 8).toUInt8 high.toUInt8 (low >>> 8).toUInt8 low.toUInt8
  | _ =>
    let zeros := longestZeros 0 groups
    if zeros.2 ≤ 1 then colons groups
    else colons (groups.take zeros.1) ++ "::" ++ colons (groups.drop (zeros.1 + zeros.2))

/-- The canonical form of an address. -/
def render : IpAddress → String
  | v4 first second third fourth => dotted first second third fourth
  | v6 groups => render6 groups.toList

/-- Takes a decimal numeral of up to `digits` digits that is at most `limit`; without leading
zeros unless `zeros` allows them. -/
def decimal (digits limit : Nat) (zeros : Bool) (text : List Char) : Option (Nat × List Char) :=
  let shown := text.takeWhile Char.isDigit
  let value := Nat.ofDigitChars 10 shown 0
  if shown.isEmpty ∨ digits < shown.length ∨ limit < value then none
  else if !zeros ∧ shown.head? = some '0' ∧ 1 < shown.length then none
  else some (value, text.drop shown.length)

/-- Takes a point. -/
def point? : List Char → Option (List Char)
  | '.' :: rest => some rest
  | _ => none

/-- Takes a colon. -/
def colon? : List Char → Option (List Char)
  | ':' :: rest => some rest
  | _ => none

/-- Takes the four bytes of a version 4 address. -/
def bytes4 (text : List Char) : Option ((Nat × Nat × Nat × Nat) × List Char) := do
  let (first, rest) ← decimal 3 255 false text
  let (second, rest) ← decimal 3 255 false (← point? rest)
  let (third, rest) ← decimal 3 255 false (← point? rest)
  let (fourth, rest) ← decimal 3 255 false (← point? rest)
  some ((first, second, third, fourth), rest)

/-- Takes a group of one to four hexadecimal digits. -/
def group (text : List Char) : Option (UInt16 × List Char) :=
  let shown := text.takeWhile fun char => (Numeral.hexDigit? char).isSome
  if shown.isEmpty ∨ 4 < shown.length then none
  else
    let value := shown.foldl (fun value char => 16 * value + (Numeral.hexDigit? char).getD 0) 0
    some (UInt16.ofNat value, text.drop shown.length)

/-- Takes up to `limit` groups with colons between them; the last two may be written as a
version 4 address, which is told. -/
def groups (limit : Nat) (first : Bool) (text : List Char) : List UInt16 × Bool × List Char :=
  match limit with
  | 0 => ([], false, text)
  | more + 1 =>
    match if first then some text else colon? text with
    | none => ([], false, text)
    | some inner =>
      match if more = 0 then none else bytes4 inner with
      | some ((one, two, three, four), rest) =>
        ([UInt16.ofNat (256 * one + two), UInt16.ofNat (256 * three + four)], true, rest)
      | none =>
        match group inner with
        | none => ([], false, text)
        | some (value, rest) =>
          let taken := groups more false rest
          (value :: taken.1, taken.2)

/-- Eight groups as an address. -/
def ofGroups? (values : List UInt16) : Option IpAddress :=
  if h : values.length = 8 then some (v6 ⟨values.toArray, by simpa using h⟩) else none

/-- Takes a version 6 address. -/
def take6 (text : List Char) : Option (IpAddress × List Char) := do
  let (head, embedded, rest) := groups 8 true text
  if head.length = 8 then return (← ofGroups? head, rest)
  if embedded then none
  let (tail, _, rest) := groups (7 - head.length) true (← colon? (← colon? rest))
  let zeros := List.replicate (8 - head.length - tail.length) 0
  return (← ofGroups? (head ++ zeros ++ tail), rest)

/-- Takes a version 4 address. -/
def take4 (text : List Char) : Option (IpAddress × List Char) :=
  (bytes4 text).map fun ((one, two, three, four), rest) =>
    (v4 (UInt8.ofNat one) (UInt8.ofNat two) (UInt8.ofNat three) (UInt8.ofNat four), rest)

/-- The value of a numeral of a base, if it holds nothing but digits of that base. -/
def digitsValue? (base : Nat) (text : List Char) : Option Nat :=
  if text.isEmpty then none
  else text.foldlM (fun value char => do
    let digit ← Numeral.hexDigit? char
    if digit < base then some (base * value + digit) else none) 0

/-- The value of a numeral: hexadecimal behind `0x`, octal behind another zero, else decimal. -/
def numeral? : List Char → Option Nat
  | '0' :: 'x' :: digits | '0' :: 'X' :: digits => digitsValue? 16 digits
  | '0' :: digits => digitsValue? 8 ('0' :: digits)
  | digits => digitsValue? 10 digits

/-- The version 4 address of a number of 32 bits. -/
def ofNat4 (number : Nat) : IpAddress :=
  v4 (UInt8.ofNat (number / 256 / 256 / 256)) (UInt8.ofNat (number / 256 / 256))
    (UInt8.ofNat (number / 256)) (UInt8.ofNat number)

/-- The version 4 address of one to four numbers: each but the last is one byte, and the last
fills the bytes that are left. -/
def ofNumbers? (before : Nat) (width : Nat) : List Nat → Option IpAddress
  | [] => none
  | [last] =>
    if width = 0 ∨ Nat.pow 256 width ≤ last then none
    else some (ofNat4 (before * Nat.pow 256 width + last))
  | byte :: rest =>
    if 256 ≤ byte then none else ofNumbers? (256 * before + byte) (width - 1) rest

/-- The version 4 address written as numerals with points between them. -/
def ofNumerals? (text : String) : Option IpAddress := do
  let numbers ← (text.toList.splitOn '.').mapM numeral?
  ofNumbers? 0 4 numbers

/-- The address of a literal. -/
def ofLiteral? (text : String) : Option IpAddress :=
  match take4 text.toList with
  | some (ip, []) => some ip
  | _ =>
    match take6 text.toList with
    | some (ip, []) => some ip
    | _ => none

end IpAddress

namespace IpAddress

/-- Groups in front of an address that belongs to one link only. -/
def isLinkLocal : IpAddress → Bool
  | v6 groups => decide ((0xFE80 : UInt16) ≤ groups[0] ∧ groups[0] ≤ 0xFEBF)
  | v4 .. => false

/-- A version 6 address of a group of machines. -/
def isMulticast : IpAddress → Bool
  | v6 groups => decide ((0xFF00 : UInt16) ≤ groups[0])
  | v4 .. => false

/-- A version 4 address in the form of version 6. -/
def isMapped : IpAddress → Bool
  | v6 groups => groups.toList.take 6 = [0, 0, 0, 0, 0, 0xFFFF]
  | v4 .. => false

/-- The scope that a text numbers. -/
def scope? (text : List Char) : Option UInt32 := do
  let value ← digitsValue? 10 text
  if value < UInt32.size then some (UInt32.ofNat value) else none

/-- The version 6 address and the scope behind a percent sign that a text writes. -/
def ofScoped? (text : String) : Option (IpAddress × UInt32) := do
  match ← take6 text.toList with
  | (ip, '%' :: scope) => return (ip, ← scope? scope)
  | _ => none

end IpAddress

namespace SocketAddress

/-- The canonical form of a socket address. -/
def render (address : SocketAddress) : String :=
  let port := ":" ++ address.port.toNat.repr
  match address.ip with
  | .v4 .. => address.ip.render ++ port
  | .v6 .. =>
    let scope := if address.scope = 0 then "" else "%" ++ address.scope.toNat.repr
    "[" ++ address.ip.render ++ scope ++ "]" ++ port

/-- Takes a colon and a port. -/
def takePort (text : List Char) : Option (UInt16 × List Char) := do
  let digits ← IpAddress.colon? text
  let (value, rest) ← IpAddress.decimal text.length (UInt16.size - 1) true digits
  some (UInt16.ofNat value, rest)

/-- Takes the scope of a version 6 address, if there is one. -/
def takeScope : List Char → Option (UInt32 × List Char)
  | '%' :: rest =>
    (IpAddress.decimal rest.length (UInt32.size - 1) true rest).map fun (value, rest) =>
      (UInt32.ofNat value, rest)
  | text => some (0, text)

/-- The socket address of a literal. -/
def ofLiteral? (text : String) : Option SocketAddress :=
  match text.toList with
  | '[' :: inner => do
    let (ip, rest) ← IpAddress.take6 inner
    let (scope, rest) ← takeScope rest
    match rest with
    | ']' :: rest =>
      let (port, rest) ← takePort rest
      if rest.isEmpty then some ⟨ip, port, scope⟩ else none
    | _ => none
  | chars => do
    let (ip, rest) ← IpAddress.take4 chars
    let (port, rest) ← takePort rest
    if rest.isEmpty then some ⟨ip, port, 0⟩ else none

end SocketAddress

end AssessmentRequest
