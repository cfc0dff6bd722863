import CommandMesh.Text.Quoted

/-!
# `CommandMesh.Net.Address`: socket addresses as text

A `SocketAddress` is an internet host with a port. `SocketAddress.ofText?` reads the usual notation
(four decimal numbers, or groups of hexadecimal digits between brackets, then a colon and the port)
and refuses everything else; `SocketAddress.text` writes the shortest form, in which the first of
the longest runs of zero groups is left out.

Reading is by characters, and each reader returns what it leaves. A number is read to the last of
its digits before its bound is looked at, so a number that is too large fails as a whole and no
prefix of it is taken. Names of hosts are not addresses here: nothing is looked up.

The scope of an address with groups is a number. It is written when it is not zero, which is also
what is read when none is written. The flow label that such an address can carry in other notations
has no text and is left out.
-/

set_option autoImplicit false

namespace CommandMesh

/-- The address of a host. -/
inductive Host where
  /-- Four numbers. -/
  | quad (a b c d : UInt8)
  /-- Eight groups, and the scope in which they are meant; zero for none. -/
  | groups (gs : List UInt16) (length_gs : gs.length = 8) (scope : UInt32)
deriving DecidableEq

/-- A host and a port. -/
structure SocketAddress where
  host : Host
  port : UInt16
deriving DecidableEq

namespace Net

/-! ### Reading -/

/-- The value of a digit in the base, if the character is one. -/
def digitValue? (base : Nat) (c : Char) : Option Nat :=
  let v :=
    if '0' ≤ c ∧ c ≤ '9' then c.toNat - 48
    else if 'a' ≤ c ∧ c ≤ 'f' then c.toNat - 87
    else if 'A' ≤ c ∧ c ≤ 'F' then c.toNat - 55
    else base
  if v < base then some v else none

/-- The longest row of digits at the start of the characters, and the characters after it. -/
def digitRun (base : Nat) : List Char → List Nat × List Char
  | [] => ([], [])
  | c :: cs =>
    match digitValue? base c with
    | none => ([], c :: cs)
    | some v => let (ds, rest) := digitRun base cs; (v :: ds, rest)

/-- Reads a number below `bound` that has `width` digits at most. -/
def number? (base bound : Nat) (width : Option Nat) (cs : List Char) : Option (Nat × List Char) :=
  let (ds, rest) := digitRun base cs
  let n := ds.foldl (fun n d => base * n + d) 0
  if ds ≠ [] ∧ width.all (ds.length ≤ ·) ∧ n < bound then some (n, rest) else none

/-- Reads one given character. -/
def mark? (c : Char) : List Char → Option (List Char)
  | [] => none
  | d :: cs => if d = c then some cs else none

/-- Reads one of four decimal numbers. Zeros do not stand before other digits. -/
def octet? (cs : List Char) : Option (UInt8 × List Char) := do
  let (n, rest) ← number? 10 256 (some 3) cs
  if cs.head? = some '0' ∧ cs.length ≠ rest.length + 1 then none
  else some (UInt8.ofNat n, rest)

/-- Reads four decimal numbers with points between them. -/
def quad? (cs : List Char) : Option ((UInt8 × UInt8 × UInt8 × UInt8) × List Char) := do
  let (a, cs) ← octet? cs
  let (b, cs) ← octet? (← mark? '.' cs)
  let (c, cs) ← octet? (← mark? '.' cs)
  let (d, cs) ← octet? (← mark? '.' cs)
  some ((a, b, c, d), cs)

/-- Two bytes as one group. -/
def pair (high low : UInt8) : UInt16 := high.toUInt16 * 256 + low.toUInt16

/-- What `groupRun` finds. -/
structure GroupRun where
  groups : List UInt16
  /-- Whether the last two groups were written as four decimal numbers. -/
  endsInQuad : Bool
  rest : List Char

/-- Reads groups with colons between them, `room` of them at most. Where two are left, four decimal
numbers may stand for both and end the row. -/
def groupRun : (room : Nat) → (first : Bool) → List Char → GroupRun
  | 0, _, cs => ⟨[], false, cs⟩
  | room + 1, first, cs =>
    match if first then some cs else mark? ':' cs with
    | none => ⟨[], false, cs⟩
    | some body =>
      match if room = 0 then none else quad? body with
      | some ((a, b, c, d), rest) => ⟨[pair a b, pair c d], true, rest⟩
      | none =>
        match number? 16 65536 (some 4) body with
        | none => ⟨[], false, cs⟩
        | some (n, rest) =>
          let after := groupRun room false rest
          ⟨UInt16.ofNat n :: after.groups, after.endsInQuad, after.rest⟩

/-- Reads eight groups. A double colon stands for one or more groups of zero. -/
def groups? (cs : List Char) : Option (List UInt16 × List Char) := do
  let head := groupRun 8 true cs
  if head.groups.length = 8 then some (head.groups, head.rest)
  -- Four decimal numbers end an address, so no double colon can follow them.
  else if head.endsInQuad then none
  else
    let body ← mark? ':' (← mark? ':' head.rest)
    -- Seven groups at most, since the double colon stands for one at least.
    let tail := groupRun (7 - head.groups.length) true body
    let zeros := List.replicate (8 - head.groups.length - tail.groups.length) 0
    some (head.groups ++ zeros ++ tail.groups, tail.rest)

/-- Reads a colon and a port. -/
def port? (cs : List Char) : Option (UInt16 × List Char) := do
  let (n, rest) ← number? 10 65536 none (← mark? ':' cs)
  some (UInt16.ofNat n, rest)

/-- Reads a percent sign and a scope. Without one the scope is zero and nothing is read. -/
def scope (cs : List Char) : UInt32 × List Char :=
  match (mark? '%' cs).bind (number? 10 UInt32.size none) with
  | some (n, rest) => (UInt32.ofNat n, rest)
  | none => (0, cs)

/-- Reads an address of the kind with four numbers. -/
def quadAddress? (cs : List Char) : Option SocketAddress := do
  let ((a, b, c, d), cs) ← quad? cs
  let (port, cs) ← port? cs
  -- Nothing may follow the port.
  if cs = [] then some ⟨.quad a b c d, port⟩ else none

/-- Reads an address of the kind with eight groups. -/
def groupsAddress? (cs : List Char) : Option SocketAddress := do
  let (gs, cs) ← groups? (← mark? '[' cs)
  let (scope, cs) := scope cs
  let (port, cs) ← port? (← mark? ']' cs)
  if h : cs = [] ∧ gs.length = 8 then some ⟨.groups gs h.2 scope, port⟩ else none

/-! ### Writing -/

/-- Four decimal numbers with points between them. -/
def quadText (a b c d : UInt8) : String :=
  ".".intercalate ([a, b, c, d].map fun n => Nat.repr n.toNat)

/-- Groups with colons between them. -/
def groupsText (gs : List UInt16) : String :=
  ":".intercalate (gs.map fun g => Text.hexText g.toNat)

/-- How many zeros the list starts with. -/
def leadingZeros (gs : List UInt16) : Nat := (gs.takeWhile (· == 0)).length

/-- The place and length of the first of the longest runs of zeros. -/
def longestZeros (gs : List UInt16) : Nat × Nat :=
  (List.range gs.length).foldl
    (fun best i => let n := leadingZeros (gs.drop i); if best.2 < n then (i, n) else best) (0, 0)

/-- Eight groups in short form. Groups that embed a quad show it. -/
def shortGroups (gs : List UInt16) : String :=
  match gs with
  | [0, 0, 0, 0, 0, 0xffff, g, h] =>
    "::ffff:" ++ quadText (g / 256).toUInt8 g.toUInt8 (h / 256).toUInt8 h.toUInt8
  | _ =>
    let (start, length) := longestZeros gs
    if length < 2 then groupsText gs
    else groupsText (gs.take start) ++ "::" ++ groupsText (gs.drop (start + length))

end Net

namespace SocketAddress

/-- Reads a socket address. -/
def ofText? (s : String) : Option SocketAddress :=
  Net.quadAddress? s.toList <|> Net.groupsAddress? s.toList

/-- Writes a socket address. -/
def text (a : SocketAddress) : String :=
  let port := ":" ++ Nat.repr a.port.toNat
  match a.host with
  | .quad a b c d => Net.quadText a b c d ++ port
  | .groups gs _ scope =>
    let scope := if scope = 0 then "" else "%" ++ Nat.repr scope.toNat
    "[" ++ Net.shortGroups gs ++ scope ++ "]" ++ port

/-- The same host without a scope, at a port that is `offset` higher, or at the highest port. -/
def shifted (a : SocketAddress) (offset : Nat) : SocketAddress where
  host :=
    match a.host with
    | .quad a b c d => .quad a b c d
    | .groups gs h _ => .groups gs h 0
  port := UInt16.ofNat (min (a.port.toNat + offset) 65535)

end SocketAddress

end CommandMesh
