import CommandMesh.Wire.Basic
import CommandMesh.Text.Utf8

/-!
# `CommandMesh.Wire.Binary`: the compact binary format

Words are little-endian and of fixed width. A text or a list starts with its length in eight bytes,
an option and a truth value take a tag byte, a choice takes its position in four bytes, and the
members of a record follow each other with nothing between them.

`Wire.decode?` reads one value at the start of the bytes and returns the rest. It refuses bytes
that end too early, tags other than zero and one, positions beyond the last name, and texts that are
not UTF-8. Nothing of the description itself is written, so bytes are read right only by a reader
that has the same description. In particular no member may be left out, and `absent` plays no part
here.

A list or a text of 2 to the 64th items or bytes has no length prefix. `encode` writes such a length
modulo 2 to the 64th, and the laws in `Proofs.Wire.Binary` leave these values out by name:
`Wire.Fits`. No machine holds one.
-/

set_option autoImplicit false

namespace CommandMesh

namespace Bytes

/-- The `width` low bytes of `n`, lowest first. -/
def littleEndian : Nat → Nat → List UInt8
  | 0, _ => []
  | width + 1, n => UInt8.ofNat (n % 256) :: littleEndian width (n / 256)

/-- The number in the first `width` bytes, lowest first, and the bytes after them. -/
def takeLittleEndian? : Nat → List UInt8 → Option (Nat × List UInt8)
  | 0, bs => some (0, bs)
  | _ + 1, [] => none
  | width + 1, b :: bs =>
    (takeLittleEndian? width bs).map fun (n, rest) => (b.toNat + 256 * n, rest)

/-- The first `n` bytes and those after them. -/
def split? (n : Nat) (bs : List UInt8) : Option (List UInt8 × List UInt8) :=
  if n ≤ bs.length then some (bs.take n, bs.drop n) else none

/-- Reads `n` items in a row. -/
def takeMany? {α : Type} (item : List UInt8 → Option (α × List UInt8)) :
    Nat → List UInt8 → Option (List α × List UInt8)
  | 0, bs => some ([], bs)
  | n + 1, bs => do
    let (a, bs) ← item bs
    let (as, bs) ← takeMany? item n bs
    some (a :: as, bs)

end Bytes

namespace Wire

open Bytes

/-- The bytes of a value. -/
def encode : {f : Form} → {α : Type} → Wire f α → α → List UInt8
  | _, _, .text, s => littleEndian 8 (Text.bytes s).length ++ Text.bytes s
  | _, _, .bool, b => [if b then 1 else 0]
  | _, _, .word8, w => [w]
  | _, _, .word16, w => littleEndian 2 w.toNat
  | _, _, .word32, w => littleEndian 4 w.toNat
  | _, _, .word64, w => littleEndian 8 w.toNat
  | _, _, .int64, i => littleEndian 8 i.toUInt64.toNat
  | _, _, .list item, as => littleEndian 8 as.length ++ as.flatMap item.encode
  | _, _, .option item, o =>
    match o with
    | none => [0]
    | some a => 1 :: item.encode a
  | _, _, .choice _ _ _, i => littleEndian 4 i.val
  | _, _, .record members, a => members.encode a
  | _, _, .iso layout _ parts _ _, b => layout.encode (parts b)
  | _, _, .done, _ => []
  | _, _, .member _ w _ rest, (a, b) => w.encode a ++ rest.encode b

/-- Reads a value at the start of the bytes. -/
def decode? : {f : Form} → {α : Type} → Wire f α → List UInt8 → Option (α × List UInt8)
  | _, _, .text, bs => do
    let (n, bs) ← takeLittleEndian? 8 bs
    let (contents, bs) ← split? n bs
    some (← Text.ofBytes? contents, bs)
  | _, _, .bool, bs =>
    match bs with
    | 0 :: bs => some (false, bs)
    | 1 :: bs => some (true, bs)
    | _ => none
  | _, _, .word8, bs =>
    match bs with
    | b :: bs => some (b, bs)
    | [] => none
  | _, _, .word16, bs => (takeLittleEndian? 2 bs).map fun (n, bs) => (UInt16.ofNat n, bs)
  | _, _, .word32, bs => (takeLittleEndian? 4 bs).map fun (n, bs) => (UInt32.ofNat n, bs)
  | _, _, .word64, bs => (takeLittleEndian? 8 bs).map fun (n, bs) => (UInt64.ofNat n, bs)
  | _, _, .int64, bs => (takeLittleEndian? 8 bs).map fun (n, bs) => ((UInt64.ofNat n).toInt64, bs)
  | _, _, .list item, bs => do
    let (n, bs) ← takeLittleEndian? 8 bs
    -- The length is not trusted: reading stops at the first item that the bytes do not hold.
    takeMany? item.decode? n bs
  | _, _, .option item, bs =>
    match bs with
    | 0 :: bs => some (none, bs)
    | 1 :: bs => (item.decode? bs).map fun (a, bs) => (some a, bs)
    | _ => none
  | _, _, .choice names _ _, bs => do
    let (n, bs) ← takeLittleEndian? 4 bs
    if h : n < names.length then some (⟨n, h⟩, bs) else none
  | _, _, .record members, bs => members.decode? bs
  | _, _, .iso layout make _ _ _, bs => (layout.decode? bs).map fun (a, bs) => (make a, bs)
  | _, _, .done, bs => some ((), bs)
  | _, _, .member _ w _ rest, bs => do
    let (a, bs) ← w.decode? bs
    let (b, bs) ← rest.decode? bs
    some ((a, b), bs)

end Wire

end CommandMesh
