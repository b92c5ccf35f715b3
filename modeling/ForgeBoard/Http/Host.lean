import ForgeBoard.Http.Domain
import ForgeBoard.Text.Digits
import ForgeBoard.Text.Parts

/-!
# Hosts

The host of an address is a domain name or a numeric address, one of eight groups in brackets.

A numeric address of four bytes is written as up to four numbers between dots: each stands for a
byte, and the last one for all the bytes that remain. A number is decimal, octal after a zero, or
hexadecimal after `0x`, where no digits are zero. One dot may stand at the end.

A numeric address of eight groups is written as eight hexadecimal numbers of up to four digits
between colons. Two colons in a row stand for one or more groups of zeros, once. The last two groups
may be written as four decimal numbers of a byte each between dots. An address is printed with two
colons for the first of its longest runs of zeros, if that run has two groups at least.
-/

namespace ForgeBoard.Http

open Text

/-! ## Four bytes -/

/-- An address of 32 bits. -/
structure Ipv4 where
  value : UInt32
  deriving DecidableEq

namespace Ipv4

/-- Reads a number of an address. -/
def readNumber? : List Char → Option Nat
  | [] => none
  | '0' :: 'x' :: ds => baseValue? 16 ds
  | '0' :: 'X' :: ds => baseValue? 16 ds
  | '0' :: ds => baseValue? 8 ds
  | ds => baseValue? 10 ds

/-- The pieces between dots, without an empty one at the end. -/
def parts (cs : List Char) : List (List Char) :=
  let parts := pieces (· == '.') cs
  if parts.getLast? = some [] then parts.dropLast else parts

/-- A name that ends with a number can be nothing but an address. -/
def endsWithNumber (cs : List Char) : Bool :=
  match (parts cs).getLast? with
  | some last => (!last.isEmpty && last.all Char.isDigit) || (readNumber? last).isSome
  | none => false

/-- The value below `bound` of the given bytes, highest first, where the last one may stand for
several. -/
def value? (bound : Nat) : List Nat → Option Nat
  | [] => none
  | [n] => if n < bound then some n else none
  | n :: rest =>
    if n < 256 then (value? (bound / 256) rest).map (n * (bound / 256) + ·) else none

/-- Reads an address. -/
def ofText? (cs : List Char) : Option Ipv4 :=
  let parts := parts cs
  if 4 < parts.length then none
  else ((parts.mapM readNumber?).bind (value? UInt32.size)).map fun n => ⟨UInt32.ofNat n⟩

/-- Four decimal numbers between dots. -/
def text (a : Ipv4) : String :=
  let n := a.value.toNat
  String.ofList (joinPieces '.'
    ([n / 16777216, n / 65536 % 256, n / 256 % 256, n % 256].map digits))

end Ipv4

/-! ## Eight groups -/

/-- An address of eight groups of 16 bits. -/
structure Ipv6 where
  groups : List UInt16
  length_groups : groups.length = 8
  deriving DecidableEq

namespace Ipv6

/-- Reads a hexadecimal group. -/
def readGroup? (ds : List Char) : Option UInt16 :=
  if ds.isEmpty || 4 < ds.length then none else (baseValue? 16 ds).map UInt16.ofNat

/-- Reads a decimal byte, which has no leading zeros. -/
def readByte? (ds : List Char) : Option Nat :=
  if 1 < ds.length && ds.head? = some '0' then none
  else (readNat? ds).filter (· < 256)

/-- Reads the last group, or the last two as four bytes. -/
def readLast? (ds : List Char) : Option (List UInt16) :=
  if ds.contains '.' then
    match (pieces (· == '.') ds).mapM readByte? with
    | some [a, b, c, d] => some [UInt16.ofNat (a * 256 + b), UInt16.ofNat (c * 256 + d)]
    | _ => none
  else (readGroup? ds).map ([·])

/-- Reads groups between colons, the last of which ends the address or not. -/
def readGroups? (isEnd : Bool) : List (List Char) → Option (List UInt16)
  | [] => some []
  | [ds] => if isEnd then readLast? ds else (readGroup? ds).map ([·])
  | ds :: rest => do return (← readGroup? ds) :: (← readGroups? isEnd rest)

/-- Groups between colons; none in an empty text. -/
def splitGroups (cs : List Char) : List (List Char) :=
  if cs.isEmpty then [] else pieces (· == ':') cs

/-- What stands before the first two colons in a row, and what stands after them. -/
def splitGap? : List Char → Option (List Char × List Char)
  | [] => none
  | [_] => none
  | a :: b :: rest =>
    if a == ':' && b == ':' then some ([], rest)
    else (splitGap? (b :: rest)).map fun (before, after) => (a :: before, after)

/-- An address of these groups, if they are eight. -/
def ofGroups? (groups : List UInt16) : Option Ipv6 :=
  if h : groups.length = 8 then some ⟨groups, h⟩ else none

/-- Reads an address. -/
def ofText? (cs : List Char) : Option Ipv6 :=
  match splitGap? cs with
  | some (before, after) => do
    let front ← readGroups? false (splitGroups before)
    let back ← readGroups? true (splitGroups after)
    let count := front.length + back.length
    if count < 8 then ofGroups? (front ++ List.replicate (8 - count) 0 ++ back) else none
  | none => (readGroups? true (splitGroups cs)).bind ofGroups?

/-- Where the first of the longest runs of zeros starts, and its length. -/
def longestZeros (groups : List UInt16) : Nat × Nat :=
  (List.range groups.length).foldl (fun best start =>
    let length := ((groups.drop start).takeWhile (· = 0)).length
    if best.2 < length then (start, length) else best) (0, 0)

/-- Hexadecimal groups between colons. -/
def groupsText (groups : List UInt16) : List Char :=
  joinPieces ':' (groups.map fun g => hexDigits g.toNat)

def text (a : Ipv6) : String :=
  let (start, length) := longestZeros a.groups
  String.ofList (
    if length < 2 then groupsText a.groups
    else groupsText (a.groups.take start) ++ "::".toList ++
      groupsText (a.groups.drop (start + length)))

end Ipv6

/-! ## Names and numeric addresses -/

inductive Host where
  | domain (name : String)
  | ipv4 (address : Ipv4)
  | ipv6 (address : Ipv6)
  deriving DecidableEq

namespace Host

/-- Reads a host. Bytes of a name may stand in their percent form. -/
def ofText? : List Char → Option Host
  | '[' :: rest =>
    if rest.getLast? = some ']' then (Ipv6.ofText? rest.dropLast).map ipv6 else none
  | cs => do
    let name ← Domain.toAscii? (← decodePercent? cs)
    if name.isEmpty then none
    else if Ipv4.endsWithNumber name then (Ipv4.ofText? name).map ipv4
    else some (domain (String.ofList name))

def text : Host → String
  | domain name => name
  | ipv4 address => address.text
  | ipv6 address => "[" ++ address.text ++ "]"

/-- Characters that a name may have but no request can carry. -/
def isUnsendable (c : Char) : Bool :=
  "\"\x60\x7b\x7d".toList.contains c

end Host

end ForgeBoard.Http
