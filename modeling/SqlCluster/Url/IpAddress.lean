import SqlCluster.Text.Split
import SqlCluster.Text.Digit

/-!
Internet addresses in text. An IPv4 address is four numbers without leading zeros. An IPv6 address
is eight groups of hexadecimal digits, the last two perhaps written as an IPv4 address, and one run
of zero groups may be left out. The compressed form leaves out the longest such run of at least two
groups, the first of several.
-/

namespace SqlCluster.Url

open Text

/-- An internet address: the four bytes of version 4 or the eight groups of version 6. -/
inductive IpAddress where
  | v4 (bytes : List Nat)
  | v6 (groups : List Nat)
  deriving DecidableEq, Repr

namespace IpAddress

/-- A number of an IPv4 address. -/
def byte? (s : List Char) : Option Nat :=
  if s.isEmpty ∨ !s.all Char.isDigit ∨ 3 < s.length ∨ (s.head? = some '0' ∧ 1 < s.length) then none
  else
    let n := ofDigits 10 (s.map fun c => c.toNat - 48)
    if n < 256 then some n else none

/-- The numbers of an IPv4 address. -/
def bytes? (s : List Char) : Option (List Nat) :=
  let ps := parts '.' s
  if ps.length = 4 then ps.mapM byte? else none

/-- A group of an IPv6 address. -/
def group? (s : List Char) : Option Nat :=
  if s.isEmpty ∨ 4 < s.length then none else (s.mapM hexValue?).map (ofDigits 16)

/-- The groups of an IPv6 address as they are written, a final IPv4 address as two groups. -/
def writtenGroups? (s : List Char) : Option (List (List Char)) :=
  let ps := parts ':' s
  let last := ps.getLast?.getD []
  if ps.length < 3 then none
  else if last.contains '.' then do
    match ← bytes? last with
    | [a, b, c, d] =>
      some (ps.dropLast ++ [Nat.toDigits 16 (a * 256 + b), Nat.toDigits 16 (c * 256 + d)])
    | _ => none
  else some ps

/-- The groups before and after those left out, if some are. -/
def cutAtGap? (ps : List (List Char)) : Option (List (List Char) × List (List Char)) :=
  match (ps.drop 1).dropLast.findIdx? List.isEmpty with
  | none => none
  | some i => some (ps.take (i + 1), ps.drop (i + 2))

/-- The groups on one side of those left out: where the text begins or ends there, nothing. -/
def side? (outer : Option (List Char)) (ps : List (List Char)) : Option (List Nat) :=
  if outer = some [] then if ps.length = 1 then some [] else none
  else ps.mapM group?

/-- The groups of an IPv6 address. -/
def groups? (s : List Char) : Option (List Nat) := do
  let ps ← writtenGroups? s
  if 9 < ps.length then none
  else match cutAtGap? ps with
    | none => if ps.length = 8 then ps.mapM group? else none
    | some (before, behind) =>
      let high ← side? before.head? before
      let low ← side? behind.getLast? behind
      if high.length + low.length < 8 then
        some (high ++ List.replicate (8 - high.length - low.length) 0 ++ low)
      else none

/-- Reads an address of either version. -/
def ofText? (s : List Char) : Option IpAddress :=
  match bytes? s with
  | some bytes => some (.v4 bytes)
  | none => (groups? s).map .v6

/-- The length of the run of zeros at the beginning of a list. -/
def zeros (groups : List Nat) : Nat := (groups.takeWhile (· = 0)).length

/-- The place and the length of the longest run of zeros, the first of several, from a place on. -/
def longestRun (place : Nat) : List Nat → Nat × Nat
  | [] => (place, 0)
  | g :: gs =>
    let rest := longestRun (place + 1) gs
    let here := zeros (g :: gs)
    if rest.2 ≤ here then (place, here) else rest

/-- Groups in hexadecimal with colons between them. -/
def groupsText (groups : List Nat) : List Char :=
  [':'].intercalate (groups.map (Nat.toDigits 16))

/-- The compressed form of an address. -/
def text : IpAddress → List Char
  | v4 bytes => ['.'].intercalate (bytes.map (Nat.toDigits 10))
  | v6 groups =>
    let (place, length) := longestRun 0 groups
    if length < 2 then groupsText groups
    else groupsText (groups.take place) ++ ':' :: ':' :: groupsText (groups.drop (place + length))

end IpAddress

end SqlCluster.Url
