import Telemetry.Configuration.Error
import Telemetry.Json.Draft
import Telemetry.SortedMap

/-!
# Decoding of document values

The parts that every document is made of: texts, sizes, lists and maps, and values that are read
over. Decoding goes through a draft in the order of its text and stops at the first problem.

## Main definitions

- `Configuration.Decoded` — the outcome of decoding
- `Configuration.decodeText`, `Configuration.decodeSize` — scalars
- `Configuration.decodeArray`, `Configuration.decodeMap` — containers
- `Configuration.skip`, `Configuration.check` — values that are not wanted, and that may be wanted
  later

## Design notes

A value that is skipped has to be well-formed only as far as its extent depends on it: an unpaired
surrogate or a number out of range in it does no harm. A value that is checked has to be readable.
-/

namespace Telemetry.Configuration

open Json (Draft Failure Fault)

/-- The outcome of decoding a part of a document. -/
abbrev Decoded := Except ConfigurationError

-- ════════════════════════════════════════════════════════════════════════
-- Scalars
-- ════════════════════════════════════════════════════════════════════════

/-- A failure to read the text of a document. -/
def unreadable {α : Type} (f : Failure) : Decoded α :=
  .error (.unreadable f)

/-- What a number is called. -/
def foundNumeral : Json.Numeral → Found
  | .natural n => .integer n
  | .negative n => .integer (-n)
  | .double x => .double x

/-- The error of a value that is not of the wanted kind; a value that cannot be read at all comes
    first. -/
def mismatch {α : Type} (wanted : Wanted) : Draft → Decoded α
  | .null => .error (.shape (.invalidType .null wanted))
  | .bool b => .error (.shape (.invalidType (.boolean b) wanted))
  | .number (some n) => .error (.shape (.invalidType (foundNumeral n) wanted))
  | .string (some t) => .error (.shape (.invalidType (.string t) wanted))
  | .array .. => .error (.shape (.invalidType .sequence wanted))
  | .object .. => .error (.shape (.invalidType .map wanted))
  | .number none => unreadable .malformed
  | .string none => unreadable .malformed
  | .broken f => unreadable f.wanted

/-- The text of a string. -/
def decodeText : Draft → Decoded Text
  | .string (some t) => .ok t
  | d => mismatch .string d

/-- A natural number of 64 bits. -/
def decodeSize : Draft → Decoded Nat
  | .number (some (.natural n)) => .ok n
  | .number (some (.negative n)) => .error (.shape (.invalidValue (.integer (-n)) .size))
  | d => mismatch .size d

/-- The text of a key. -/
def decodeKey : Option Text → Decoded Text
  | some k => .ok k
  | none => unreadable .malformed

/-- The end of a container: its fault, if it has one. -/
def decodeEnd : Option Fault → Decoded Unit
  | none => .ok ()
  | some f => unreadable f.wanted

-- ════════════════════════════════════════════════════════════════════════
-- Containers
-- ════════════════════════════════════════════════════════════════════════

/-- The results of decoding drafts in order, or the error of the first that fails. -/
def decodeAll {α : Type} (decode : Draft → Decoded α) : List Draft → Decoded (List α)
  | [] => .ok []
  | d :: ds =>
    match decode d with
    | .error e => .error e
    | .ok v => (decodeAll decode ds).map (v :: ·)

/-- The items of an array. -/
def decodeArray {α : Type} (decode : Draft → Decoded α) : Draft → Decoded (List α)
  | .array items fault => do
    let vs ← decodeAll decode items
    decodeEnd fault
    return vs
  | d => mismatch .sequence d

/-- The members of an object whose values are strings. -/
def decodeEntries : List (Option Text × Draft) → Decoded (List (Text × Text))
  | [] => .ok []
  | (k, v) :: ms =>
    match decodeKey k with
    | .error e => .error e
    | .ok k =>
      match decodeText v with
      | .error e => .error e
      | .ok v => (decodeEntries ms).map ((k, v) :: ·)

/-- The map of an object whose values are strings; of members with the same key the last one
    counts. -/
def decodeMap : Draft → Decoded (SortedMap Text Text)
  | .object members fault => do
    let entries ← decodeEntries members
    decodeEnd fault
    return SortedMap.ofList entries
  | d => mismatch .map d

-- ════════════════════════════════════════════════════════════════════════
-- Values that are read over
-- ════════════════════════════════════════════════════════════════════════

mutual

/-- Reads over a value that is not wanted. -/
def skip : Draft → Decoded Unit
  | .null => .ok ()
  | .bool _ => .ok ()
  | .number _ => .ok ()
  | .string _ => .ok ()
  | .array items fault =>
    match skipItems items with
    | .error e => .error e
    | .ok _ => skipEnd fault
  | .object members fault =>
    match skipMembers members with
    | .error e => .error e
    | .ok _ => skipEnd fault
  | .broken f => unreadable f.skipped

/-- Reads over the items of an array. -/
def skipItems : List Draft → Decoded Unit
  | [] => .ok ()
  | d :: ds =>
    match skip d with
    | .error e => .error e
    | .ok _ => skipItems ds

/-- Reads over the members of an object. -/
def skipMembers : List (Option Text × Draft) → Decoded Unit
  | [] => .ok ()
  | (_, d) :: ms =>
    match skip d with
    | .error e => .error e
    | .ok _ => skipMembers ms

/-- Reads over the end of a container. -/
def skipEnd : Option Fault → Decoded Unit
  | none => .ok ()
  | some f => unreadable f.skipped

end

mutual

/-- Reads over a value that may be wanted later, in which containers may be nested up to a depth. -/
def check (depth : Nat) : Draft → Decoded Unit
  | .null => .ok ()
  | .bool _ => .ok ()
  | .number (some _) => .ok ()
  | .number none => unreadable .malformed
  | .string (some _) => .ok ()
  | .string none => unreadable .malformed
  | .array items fault =>
    match depth with
    | 0 => unreadable .malformed
    | depth + 1 =>
      match checkItems depth items with
      | .error e => .error e
      | .ok _ => decodeEnd fault
  | .object members fault =>
    match depth with
    | 0 => unreadable .malformed
    | depth + 1 =>
      match checkMembers depth members with
      | .error e => .error e
      | .ok _ => decodeEnd fault
  | .broken f => unreadable f.wanted

/-- Reads over the items of an array that may be wanted later. -/
def checkItems (depth : Nat) : List Draft → Decoded Unit
  | [] => .ok ()
  | d :: ds =>
    match check depth d with
    | .error e => .error e
    | .ok _ => checkItems depth ds

/-- Reads over the members of an object that may be wanted later. -/
def checkMembers (depth : Nat) : List (Option Text × Draft) → Decoded Unit
  | [] => .ok ()
  | (none, _) :: _ => unreadable .malformed
  | (some _, d) :: ms =>
    match check depth d with
    | .error e => .error e
    | .ok _ => checkMembers depth ms

end

end Telemetry.Configuration
