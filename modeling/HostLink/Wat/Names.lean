/-
Names of the things a module defines.

Each kind of thing has its own index space, and a thing may be used before it is
defined, so the names of all fields are collected before any field is read.
-/
import HostLink.Wat.Items

namespace HostLink
namespace Wat

inductive Space where
  | type
  | func
  | table
  | memory
  | global
  | tag
  | elem
  | data
  deriving DecidableEq, Repr

def Space.keywords : List (String × Space) :=
  [("type", .type), ("func", .func), ("table", .table), ("memory", .memory),
   ("global", .global), ("tag", .tag), ("elem", .elem), ("data", .data)]

/-- The things of a module in order, each in its space with the name it may have. -/
abbrev Names := List (Space × Option String)

/-- A use of a thing: its index, or the name it was given. -/
inductive Ref where
  | index (n : Nat)
  | name (text : String)
  deriving DecidableEq, Repr

namespace Names

/-- The things of one space; the place of a thing among them is its index. -/
def within (names : Names) (space : Space) : List (Option String) :=
  names.filterMap fun (s, name) => if s = space then some name else none

def count (names : Names) (space : Space) : Nat := (names.within space).length

def find? (names : Names) (space : Space) : Ref → Option Nat
  | .index n => some n
  | .name text => (names.within space).idxOf? (some text)

/-- What opens with the keyword of a space. -/
def headed : List Tree → Names
  | .atom (.keyword text) :: rest =>
    match Space.keywords.lookup text with
    | some space => [(space, match rest with | .atom (.id name) :: _ => some name | _ => none)]
    | none => []
  | _ => []

/-- The things a field puts into the index spaces, by what stands in its bracket.
A field that is not well-formed is refused later, so here it counts for nothing. -/
def inField : List Tree → Names
  | .atom (.keyword "import") :: rest =>
    match rest.getLast? with
    | some (.list inside) => headed inside
    | _ => []
  | .atom (.keyword "rec") :: rest =>
    rest.flatMap fun
      | .list inside => headed inside
      | _ => []
  | trees => headed trees

/-- The segment a table or memory brings along, if it does. -/
def inlineSegment : List Tree → Names
  | .atom (.keyword "table") :: rest =>
    if rest.any (Tree.opens "elem") then [(.elem, none)] else []
  | .atom (.keyword "memory") :: rest =>
    if rest.any (Tree.opens "data") then [(.data, none)] else []
  | _ => []

def ofTree : Tree → Names
  | .list inside => inField inside ++ inlineSegment inside
  | _ => []

/-- Whether no name of a space is given twice.  Segments may share one. -/
def distinct (names : Names) : Bool :=
  Space.keywords.all fun (_, space) =>
    let given := (names.within space).filterMap id
    space == .elem || space == .data || given.eraseDups.length == given.length

end Names

namespace Items

def ref : Items Ref
  | .atom (.id name) :: rest => some (.name name, rest)
  | .atom (.integer false n) :: rest => if n < UInt32.size then some (.index n, rest) else none
  | _ => none

def ref? : Items (Option Ref)
  | .atom (.id name) :: rest => some (some (.name name), rest)
  | .atom (.integer false n) :: rest =>
    if n < UInt32.size then some (some (.index n), rest) else none
  | trees => some (none, trees)

/-- The index of a thing of a space, which has to exist if it is named. -/
def indexIn (names : Names) (space : Space) : Items Nat := do
  match names.find? space (← ref) with
  | some n => pure n
  | none => fail

def indexIn? (names : Names) (space : Space) : Items (Option Nat) := do
  match ← ref? with
  | none => pure none
  | some ref =>
    match names.find? space ref with
    | some n => pure (some n)
    | none => fail

end Items
end Wat
end HostLink
