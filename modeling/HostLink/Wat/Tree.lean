/-
Bracketed trees of tokens.

The text format is a sequence of bracketed lists.  `Tree.ofTokens?` matches the
brackets.  A note (a bracket with `@` and a name behind it) has a meaning for a few
names and is as good as absent for all others, whatever stands in it, be it notes
without a name, which are refused everywhere else.
-/
import HostLink.Wat.Token

namespace HostLink
namespace Wat

inductive Tree where
  | atom (token : Token)
  | list (items : List Tree)
  | note (name : String) (items : List Tree)

namespace Tree

mutual

def size : Tree → Nat
  | atom _ => 1
  | list items => 1 + sizes items
  | note _ items => 1 + sizes items

def sizes : List Tree → Nat
  | [] => 0
  | first :: rest => first.size + sizes rest

end

def opens (head : String) : Tree → Bool
  | list (.atom (.keyword text) :: _) => text == head
  | _ => false

def isBracket : Tree → Bool
  | atom _ => false
  | _ => true

/-- The names of notes that mean something. -/
def knownNotes : List String :=
  ["custom", "producers", "name", "dylink.0", "metadata.code.branch_hint"]

/-- Brackets that are still open: a list, a note that means something, or a note that
is passed over. -/
inductive Bracket where
  | list
  | note (name : String)
  | skipped
  deriving DecidableEq, Repr

def Bracket.ofNote (name : String) : Bracket :=
  if knownNotes.contains name then note name else skipped

/-- A bracket that is still open, and the trees before it, the last first. -/
structure Frame where
  bracket : Bracket
  before : List Tree

/-- The trees up to the end of a bracket with the given items, the last first. -/
def Frame.close (frame : Frame) (items : List Tree) : List Tree :=
  match frame.bracket with
  | .list => .list items :: frame.before
  | .note name => .note name items :: frame.before
  | .skipped => frame.before

/-- Continues under the open brackets with the trees read so far, the last first. -/
def build : List Frame → List Tree → List Token → Option (List Tree)
  | [], done, [] => some done.reverse
  | _ :: _, _, [] => none
  | frames, done, .openList :: rest => build (⟨.list, done⟩ :: frames) [] rest
  | frames, done, .openNote (some name) :: rest =>
    build (⟨.ofNote name, done⟩ :: frames) [] rest
  | frames, done, .openNote none :: rest =>
    if frames.any fun frame => frame.bracket = .skipped then
      build (⟨.skipped, done⟩ :: frames) [] rest
    else none
  | [], _, .close :: _ => none
  | frame :: frames, done, .close :: rest => build frames (frame.close done.reverse) rest
  | frames, done, token :: rest => build frames (.atom token :: done) rest

def ofTokens? (tokens : List Token) : Option (List Tree) := build [] [] tokens

end Tree
end Wat
end HostLink
