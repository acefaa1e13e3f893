/-
What is asked of TOML.

A document is read as a table and a table is written as a document.  `Format` is what configurations
see of this.  Relied on is only that tables of numbers are written out plainly, a header and a
line for each number, and are read from such lines.
-/
import HostLink.Named

namespace HostLink
namespace Toml

/-- TOML data.  Floats and dates are kept as they are written. -/
inductive Value where
  | string (text : String)
  | integer (value : Int)
  | float (text : String)
  | boolean (value : Bool)
  | date (text : String)
  | array (items : List Value)
  | table (entries : List (String × Value))
  deriving Repr

abbrev Entries := Named Value

/-- A reader and a writer of documents. -/
structure Format where
  read : String → Except String Entries
  /-- What is said of a document that is not of the shape asked for. -/
  refusal : String → String
  write : Entries → Except String String

/-! ## Plain documents -/

def isBareKeyChar (c : Char) : Bool := c.isAlphanum || c == '_' || c == '-'

/-- Whether a name can be a key without quotes. -/
def Bare (name : String) : Prop := name.toList ≠ [] ∧ ∀ c ∈ name.toList, isBareKeyChar c

instance (name : String) : Decidable (Bare name) :=
  decidable_of_iff (name.toList ≠ [] ∧ name.toList.all isBareKeyChar)
    (and_congr_right fun _ => List.all_eq_true)

/-- The lines of a table: its header, and the number of each key. -/
def tableLines (title : String) (given : Named UInt32) : List String :=
  ("[" ++ title ++ "]") :: given.map fun entry => entry.1 ++ " = " ++ toString entry.2

def documentLines (tables : Named (Named UInt32)) : List String :=
  tables.flatMap fun table => tableLines table.1 table.2

def numbers (given : Named UInt32) : Entries :=
  given.map fun entry => (entry.1, .integer entry.2.toNat)

def tablesOf (tables : Named (Named UInt32)) : Entries :=
  tables.map fun table => (table.1, .table (numbers table.2))

/-- Whether titles and keys need no quotes, and come once each. -/
structure Plain (tables : Named (Named UInt32)) : Prop where
  titles : tables.names.Nodup
  keys : ∀ table ∈ tables, table.2.names.Nodup
  bareTitles : ∀ title ∈ tables.names, Bare title
  bareKeys : ∀ table ∈ tables, ∀ key ∈ table.2.names, Bare key

/-- Whether some tables are others but for the order of titles and keys, which means nothing. -/
structure Reordered (tables tables' : Named (Named UInt32)) : Prop where
  titles : tables'.names.Perm tables.names
  keys : ∀ table' ∈ tables', ∃ given, (table'.1, given) ∈ tables ∧ table'.2.Perm given

/-! ## What can be relied on -/

namespace Format

/-- Tables of numbers are read from their lines, with blank lines anywhere. -/
def ReadsTables (format : Format) : Prop :=
  ∀ tables texts, Plain tables → texts.filter (· ≠ "") = documentLines tables →
    ∃ tables', Reordered tables tables' ∧
      format.read ("\n".intercalate texts) = .ok (tablesOf tables')

/-- Tables of numbers are written as their lines, with blank lines anywhere. -/
def WritesTables (format : Format) : Prop :=
  ∀ tables, Plain tables → ∃ texts, texts.filter (· ≠ "") = documentLines tables ∧
    format.write (tablesOf tables) = .ok ("\n".intercalate texts)

end Format
end Toml
end HostLink
