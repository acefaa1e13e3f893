/-
A TOML document as a table.

A header opens a table, and the lines behind it assign to keys of that table.
-/
import HostLink.Toml.Text

namespace HostLink
namespace Toml

/-- The table read so far, and the path of the table that is open. -/
structure Document where
  root : Nodes := []
  current : List String := []

namespace Document

def add (document : Document) : Line → Option Document
  | .blank => some document
  | .header path key =>
    (document.root.change .implied (Nodes.openTable key) path).map fun root =>
      { root := root, current := path ++ [key] }
  | .elementHeader path key =>
    (document.root.change .implied (Nodes.openElement key) path).map fun root =>
      { root := root, current := path ++ [key] }
  | .assignment path key value =>
    (document.root.change .implied (Nodes.assign path key value) document.current).map
      fun root => { document with root := root }

end Document

def read? (text : String) : Option Nodes := do
  let lines ← lines? text
  let document ← lines.foldlM Document.add {}
  pure document.root

end Toml
end HostLink
