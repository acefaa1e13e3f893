/-
The lines of a TOML document.

Each reader takes something off the front of a list of characters, or fails.
-/
import HostLink.Toml.Scalar

namespace HostLink
namespace Toml

abbrev Text (α : Type) := StateT (List Char) Option α

namespace Text

def fail {α : Type} : Text α := fun _ => none

def peek? : Text (Option Char) := fun cs => some (cs.head?, cs)

def char (c : Char) : Text Unit
  | d :: rest => if c = d then some ((), rest) else none
  | [] => none

/-- Takes a character if it is next. -/
def char? (c : Char) : Text Bool
  | d :: rest => some (if c = d then (true, rest) else (false, d :: rest))
  | [] => some (false, [])

def takeWhile (good : Char → Bool) : Text (List Char) := fun cs =>
  some (cs.takeWhile good, cs.dropWhile good)

/-- A number that bounds how often something can be taken off the front. -/
def bound : Text Nat := fun cs => some (cs.length + 1, cs)

/-! ## Blanks -/

def isBlank (c : Char) : Bool := c == ' ' || c == '\t'

def blanks : Text Unit := do
  let _ ← takeWhile isBlank

def newline? : Text Bool
  | '\n' :: rest => some (true, rest)
  | '\r' :: '\n' :: rest => some (true, rest)
  | cs => some (false, cs)

/-- Characters a line may hold where they have no meaning. -/
def isPlain (c : Char) : Bool := c == '\t' || (0x20 ≤ c.toNat && c.toNat != 0x7f)

def comment : Text Unit := do
  if ← char? '#' then
    let _ ← takeWhile isPlain

/-- What follows blanks, comments and ends of lines; the flag says whether the text
starts within a comment. -/
def afterBlankLines : Bool → List Char → List Char
  | _, [] => []
  | _, '\n' :: rest => afterBlankLines false rest
  | _, '\r' :: '\n' :: rest => afterBlankLines false rest
  | true, c :: rest => if isPlain c then afterBlankLines true rest else c :: rest
  | false, c :: rest =>
    if isBlank c then afterBlankLines false rest
    else if c = '#' then afterBlankLines true rest
    else c :: rest

def blankLines : Text Unit := modify (afterBlankLines false)

/-! ## Strings -/

/-- A character given by the hexadecimal digits of its code. -/
def code (count : Nat) : Text Char := fun cs =>
  let digits := cs.take count
  let n := digitsValue 16 digits
  if digits.length = count ∧ digits.all Digit.isHex then
    if h : n.isValidChar then some (Char.ofNatAux n h, cs.drop count) else none
  else none

def escape : Text Char
  | 'b' :: rest => some ('\x08', rest)
  | 't' :: rest => some ('\t', rest)
  | 'n' :: rest => some ('\n', rest)
  | 'f' :: rest => some ('\x0c', rest)
  | 'r' :: rest => some ('\r', rest)
  | '"' :: rest => some ('"', rest)
  | '\\' :: rest => some ('\\', rest)
  | 'u' :: rest => code 4 rest
  | 'U' :: rest => code 8 rest
  | _ => none

/-- The rest of a string on one line.  Escapes have a meaning only between double
quotes. -/
def lineString (quote : Char) : Nat → Text (List Char)
  | 0 => fail
  | fuel + 1 => do
    match ← get with
    | [] => fail
    | c :: rest =>
      set rest
      if c = quote then pure []
      else if c = '\\' ∧ quote = '"' then
        let first ← escape
        let others ← lineString quote fuel
        pure (first :: others)
      else if isPlain c then
        let others ← lineString quote fuel
        pure (c :: others)
      else fail

def emptyLinesWithin : Nat → Text Unit
  | 0 => pure ()
  | fuel + 1 => do
    blanks
    if ← newline? then emptyLinesWithin fuel

/-- Skips a line end that is escaped, and the blanks and line ends around it. -/
def joinLines : Text Bool := do
  let start ← get
  blanks
  if ← newline? then
    emptyLinesWithin (← bound)
    pure true
  else
    set start
    pure false

/-- The rest of a string over several lines.  Up to two quotes may stand before the
three that end it. -/
def textString (quote : Char) : Nat → Text (List Char)
  | 0 => fail
  | fuel + 1 => do
    let quotes := (← get).takeWhile (· == quote)
    if quotes.length ≥ 3 then
      let inside := min (quotes.length - 3) 2
      modify (List.drop (inside + 3))
      pure (List.replicate inside quote)
    else if ← newline? then
      let others ← textString quote fuel
      pure ('\n' :: others)
    else
      match ← get with
      | [] => fail
      | c :: rest =>
        set rest
        if c = '\\' ∧ quote = '"' then
          if ← joinLines then textString quote fuel
          else
            let first ← escape
            let others ← textString quote fuel
            pure (first :: others)
        else if isPlain c then
          let others ← textString quote fuel
          pure (c :: others)
        else fail

def shortString (quote : Char) : Text String := do
  char quote
  String.ofList <$> lineString quote (← bound)

def string (quote : Char) : Text String := do
  match ← get with
  | a :: b :: c :: rest =>
    if a = quote ∧ b = quote ∧ c = quote then
      set rest
      let _ ← newline?
      String.ofList <$> textString quote (← bound)
    else shortString quote
  | _ => shortString quote

/-! ## Keys -/

def simpleKey : Text String := do
  match ← peek? with
  | some '"' => shortString '"'
  | some '\x27' => shortString '\x27'
  | _ =>
    match ← takeWhile isBareKeyChar with
    | [] => fail
    | cs => pure (String.ofList cs)

/-- The most parts of a key, and the most brackets a value stands in. -/
def maxDepth : Nat := 79

/-- A key of as many parts as the bound says at most. -/
def keyWithin : Nat → Text (List String)
  | 0 => fail
  | fuel + 1 => do
    let first ← simpleKey
    blanks
    if ← char? '.' then
      blanks
      let others ← keyWithin fuel
      pure (first :: others)
    else pure [first]

def key : Text (List String) := keyWithin maxDepth

/-! ## Values -/

/-- The rest of a list in brackets up to the one that closes it.  The flag says
whether the list may be closed here. -/
def separated {α : Type} (item : Text α) (space : Text Unit) (close : Char)
    (trailing : Bool) : Nat → Bool → Text (List α)
  | 0, _ => fail
  | fuel + 1, mayClose => do
    space
    if mayClose && (← char? close) then pure []
    else
      let first ← item
      space
      if ← char? ',' then
        let others ← separated item space close trailing fuel trailing
        pure (first :: others)
      else
        char close
        pure [first]

def isScalarChar (c : Char) : Bool := c.isAlphanum || "_+-.:".contains c

/-- A scalar without quotes.  A blank may stand between a day and a time. -/
def scalar : Text Node := do
  let first ← takeWhile isScalarChar
  let all ←
    match ← get with
    | ' ' :: digit :: rest =>
      if isDay first && digit.isDigit then do
        set (digit :: rest)
        let time ← takeWhile isScalarChar
        pure (first ++ ' ' :: time)
      else pure first
    | _ => pure first
  match Node.ofScalar? all with
  | some value => pure value
  | none => fail

def assignment (value : Text Node) : Text (List String × Node) := do
  let key ← key
  char '='
  blanks
  let value ← value
  pure (key, value)

def splitKey (key : List String) : List String × String := (key.dropLast, key.getLastD "")

/-- The entries some keys make, each given once. -/
def entries? (assignments : List (List String × Node)) : Option Nodes :=
  assignments.foldlM (fun entries (key, value) =>
    entries.assign (splitKey key).1 (splitKey key).2 value) ([] : Nodes)

def plainValue : Text Node := do
  match ← peek? with
  | some '"' => .string <$> string '"'
  | some '\x27' => .string <$> string '\x27'
  | _ => scalar

/-- A value with brackets nested as deeply as the bound says at most. -/
def valueWithin : Nat → Text Node
  | 0 => plainValue
  | depth + 1 => do
    match ← peek? with
    | some '[' =>
      char '['
      .array <$> separated (valueWithin depth) blankLines ']' true (← bound) true
    | some '\x7b' =>
      char '\x7b'
      let assignments ←
        separated (assignment (valueWithin depth)) blanks '\x7d' false (← bound) true
      match entries? assignments with
      | some entries => pure (.table .inline entries)
      | none => fail
    | _ => plainValue

def value : Text Node := valueWithin maxDepth

end Text

/-! ## Lines -/

inductive Line where
  | blank
  | header (path : List String) (key : String)
  | elementHeader (path : List String) (key : String)
  | assignment (path : List String) (key : String) (value : Node)
  deriving Repr

namespace Text

def header : Text Line := do
  let element ← char? '['
  blanks
  let key ← key
  char ']'
  if element then char ']'
  let (path, key) := splitKey key
  pure (if element then .elementHeader path key else .header path key)

def lineContent : Text Line := do
  blanks
  match ← peek? with
  | none | some '#' | some '\n' | some '\r' => pure .blank
  | some '[' =>
    char '['
    header
  | some _ =>
    let (key, value) ← assignment value
    let (path, key) := splitKey key
    pure (.assignment path key value)

/-- The lines of a document.  Each but the last has an end. -/
def linesWithin : Nat → Text (List Line)
  | 0 => fail
  | fuel + 1 => do
    let first ← lineContent
    blanks
    comment
    if ← newline? then
      let others ← linesWithin fuel
      pure (first :: others)
    else if (← get).isEmpty then pure [first]
    else fail

end Text

def byteOrderMark : Char := '\ufeff'

def lines? (text : String) : Option (List Line) :=
  let cs := text.toList
  let cs := if cs.head? = some byteOrderMark then cs.drop 1 else cs
  (Text.linesWithin (cs.length + 1) cs).map Prod.fst

end Toml
end HostLink
