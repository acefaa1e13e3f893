/-
Tokens of the WebAssembly text format.

`Token.scan` cuts a text into tokens.  A maximal run of identifier characters and
strings is one token, so two strings without a blank between them are not two
tokens but one that means nothing.  Blanks and comments separate tokens and are
dropped, except that an annotation is told apart from a list by the `@` right
after its bracket.
-/
import HostLink.Ieee.Format
import HostLink.Text.Digit

namespace HostLink
namespace Wat

/-- A number with a fraction or an exponent, or a number that is not finite.  The
digits of a fraction are counted by `places`, and belong to `digits` too. -/
inductive FloatForm where
  | infinity
  | nan (payload : Option Nat)
  | decimal (digits places : Nat) (exponent : Int)
  | hexadecimal (digits places : Nat) (exponent : Int)
  deriving DecidableEq, Repr

/-- A token.  A note has a name unless what stands behind its mark is none. -/
inductive Token where
  | openList
  | openNote (name : Option String)
  | close
  | string (bytes : List UInt8)
  | id (name : String)
  | keyword (text : String)
  | integer (negative : Bool) (magnitude : Nat)
  | float (negative : Bool) (form : FloatForm)
  | reserved
  deriving DecidableEq, Repr

namespace Token

/-! ## Characters -/

def isIdChar (c : Char) : Bool :=
  c.isAlphanum || "!#$%&'*+-./:<=>?@\\^_`|~".contains c

def isBlank (c : Char) : Bool := c == ' ' || c == '\n' || c == '\r' || c == '\t'

/-- The codes of characters that change how the text around them is displayed. -/
def misleading : List Nat :=
  [0x202a, 0x202b, 0x202d, 0x202e, 0x2066, 0x2067, 0x2068, 0x2069, 0x206c]

def isMisleading (c : Char) : Bool := misleading.contains c.toNat

def utf8 (c : Char) : List UInt8 := c.toString.toUTF8.toList

/-! ## Strings -/

/-- The hexadecimal digits of a code point up to its closing bracket.  A digit
group may not end in an underscore. -/
def codePoint : Nat → Bool → List Char → Option (Nat × List Char)
  | _, _, [] => none
  | n, afterDigit, c :: rest =>
    if c = '\x7d' then if afterDigit then some (n, rest) else none
    else if c = '_' then codePoint n false rest
    else if Digit.isHex c ∧ n < 0x10000000 then codePoint (16 * n + Digit.value c) true rest
    else none

def charOfCode? (n : Nat) : Option Char :=
  if h : n.isValidChar then some (Char.ofNatAux n h) else none

/-- The bytes of a string from behind its opening quote, and what follows it, with fuel
for one more character than there are. -/
def stringBody : Nat → List Char → Option (List UInt8 × List Char)
  | 0, _ => none
  | _, [] => none
  | fuel + 1, c :: rest =>
    let consume (bytes : List UInt8) (rest : List Char) : Option (List UInt8 × List Char) :=
      (stringBody fuel rest).map fun (others, rest) => (bytes ++ others, rest)
    if c = '"' then some ([], rest)
    else if c = '\\' then
      match rest with
      | 't' :: rest => consume [9] rest
      | 'n' :: rest => consume [10] rest
      | 'r' :: rest => consume [13] rest
      | 'u' :: open_ :: first :: rest =>
        if open_ = '\x7b' ∧ Digit.isHex first then
          match codePoint 0 false (first :: rest) with
          | some (n, rest) => (charOfCode? n).bind fun c => consume (utf8 c) rest
          | none => none
        else none
      | a :: rest =>
        if a = '"' ∨ a = '\\' ∨ a.toNat = 39 then consume (utf8 a) rest
        else
          match rest with
          | b :: rest =>
            if Digit.isHex a ∧ Digit.isHex b then
              consume [UInt8.ofNat (16 * Digit.value a + Digit.value b)] rest
            else none
          | [] => none
      | [] => none
    else if c.toNat < 0x20 ∨ c.toNat = 0x7f ∨ isMisleading c then none
    else consume (utf8 c) rest

/-! ## Numbers -/

/-- Digits that may be separated by single underscores: their value in the base,
their number, and what follows them.  There is one at least, and none of the
separators stands at an end. -/
def digits (base : Nat) (good : Char → Bool) (cs : List Char) :
    Option (Nat × Nat × List Char) :=
  match cs with
  | first :: rest => if good first then more (Digit.value first) 1 rest else none
  | [] => none
where
  more (n count : Nat) : List Char → Option (Nat × Nat × List Char)
    | [] => some (n, count, [])
    | c :: rest =>
      if good c then more (base * n + Digit.value c) (count + 1) rest
      else if c = '_' then
        match rest with
        | d :: rest => if good d then more (base * n + Digit.value d) (count + 1) rest else none
        | [] => none
      else some (n, count, c :: rest)

/-- Whether there is a minus sign, and what follows the sign if there is one. -/
def splitSign : List Char → Bool × List Char
  | '-' :: rest => (true, rest)
  | '+' :: rest => (false, rest)
  | cs => (false, cs)

/-- An exponent with an optional sign, up to the end of the token. -/
def exponent (cs : List Char) : Option Int :=
  let (negative, cs) := splitSign cs
  match digits 10 Char.isDigit cs with
  | some (n, _, []) => some (if negative then -n else n)
  | _ => none

def unsignedNumber? (negative : Bool) (cs : List Char) : Option Token :=
  let (hex, cs) : Bool × List Char :=
    match cs with
    | '0' :: 'x' :: rest => (true, rest)
    | _ => (false, cs)
  let base := if hex then 16 else 10
  let good := if hex then Digit.isHex else Char.isDigit
  let form (n places : Nat) (e : Int) : Token :=
    .float negative (if hex then .hexadecimal n places e else .decimal n places e)
  let marks := if hex then ['p', 'P'] else ['e', 'E']
  let tail (n places : Nat) : List Char → Option Token
    | [] => some (form n places 0)
    | c :: rest => if marks.contains c then (exponent rest).map (form n places) else none
  match digits base good cs with
  | none => none
  | some (n, _, []) => some (.integer negative n)
  | some (n, _, '.' :: rest) =>
    if rest.head?.any good then
      match digits base good rest with
      | some (fraction, places, rest) => tail (n * Nat.pow base places + fraction) places rest
      | none => none
    else tail n 0 rest
  | some (n, _, rest) => tail n 0 rest

/-- The number a token of identifier characters spells, if it spells one. -/
def number? (cs : List Char) : Option Token :=
  let (negative, cs) := splitSign cs
  match cs with
  | ['i', 'n', 'f'] => some (.float negative .infinity)
  | ['n', 'a', 'n'] => some (.float negative (.nan none))
  | 'n' :: 'a' :: 'n' :: ':' :: '0' :: 'x' :: rest =>
    match digits 16 Digit.isHex rest with
    | some (n, _, []) => some (.float negative (.nan (some n)))
    | _ => none
  | _ => unsignedNumber? negative cs

/-! ## Runs -/

/-- A piece of a run: characters, or a whole string. -/
inductive Piece where
  | chars (cs : List Char)
  | string (bytes : List UInt8)

/-- The maximal run of identifier characters and strings, with fuel for one more
character than there are. -/
def run : Nat → List Char → Option (List Piece × List Char)
  | 0, _ => none
  | _, [] => some ([], [])
  | fuel + 1, c :: rest =>
    if c = '"' then do
      let (bytes, rest) ← stringBody fuel rest
      let (pieces, rest) ← run fuel rest
      pure (.string bytes :: pieces, rest)
    else if isIdChar c then do
      let chars := c :: rest.takeWhile isIdChar
      let (pieces, rest) ← run fuel (rest.dropWhile isIdChar)
      pure (.chars chars :: pieces, rest)
    else some ([], c :: rest)

/-- A nonempty name behind a mark: plain characters, or one quoted string in UTF-8. -/
def marked (mark : Char) : List Piece → Option String
  | [.chars (c :: name)] =>
    if c = mark ∧ !name.isEmpty then some (String.ofList name) else none
  | [.chars [c], .string bytes] =>
    if c = mark ∧ !bytes.isEmpty then String.fromUTF8? ⟨bytes.toArray⟩ else none
  | _ => none

def classify (pieces : List Piece) : Token :=
  match pieces with
  | [.string bytes] => .string bytes
  | [.chars cs] =>
    match number? cs with
    | some number => number
    | none =>
      match marked '$' pieces with
      | some name => .id name
      | none =>
        if cs.head?.any Char.isLower then .keyword (String.ofList cs) else .reserved
  | _ =>
    match marked '$' pieces with
    | some name => .id name
    | none => .reserved

/-! ## Texts -/

/-- What follows a block comment, from behind its opening; comments nest. -/
def afterComment : Nat → List Char → Option (List Char)
  | depth, '(' :: ';' :: rest => afterComment (depth + 1) rest
  | depth, ';' :: ')' :: rest => if depth = 0 then some rest else afterComment (depth - 1) rest
  | depth, c :: rest => if isMisleading c then none else afterComment depth rest
  | _, [] => none

def isLineEnd (c : Char) : Bool := c == '\n' || c == '\r'

/-- The tokens of a text, with fuel for as many characters as it has. -/
def scanWithin : Nat → List Char → Option (List Token)
  | _, [] => some []
  | 0, _ => none
  | fuel + 1, '(' :: ';' :: rest => do
    scanWithin fuel (← afterComment 0 rest)
  | fuel + 1, ';' :: ';' :: rest =>
    if (rest.takeWhile fun c => !isLineEnd c).any isMisleading then none
    else scanWithin fuel (rest.dropWhile fun c => !isLineEnd c)
  | fuel + 1, '(' :: '@' :: rest => do
    let (pieces, rest) ← run (fuel + 2) ('@' :: rest)
    let others ← scanWithin fuel rest
    pure (.openNote (marked '@' pieces) :: others)
  | fuel + 1, c :: rest =>
    let single (token : Token) : Option (List Token) := (scanWithin fuel rest).map (token :: ·)
    if isBlank c then scanWithin fuel rest
    else if c = '(' then single .openList
    else if c = ')' then single .close
    else if c = '"' ∨ isIdChar c then do
      let (pieces, rest) ← run (fuel + 2) (c :: rest)
      let others ← scanWithin fuel rest
      pure (classify pieces :: others)
    else if c = ';' ∨ c = ',' ∨ c = '[' ∨ c = ']' ∨ c = '\x7b' ∨ c = '\x7d' then single .reserved
    else none

def scan (text : String) : Option (List Token) :=
  let chars := text.toList
  scanWithin chars.length chars

end Token
end Wat
end HostLink
