/-
Module: Formicary.Settings.Toml
Purpose: Reading the settings of a match from a TOML document.
Main exports: Toml.readInteger?, Toml.readLine?, Toml.entries?, Settings.ofToml?
-/
import Formicary.Settings

namespace Formicary

/-!
A document of settings has no tables and all its values are integers, so only that part of TOML is
read here: lines with a key and an integer, comments and blank lines. A document with anything else
in it, rightly or wrongly, could not be settings, and is refused without a further reason.
-/

namespace Toml

/-- Whether a character may separate the parts of a line. -/
def isBlank (c : Char) : Bool := c == ' ' || c == '\t'

/-- Whether a character may stand in a comment. -/
def isCommentChar (c : Char) : Bool := c == '\t' || (0x20 ≤ c.toNat && c.toNat != 0x7F)

/-- Whether a character may stand in a key without quotation marks. -/
def isBareChar (c : Char) : Bool := c.isAlphanum || c == '-' || c == '_'

/-! ### Integers -/

/-- Value of a digit in a base of up to sixteen; letters count in either case. -/
def digit? (base : Nat) (c : Char) : Option Nat :=
  let n := c.toNat
  let value :=
    if '0'.toNat ≤ n && n ≤ '9'.toNat then n - '0'.toNat
    else if 'a'.toNat ≤ n && n ≤ 'f'.toNat then n - 'a'.toNat + 10
    else if 'A'.toNat ≤ n && n ≤ 'F'.toNat then n - 'A'.toNat + 10
    else base
  if value < base then some value else none

/-- Read more digits after some that stand for `acc`. An underscore may stand between two digits. -/
def readDigitsFrom? (base acc : Nat) : List Char → Option Nat
  | [] => some acc
  | '_' :: c :: cs => do readDigitsFrom? base (acc * base + (← digit? base c)) cs
  | c :: cs => do readDigitsFrom? base (acc * base + (← digit? base c)) cs

/-- Read one or more digits in a base. -/
def readDigits? (base : Nat) : List Char → Option Nat
  | [] => none
  | c :: cs => do readDigitsFrom? base (← digit? base c) cs

/-- Read decimal digits, the first of which is zero only if it is the last. -/
def readDecimal? : List Char → Option Nat
  | ['0'] => some 0
  | '0' :: _ => none
  | cs => readDigits? 10 cs

/-- Read an integer. Only decimal ones have a sign. -/
def readInteger? : List Char → Option Int
  | '0' :: 'x' :: cs => (readDigits? 16 cs).map Int.ofNat
  | '0' :: 'o' :: cs => (readDigits? 8 cs).map Int.ofNat
  | '0' :: 'b' :: cs => (readDigits? 2 cs).map Int.ofNat
  | '+' :: cs => (readDecimal? cs).map Int.ofNat
  | '-' :: cs => (readDecimal? cs).map fun n => -(n : Int)
  | cs => (readDecimal? cs).map Int.ofNat

/-- Read the integer of a setting, which is not negative and fits a signed word of 64 bits. -/
def readSetting? (cs : List Char) : Option Nat := do
  let n ← readInteger? cs
  if 0 ≤ n && n ≤ Int64.maxValue.toInt then some n.toNat else none

/-! ### Keys -/

/-- The character with a number in hexadecimal digits. -/
def readScalar? (cs : List Char) : Option Char := do
  let digits ← cs.mapM (digit? 16)
  let n := digits.foldl (fun acc d => acc * 16 + d) 0
  if n.isValidChar then some (Char.ofNat n) else none

/-- Read a key up to its closing quotation mark, and what follows it. -/
def readBasicKey? : List Char → Option (List Char × List Char)
  | '"' :: rest => some ([], rest)
  | '\\' :: 'u' :: a :: b :: c :: d :: cs => do
    let scalar ← readScalar? [a, b, c, d]
    let (key, rest) ← readBasicKey? cs
    return (scalar :: key, rest)
  | '\\' :: 'U' :: a :: b :: c :: d :: e :: f :: g :: h :: cs => do
    let scalar ← readScalar? [a, b, c, d, e, f, g, h]
    let (key, rest) ← readBasicKey? cs
    return (scalar :: key, rest)
  | '\\' :: c :: cs => do
    let escaped ← [('b', '\x08'), ('t', '\t'), ('n', '\n'), ('f', '\x0c'), ('r', '\r'),
      ('"', '"'), ('\\', '\\')].lookup c
    let (key, rest) ← readBasicKey? cs
    return (escaped :: key, rest)
  | c :: cs => do
    if c == '\\' || !isCommentChar c then none
    let (key, rest) ← readBasicKey? cs
    return (c :: key, rest)
  | [] => none

/-- Read a key: bare, between quotation marks, or between apostrophes. -/
def readKey? : List Char → Option (List Char × List Char)
  | '"' :: cs => readBasicKey? cs
  | '\x27' :: cs =>
    let key := cs.takeWhile fun c => c != '\x27' && isCommentChar c
    match cs.drop key.length with
    | '\x27' :: rest => some (key, rest)
    | _ => none
  | cs =>
    let key := cs.takeWhile isBareChar
    if key.isEmpty then none else some (key, cs.drop key.length)

/-! ### Lines -/

/-- Whether the rest of a line holds nothing, or only a comment. -/
def isLineEnd (cs : List Char) : Bool :=
  match cs.dropWhile isBlank with
  | [] => true
  | '#' :: comment => comment.all isCommentChar
  | _ => false

/-- Read a line. A line without an entry gives an empty list. -/
def readLine? (line : List Char) : Option (List (String × Nat)) := do
  if isLineEnd line then return []
  let (key, rest) ← readKey? (line.dropWhile isBlank)
  let '=' :: rest := rest.dropWhile isBlank | none
  let rest := rest.dropWhile isBlank
  let numeral := rest.takeWhile fun c => !isBlank c && c != '#'
  let n ← readSetting? numeral
  if isLineEnd (rest.drop numeral.length) then some [(String.ofList key, n)] else none

/-- Drop the carriage return before the line feed that ended a line. -/
def dropReturn (line : List Char) : List Char :=
  if line.getLast? = some '\r' then line.dropLast else line

/-- The entries of a document. A byte order mark at its start does not count. -/
def entries? (cs : List Char) : Option (List (String × Nat)) := do
  let cs := match cs with
    | '\ufeff' :: rest => rest
    | _ => cs
  let lines := cs.splitOn '\n'
  let entries ← (lines.dropLast.map dropReturn ++ lines.getLast?.toList).mapM readLine?
  return entries.flatten

end Toml

namespace Settings

/-- Change a setting by its name. -/
def set? (s : Settings) : String × Nat → Option Settings
  | ("seed", n) => some { s with seed := n }
  | ("rounds", n) => some { s with rounds := n }
  | ("batch_size", n) => some { s with batchSize := n }
  | ("tally_interval", n) => some { s with tallyInterval := n }
  | _ => none

/-- Read settings. Each name may occur once; those that do not occur keep their defaults. -/
def ofToml? (text : String) : Option Settings := do
  let entries ← Toml.entries? text.toList
  if (entries.map Prod.fst).Nodup then entries.foldlM set? default else none

end Settings

end Formicary
