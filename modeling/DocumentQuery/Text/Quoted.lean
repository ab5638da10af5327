/-!
Quoted text: the escapes of JSON strings, and reading them back. Reading accepts every escape of the
format, so it inverts every way of writing that escapes at least quotes, backslashes and the
characters below the space. It has two stages: the pieces that the text is made of, and the
characters that they stand for, which not all pieces have.
-/

namespace DocumentQuery.Quoted

def hexDigit (n : Nat) : Char := (Nat.digitChar n)

/-- The escape of a code point below 2^16 by four hexadecimal digits. -/
def unicodeEscape (n : Nat) : List Char :=
  ['\\', 'u', hexDigit (n / 4096 % 16), hexDigit (n / 256 % 16), hexDigit (n / 16 % 16),
    hexDigit (n % 16)]

/-- How documents write one character of a string. -/
def escapeChar (c : Char) : List Char :=
  match c with
  | '"' => ['\\', '"']
  | '\\' => ['\\', '\\']
  | '\x08' => ['\\', 'b']
  | '\x0c' => ['\\', 'f']
  | '\n' => ['\\', 'n']
  | '\r' => ['\\', 'r']
  | '\t' => ['\\', 't']
  | c => if c.toNat < 0x20 then unicodeEscape c.toNat else [c]

/-- Writes a string in quotes before the rest of a text, with the given escape of characters. -/
def writeWith (escape : Char → List Char) (s : List Char) (rest : List Char) : List Char :=
  '"' :: (s.flatMap escape ++ '"' :: rest)

def write (s : String) (rest : List Char) : List Char := writeWith escapeChar s.toList rest

def hexValue? (c : Char) : Option Nat :=
  if '0' ≤ c ∧ c ≤ '9' then some (c.toNat - '0'.toNat)
  else if 'a' ≤ c ∧ c ≤ 'f' then some (c.toNat - 'a'.toNat + 10)
  else if 'A' ≤ c ∧ c ≤ 'F' then some (c.toNat - 'A'.toNat + 10)
  else none

/-- The code unit written by four hexadecimal digits. -/
def codeUnit? (a b c d : Char) : Option Nat := do
  return 4096 * (← hexValue? a) + 256 * (← hexValue? b) + 16 * (← hexValue? c) + (← hexValue? d)

/-- The character of an escape other than `u`. -/
def unescape? : Char → Option Char
  | '"' => some '"'
  | '\\' => some '\\'
  | '/' => some '/'
  | 'b' => some '\x08'
  | 'f' => some '\x0c'
  | 'n' => some '\n'
  | 'r' => some '\r'
  | 't' => some '\t'
  | _ => none

def isLeadingSurrogate (n : Nat) : Bool := 0xD800 ≤ n && n < 0xDC00

def isTrailingSurrogate (n : Nat) : Bool := 0xDC00 ≤ n && n < 0xE000

/-- A piece of quoted text: a character, or a code unit that is written by number. -/
inductive Piece where
  | char (c : Char)
  | unit (n : Nat)
  deriving DecidableEq

/-- Reads the pieces of a string up to its closing quote, and the text after it. Characters below
the space are accepted only as escapes. -/
def readPieces : List Char → Option (List Piece × List Char)
  | [] => none
  | '"' :: rest => some ([], rest)
  | '\\' :: 'u' :: a :: b :: c :: d :: rest =>
    match codeUnit? a b c d with
    | none => none
    | some n => (readPieces rest).map fun (pieces, rest) => (.unit n :: pieces, rest)
  | '\\' :: c :: rest =>
    match unescape? c with
    | none => none
    | some c => (readPieces rest).map fun (pieces, rest) => (.char c :: pieces, rest)
  | c :: rest =>
    if c.toNat < 0x20 ∨ c = '\\' then none
    else (readPieces rest).map fun (pieces, rest) => (.char c :: pieces, rest)

/-- The characters that pieces stand for. Surrogates are accepted in pairs only. -/
def joinPieces? : List Piece → Option (List Char)
  | [] => some []
  | .char c :: rest => (joinPieces? rest).map (c :: ·)
  | .unit n :: rest =>
    if isLeadingSurrogate n then
      match rest with
      | .unit low :: rest =>
        if isTrailingSurrogate low then
          let point := 0x10000 + (n - 0xD800) * 0x400 + (low - 0xDC00)
          (joinPieces? rest).map (Char.ofNat point :: ·)
        else none
      | _ => none
    else if isTrailingSurrogate n then none
    else (joinPieces? rest).map (Char.ofNat n :: ·)

end DocumentQuery.Quoted
