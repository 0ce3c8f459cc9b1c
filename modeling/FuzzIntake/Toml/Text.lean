import FuzzIntake.Json.Reader

/-!
# TOML texts

A text is basic, with escapes, or literal, taken as it stands; either kind may
span lines between tripled quotes.  Of the controls only the tab may stand in a
text.  A newline right after opening tripled quotes is skipped, and a backslash
at the end of a line skips the blanks and newlines up to the next character.
-/

namespace FuzzIntake
namespace Toml

/-- A control character that may not stand in texts and comments. -/
def isForbidden (c : Char) : Bool :=
  (c.toNat < 0x20 && c != '\t') || c.toNat == 0x7F

/-- The number of leading hexadecimal digits and what follows exactly `count` of them. -/
def readHex? : (count : Nat) → (value : Nat) → List Char → Option (Nat × List Char)
  | 0, value, rest => some (value, rest)
  | _ + 1, _, [] => none
  | count + 1, value, c :: rest =>
      (Json.hexValue? c).bind fun d => readHex? count (16 * value + d) rest

/-- The character of a code point. -/
def scalar? (code : Nat) : Option Char :=
  if valid : code.isValidChar then some (Char.ofNatAux code valid) else none

/-- The character of an escape after its backslash. -/
def readEscape? : List Char → Option (Char × List Char)
  | 'b' :: rest => some ('\x08', rest)
  | 't' :: rest => some ('\t', rest)
  | 'n' :: rest => some ('\n', rest)
  | 'f' :: rest => some ('\x0c', rest)
  | 'r' :: rest => some ('\r', rest)
  | 'e' :: rest => some ('\x1b', rest)
  | '"' :: rest => some ('"', rest)
  | '\\' :: rest => some ('\\', rest)
  | 'x' :: rest => sized 2 rest
  | 'u' :: rest => sized 4 rest
  | 'U' :: rest => sized 8 rest
  | _ => none
where
  /-- A code point of a fixed number of digits. -/
  sized (count : Nat) (text : List Char) : Option (Char × List Char) :=
    (readHex? count 0 text).bind fun (code, rest) =>
      (scalar? code).map fun c => (c, rest)

/-- What follows a newline at the front of a text. -/
def dropNewline? : List Char → Option (List Char)
  | '\n' :: rest => some rest
  | '\r' :: '\n' :: rest => some rest
  | _ => none

/-- A text without the blanks, and the newlines, at its front. -/
def skipBlankLines : (budget : Nat) → List Char → List Char
  | 0, text => text
  | budget + 1, text =>
      match text with
      | ' ' :: rest => skipBlankLines budget rest
      | '\t' :: rest => skipBlankLines budget rest
      | _ =>
          match dropNewline? text with
          | some rest => skipBlankLines budget rest
          | none => text

/-- What follows a backslash at the end of a line. -/
def dropLineEnd? (text : List Char) : Option (List Char) :=
  (dropNewline? (text.dropWhile fun c => c = ' ' ∨ c = '\t')).map fun rest =>
    skipBlankLines rest.length rest

/-- The characters of a basic text on one line, and what follows its closing quote. -/
def readBasic? : (budget : Nat) → List Char → Option (List Char × List Char)
  | 0, _ => none
  | _ + 1, [] => none
  | budget + 1, c :: rest =>
      if c = '"' then
        some ([], rest)
      else if c = '\\' then
        (readEscape? rest).bind fun (decoded, rest) =>
          (readBasic? budget rest).map fun (cs, rest) => (decoded :: cs, rest)
      else if isForbidden c then
        none
      else
        (readBasic? budget rest).map fun (cs, rest) => (c :: cs, rest)

/-- The characters of a literal text on one line, and what follows its closing quote. -/
def readLiteral? : List Char → Option (List Char × List Char)
  | [] => none
  | c :: rest =>
      if c = '\'' then some ([], rest)
      else if isForbidden c then none
      else (readLiteral? rest).map fun (cs, rest) => (c :: cs, rest)

/-- The quotes of a text's own in front of closing tripled quotes, and what follows them all. -/
def closeTripled (quote : Char) (text : List Char) : List Char × List Char :=
  match text with
  | a :: b :: rest =>
      if a = quote ∧ b = quote then ([quote, quote], rest)
      else if a = quote then ([quote], b :: rest)
      else ([], text)
  | [a] => if a = quote then ([quote], []) else ([], [a])
  | [] => ([], [])

/-- The characters of a text between tripled quotes, and what follows the closing ones. -/
def readTripled? (quote : Char) : (budget : Nat) → List Char → Option (List Char × List Char)
  | 0, _ => none
  | _ + 1, [] => none
  | budget + 1, c :: rest =>
      if c = quote then
        match rest with
        | a :: b :: after =>
            if a = quote ∧ b = quote then
              some (closeTripled quote after)
            else
              (readTripled? quote budget rest).map fun (cs, rest) => (c :: cs, rest)
        | _ => none
      else if c = '\\' ∧ quote = '"' then
        match dropLineEnd? rest with
        | some rest => readTripled? quote budget rest
        | none =>
            (readEscape? rest).bind fun (decoded, rest) =>
              (readTripled? quote budget rest).map fun (cs, rest) => (decoded :: cs, rest)
      else
        match dropNewline? (c :: rest) with
        | some after =>
            (readTripled? quote budget after).map fun (cs, rest) =>
              (if c = '\r' then '\r' :: '\n' :: cs else '\n' :: cs, rest)
        | none =>
            if isForbidden c then
              none
            else
              (readTripled? quote budget rest).map fun (cs, rest) => (c :: cs, rest)

/-- The characters between tripled quotes after the opening ones. -/
def readLines? (quote : Char) (text : List Char) : Option (List Char × List Char) :=
  let text := (dropNewline? text).getD text
  readTripled? quote (text.length + 1) text

/-- A text on one line at the front of the input. -/
def readLineText? : List Char → Option (List Char × List Char)
  | '"' :: rest => readBasic? (rest.length + 1) rest
  | '\'' :: rest => readLiteral? rest
  | _ => none

/-- A text of any kind at the front of the input. -/
def readText? : List Char → Option (List Char × List Char)
  | '"' :: '"' :: '"' :: rest => readLines? '"' rest
  | '\'' :: '\'' :: '\'' :: rest => readLines? '\'' rest
  | text => readLineText? text

end Toml
end FuzzIntake
