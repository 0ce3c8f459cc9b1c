import FuzzIntake.Json.Number

/-!
# Reading JSON

A text is read strictly: the four JSON blanks, no trailing commas, no lone
surrogates, no raw controls in strings, and at most 127 lists and records inside
each other.  Every call of the reader spends one unit of a budget that the length
of the text bounds.
-/

namespace FuzzIntake
namespace Json

/-- The deepest nesting of lists and records. -/
def nestingLimit : Nat :=
  127

/-- A text without the blanks at its front. -/
def skipBlanks (text : List Char) : List Char :=
  text.dropWhile fun c => c = ' ' ∨ c = '\t' ∨ c = '\n' ∨ c = '\r'

/-- The value of a hexadecimal digit. -/
def hexValue? (c : Char) : Option Nat :=
  if '0' ≤ c ∧ c ≤ '9' then some (c.toNat - 48)
  else if 'a' ≤ c ∧ c ≤ 'f' then some (c.toNat - 87)
  else if 'A' ≤ c ∧ c ≤ 'F' then some (c.toNat - 55)
  else none

/-- Four hexadecimal digits and what follows them. -/
def readUnit? : List Char → Option (Nat × List Char)
  | a :: b :: c :: d :: rest => do
      let a ← hexValue? a
      let b ← hexValue? b
      let c ← hexValue? c
      let d ← hexValue? d
      return (((a * 16 + b) * 16 + c) * 16 + d, rest)
  | _ => none

/-- The character of a `\u` escape, which is a pair of escapes outside the basic plane. -/
def readCodePoint? (text : List Char) : Option (Char × List Char) := do
  let (unit, rest) ← readUnit? text
  if 0xD800 ≤ unit ∧ unit < 0xDC00 then
    match rest with
    | '\\' :: 'u' :: rest =>
        let (low, rest) ← readUnit? rest
        if 0xDC00 ≤ low ∧ low < 0xE000 then
          return (Char.ofNat (0x10000 + (unit - 0xD800) * 0x400 + (low - 0xDC00)), rest)
        else
          none
    | _ => none
  else if 0xDC00 ≤ unit ∧ unit < 0xE000 then
    none
  else
    return (Char.ofNat unit, rest)

/-- The character of an escape after its backslash. -/
def readEscape? : List Char → Option (Char × List Char)
  | '"' :: rest => some ('"', rest)
  | '\\' :: rest => some ('\\', rest)
  | '/' :: rest => some ('/', rest)
  | 'b' :: rest => some ('\x08', rest)
  | 'f' :: rest => some ('\x0c', rest)
  | 'n' :: rest => some ('\n', rest)
  | 'r' :: rest => some ('\r', rest)
  | 't' :: rest => some ('\t', rest)
  | 'u' :: rest => readCodePoint? rest
  | _ => none

/-- The characters of a string after its opening quote, and what follows the closing one. -/
def readChars? : (budget : Nat) → List Char → Option (List Char × List Char)
  | 0, _ => none
  | _ + 1, [] => none
  | budget + 1, c :: rest =>
      if c = '"' then
        some ([], rest)
      else if c = '\\' then
        (readEscape? rest).bind fun (decoded, rest) =>
          (readChars? budget rest).map fun (cs, rest) => (decoded :: cs, rest)
      else if c.toNat < 0x20 then
        none
      else
        (readChars? budget rest).map fun (cs, rest) => (c :: cs, rest)

/-- A string at the front of a text, and what follows it. -/
def readText? : List Char → Option (String × List Char)
  | '"' :: rest =>
      (readChars? (rest.length + 1) rest).map fun (cs, rest) => (String.ofList cs, rest)
  | _ => none

/-- What follows a word at the front of a text. -/
def dropWord? : (word text : List Char) → Option (List Char)
  | [], text => some text
  | _ :: _, [] => none
  | w :: word, c :: text => if w = c then dropWord? word text else none

mutual

/-- A value at the front of a text, and what follows it. -/
def readValue? : (budget depth : Nat) → List Char → Option (Value × List Char)
  | 0, _, _ => none
  | budget + 1, depth, text =>
      match skipBlanks text with
      | 'n' :: rest => (dropWord? "ull".toList rest).map fun rest => (.null, rest)
      | 't' :: rest => (dropWord? "rue".toList rest).map fun rest => (.bool true, rest)
      | 'f' :: rest => (dropWord? "alse".toList rest).map fun rest => (.bool false, rest)
      | '"' :: rest => (readText? ('"' :: rest)).map fun (s, rest) => (.text s, rest)
      | '[' :: rest =>
          match depth with
          | 0 => none
          | depth + 1 =>
              match skipBlanks rest with
              | ']' :: rest => some (.list [], rest)
              | rest =>
                  (readItems? budget depth rest).map fun (items, rest) => (.list items, rest)
      | '\x7b' :: rest =>
          match depth with
          | 0 => none
          | depth + 1 =>
              match skipBlanks rest with
              | '\x7d' :: rest => some (.record [], rest)
              | rest =>
                  (readMembers? budget depth rest).map fun (members, rest) =>
                    (.record members, rest)
      | rest => readNumber? rest

/-- One or more items and the closing bracket. -/
def readItems? : (budget depth : Nat) → List Char → Option (List Value × List Char)
  | 0, _, _ => none
  | budget + 1, depth, text =>
      (readValue? budget depth text).bind fun (item, rest) =>
        match skipBlanks rest with
        | ']' :: rest => some ([item], rest)
        | ',' :: rest =>
            (readItems? budget depth rest).map fun (items, rest) => (item :: items, rest)
        | _ => none

/-- One or more members and the closing brace. -/
def readMembers? : (budget depth : Nat) → List Char →
    Option (List (String × Value) × List Char)
  | 0, _, _ => none
  | budget + 1, depth, text =>
      (readText? (skipBlanks text)).bind fun (key, rest) =>
        match skipBlanks rest with
        | ':' :: rest =>
            (readValue? budget depth rest).bind fun (value, rest) =>
              match skipBlanks rest with
              | '\x7d' :: rest => some ([(key, value)], rest)
              | ',' :: rest =>
                  (readMembers? budget depth rest).map fun (members, rest) =>
                    ((key, value) :: members, rest)
              | _ => none
        | _ => none

end

/-- A whole text as one value, its members in the order written. -/
def readDocument? (text : String) : Option Value :=
  (readValue? (2 * text.length + 2) nestingLimit text.toList).bind fun (value, rest) =>
    if (skipBlanks rest).isEmpty then some value else none

/-- A whole text as one value in canonical form. -/
def read? (text : String) : Option Value :=
  (readDocument? text).map Value.canonical

end Json
end FuzzIntake
