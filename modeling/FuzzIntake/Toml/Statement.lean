import FuzzIntake.Toml.Scalar
import FuzzIntake.Toml.Table
import FuzzIntake.Toml.Text

/-!
# TOML lines

A document is read line by line: a header in brackets, or a key, an equals sign
and a value, each with an optional comment.  Lists and inline tables may span
lines, hold comments and end with a comma.
-/

namespace FuzzIntake
namespace Toml

/-- A text without the spaces and tabs at its front. -/
def skipSpaces (text : List Char) : List Char :=
  text.dropWhile fun c => c = ' ' ∨ c = '\t'

/-- A character of a key without quotes. -/
def isBare (c : Char) : Bool :=
  c.isAlphanum || c == '_' || c == '-'

/-- One part of a key. -/
def readKeyPart? (text : List Char) : Option (String × List Char) :=
  match text with
  | '"' :: _ => (readLineText? text).map fun (cs, rest) => (String.ofList cs, rest)
  | '\'' :: _ => (readLineText? text).map fun (cs, rest) => (String.ofList cs, rest)
  | _ =>
      let bare := text.takeWhile isBare
      if bare.isEmpty then none else some (String.ofList bare, text.dropWhile isBare)

/-- A key of at most `limit` parts, joined by dots with blanks around them. -/
def readPath? : (limit : Nat) → List Char → Option (Path × List Char)
  | 0, _ => none
  | limit + 1, text =>
      (readKeyPart? (skipSpaces text)).bind fun (part, rest) =>
        match skipSpaces rest with
        | '.' :: rest => (readPath? limit rest).map fun (path, rest) => (part :: path, rest)
        | rest => some ([part], rest)

/-- The most parts of a key, and the most lists and inline tables inside one another. -/
def nestingLimit : Nat :=
  80

/-- A key at the front of a text, and what follows it and the blanks behind it. -/
def readKey? (text : List Char) : Option (Path × List Char) :=
  readPath? nestingLimit text

/-- What follows a comment, which ends before its newline. -/
def dropComment? (text : List Char) : Option (List Char) :=
  match text with
  | '#' :: rest =>
      let comment := rest.takeWhile fun c => c != '\n' && c != '\r'
      if comment.any isForbidden then none else some (rest.drop comment.length)
  | rest => some rest

/-- What follows blanks, newlines and comments; `inComment` tells whether one has begun. -/
def dropLines? : (inComment : Bool) → List Char → Option (List Char)
  | _, [] => some []
  | _, '\r' :: '\n' :: rest => dropLines? false rest
  | inComment, c :: rest =>
      if c = '\n' then dropLines? false rest
      else if inComment then if isForbidden c then none else dropLines? true rest
      else if c = '#' then dropLines? true rest
      else if c = ' ' ∨ c = '\t' then dropLines? false rest
      else some (c :: rest)

/-- What follows blanks, newlines and comments. -/
def skipLines? (text : List Char) : Option (List Char) :=
  dropLines? false text

/-- A character of a word that is no text, list or table; even a quote may stand in one. -/
def isWordChar (c : Char) : Bool :=
  !"=,[]\x7b\x7d \t#\r\n".toList.contains c

/-- A word, and with a date also the time behind one space. -/
def readWord (text : List Char) : List Char × List Char :=
  let word := text.takeWhile isWordChar
  let rest := text.dropWhile isWordChar
  match dropDate? word, rest with
  | some [], ' ' :: c :: after =>
      if c.isDigit then
        (word ++ ' ' :: (c :: after).takeWhile isWordChar, (c :: after).dropWhile isWordChar)
      else
        (word, rest)
  | _, _ => (word, rest)

mutual

/-- A value at the front of a text, and what follows it. -/
def readValue? : (budget depth : Nat) → List Char → Option (Value × List Char)
  | 0, _, _ => none
  | budget + 1, depth, text =>
      match text with
      | '"' :: _ => (readText? text).map fun (cs, rest) => (.text (String.ofList cs), rest)
      | '\'' :: _ => (readText? text).map fun (cs, rest) => (.text (String.ofList cs), rest)
      | '[' :: rest =>
          match depth with
          | 0 => none
          | depth + 1 =>
              (readItems? budget depth rest).map fun (items, rest) => (.list items, rest)
      | '\x7b' :: rest =>
          match depth with
          | 0 => none
          | depth + 1 =>
              (readEntries? budget depth [] rest).map fun (entries, rest) =>
                (.table .inline entries, rest)
      | _ =>
          let (word, rest) := readWord text
          (readScalar? word).map fun value => (value, rest)

/-- The items of a list up to its closing bracket. -/
def readItems? : (budget depth : Nat) → List Char → Option (List Value × List Char)
  | 0, _, _ => none
  | budget + 1, depth, text =>
      (skipLines? text).bind fun text =>
        match text with
        | ']' :: rest => some ([], rest)
        | _ =>
            (readValue? budget depth text).bind fun (item, rest) =>
              (skipLines? rest).bind fun rest =>
                match rest with
                | ',' :: rest =>
                    (readItems? budget depth rest).map fun (items, rest) => (item :: items, rest)
                | ']' :: rest => some ([item], rest)
                | _ => none

/-- The entries of an inline table up to its closing brace, added to those before them. -/
def readEntries? : (budget depth : Nat) → (entries : List (String × Value)) → List Char →
    Option (List (String × Value) × List Char)
  | 0, _, _, _ => none
  | budget + 1, depth, entries, text =>
      (skipLines? text).bind fun text =>
        match text with
        | '\x7d' :: rest => some (entries, rest)
        | _ =>
            (readAssignment? budget depth text).bind fun (path, value, rest) =>
              (assign? entries path value).bind fun entries =>
                (skipLines? rest).bind fun rest =>
                  match rest with
                  | ',' :: rest => readEntries? budget depth entries rest
                  | '\x7d' :: rest => some (entries, rest)
                  | _ => none

/-- A key and its value within an inline table; the equals sign may stand on a line of its own. -/
def readAssignment? : (budget depth : Nat) → List Char → Option (Path × Value × List Char)
  | 0, _, _ => none
  | budget + 1, depth, text =>
      (readKey? text).bind fun (path, rest) =>
        (skipLines? rest).bind fun rest =>
          match rest with
          | '=' :: rest =>
              (skipLines? rest).bind fun rest =>
                (readValue? budget depth rest).map fun (value, rest) => (path, value, rest)
          | _ => none

end

/-- The statement at the front of a line, and what follows it. -/
def readStatement? (budget : Nat) (text : List Char) : Option (Statement × List Char) :=
  match text with
  | '[' :: '[' :: rest =>
      (readKey? rest).bind fun (path, rest) =>
        match rest with
        | ']' :: ']' :: rest => some (.listHeader path, rest)
        | _ => none
  | '[' :: rest =>
      (readKey? rest).bind fun (path, rest) =>
        match rest with
        | ']' :: rest => some (.header path, rest)
        | _ => none
  | _ =>
      (readKey? text).bind fun (path, rest) =>
        match rest with
        | '=' :: rest =>
            (readValue? budget nestingLimit (skipSpaces rest)).map fun (value, rest) =>
              (.assign path value, rest)
        | _ => none

/-- The statements of a document, one to a line. -/
def readStatements? : (budget : Nat) → List Char → Option (List Statement)
  | 0, _ => none
  | budget + 1, text =>
      (skipLines? text).bind fun text =>
        if text.isEmpty then
          some []
        else
          (readStatement? budget text).bind fun (statement, rest) =>
            (dropComment? (skipSpaces rest)).bind fun rest =>
              if rest.isEmpty then
                some [statement]
              else
                (dropNewline? rest).bind fun rest =>
                  (readStatements? budget rest).map fun others => statement :: others

end Toml
end FuzzIntake
