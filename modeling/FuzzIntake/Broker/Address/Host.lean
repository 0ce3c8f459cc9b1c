import FuzzIntake.Json.Reader
import FuzzIntake.Number.Integer
import FuzzIntake.Text.Pieces

/-!
# Hosts and ports

A host is a name or, in brackets, a numeric address of eight groups of up to four
hexadecimal digits.  Two colons stand once for all the groups that are missing,
and the last two groups may be written as four decimal numbers.
-/

namespace FuzzIntake
namespace Address

/-- What must not stand in the name of a host. -/
def isForbidden (c : Char) : Bool :=
  c.toNat == 0 || c == ' ' || c == '<' || c == '>' || c == '@' || c == '[' || c == '\\' ||
    c == ']' || c == '^' || c == '|' || c == ':'

/-- A decimal number below 256 without a leading zero. -/
def isOctet (text : List Char) : Bool :=
  match text with
  | '0' :: _ :: _ => false
  | text => text.all Char.isDigit && (Integer.readNat 255 text).isOk

/-- Four decimal numbers between points. -/
def isDotted (text : List Char) : Bool :=
  let numbers := Text.pieces '.' text
  numbers.length == 4 && numbers.all isOctet

/-- The groups of a numeric address behind `count` others, of which some may be left out. -/
def areGroups : (budget count : Nat) → (shortened : Bool) → List Char → Bool
  | 0, _, _, _ => false
  | _ + 1, count, shortened, [] => shortened || count == 8
  | budget + 1, count, shortened, text =>
      if count = 8 then
        false
      else
        let digits := (text.take 4).takeWhile fun c => (Json.hexValue? c).isSome
        match text.drop digits.length with
        | [] => areGroups budget (count + 1) shortened []
        | ':' :: rest =>
            if digits.isEmpty then !shortened && areGroups budget (count + 1) true rest
            else !rest.isEmpty && areGroups budget (count + 1) shortened rest
        | '.' :: _ => isDotted text && (if shortened then count ≤ 6 else count == 6)
        | _ => false

/-- A numeric address, without its brackets. -/
def isNumeric (text : List Char) : Bool :=
  match text with
  | ':' :: ':' :: rest => areGroups (rest.length + 2) 1 true rest
  | ':' :: _ => false
  | text => areGroups (text.length + 2) 0 false text

/-- The name of a host, which may be empty, or a numeric address in brackets. -/
def isHost (host : List Char) : Bool :=
  match host with
  | '[' :: rest => rest.getLast? == some ']' && isNumeric rest.dropLast
  | host => !host.any isForbidden

/-- A port of at most 16 bits; an empty one stands for the usual port. -/
def isPort (port : List Char) : Bool :=
  port.isEmpty || (port.all Char.isDigit && (Integer.readNat 65535 port).isOk)

end Address
end FuzzIntake
