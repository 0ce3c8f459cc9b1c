/-!
# Routing keys to workers

A key is hashed over its UTF-8 bytes, taken as little-endian words of eight
bytes and then of four, two and one, and a closing byte.  The hash modulo the
number of workers is the worker's place, so equal keys always meet the same
worker.
-/

namespace FuzzIntake
namespace Routing

/-- Bytes as a word, the first byte lowest. -/
def wordOfBytes (bytes : List UInt8) : UInt64 :=
  bytes.foldr (fun byte word => word <<< 8 ||| byte.toUInt64) 0

/-- The words of a byte string. -/
def words : List UInt8 → List UInt64
  | a :: b :: c :: d :: e :: f :: g :: h :: rest =>
      wordOfBytes [a, b, c, d, e, f, g, h] :: words rest
  | a :: b :: c :: d :: rest => wordOfBytes [a, b, c, d] :: words rest
  | a :: b :: rest => wordOfBytes [a, b] :: words rest
  | [a] => [wordOfBytes [a]]
  | [] => []

/-- Mix one word into a hash: rotate, combine and multiply. -/
def mix (hash word : UInt64) : UInt64 :=
  ((hash <<< 5 ||| hash >>> 59) ^^^ word) * 0x517cc1b727220a95

/-- The hash of a key. -/
def hash (key : String) : UInt64 :=
  (words key.toUTF8.toList ++ [0xff]).foldl mix 0

/-- The place of the worker that a key belongs to. -/
def index (key : String) (workers : Nat) : Nat :=
  (hash key).toNat % max workers 1

/-- A key belongs to one of the workers. -/
theorem index_lt {workers : Nat} (staffed : 0 < workers) (key : String) :
    index key workers < workers := by
  rw [index, Nat.max_eq_left staffed]
  exact Nat.mod_lt _ staffed

end Routing
end FuzzIntake
