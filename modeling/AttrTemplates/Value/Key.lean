import AttrTemplates.Number.Shortest
import AttrTemplates.Value.Basic

/-!
# `AttrTemplates.Value.Key`: values as keys of mappings

Two keys are the same when they are equal as data; numbers are compared by value, truth values
counting as one and zero, and times with an offset as universal time. What is no number is one key.
Lists, mappings and sets are no keys.
-/

set_option autoImplicit false

namespace AttrTemplates

namespace Value

/-- Whether a value can be a key. -/
def isKeyType : Value → Bool
  | list _ | map _ | set _ | record .. => false
  | _ => true

/-- The integer that a truth value or integer is. -/
def integer? : Value → Option Int
  | bool b => some (if b then 1 else 0)
  | int n => some n
  | _ => none

/-- Whether a float is an integer, exactly. -/
def isExactly (x : Float) (n : Int) : Bool :=
  if x.isNaN || x.isInf then false
  else
    let b := Number.Binary.ofFloat x
    let (a, d) := Number.scaleByPower b.mantissa b.exponent
    a == n.natAbs * d && (n == 0 || (x < 0.0) == decide (n < 0))

mutual

/-- Whether two values are the same key. -/
def sameKey : Value → Value → Bool
  | undefined, undefined => true
  | str a, str b => a == b
  | bytes a, bytes b => a == b
  | moment a, moment b => a.isSame b
  | tuple a, tuple b => sameKeys a b
  | float x, float y => x == y || (x.isNaN && y.isNaN)
  | float x, v => v.integer?.any fun n => isExactly x n
  | v, float x => v.integer?.any fun n => isExactly x n
  | v, w => match v.integer?, w.integer? with
    | some m, some n => m == n
    | _, _ => false

/-- Whether two lists hold the same keys in the same order. -/
def sameKeys : List Value → List Value → Bool
  | [], [] => true
  | v :: vs, w :: ws => v.sameKey w && sameKeys vs ws
  | _, _ => false

end

end Value

/-- Puts a value under any key: in its old place when the key is there, and otherwise at the
end. -/
def Entries.put : Entries → Value → Value → Entries
  | [], k, v => [(k, v)]
  | e :: rest, k, v => if e.1.sameKey k then (e.1, v) :: rest else e :: Entries.put rest k v

/-- The value under any key. -/
def Entries.find (entries : Entries) (k : Value) : Option Value :=
  (entries.find? fun e => e.1.sameKey k).map (·.2)

end AttrTemplates
