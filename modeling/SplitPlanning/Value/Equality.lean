import SplitPlanning.Value.Basic

/-!
# Equality of values

Truth values, integers and floating point numbers are equal when they are the same number, whatever
their type. Lists are compared item by item and maps without regard to the order of their pairs.
-/

namespace SplitPlanning

inductive NumericValue where
  | exact (n : Int)
  | binary (x : Number.Binary64)
deriving DecidableEq, Repr

def NumericValue.equals : NumericValue → NumericValue → Bool
  | exact m, exact n => m = n
  | exact m, binary y => y.equalsInt m
  | binary x, exact n => x.equalsInt n
  | binary x, binary y => x.equals y

namespace Value

def number? : Value → Option NumericValue
  | truth b => some (.exact (if b then 1 else 0))
  | integer n => some (.exact n)
  | real x => some (.binary x)
  | _ => none

/-- Equality of values that hold no other values. -/
def atomEquals : Value → Value → Bool
  | null, null => true
  | text s, text t => s = t
  | bytes b, bytes c => b = c
  | size a, size b => a = b
  | v, w =>
    match v.number?, w.number? with
    | some a, some b => a.equals b
    | _, _ => false

mutual

/-- Equality of two values that were made independently of each other. -/
def equals : Value → Value → Bool
  | .list items, w =>
    match w with
    | .list others => listEquals items others
    | _ => false
  | .map entries, w =>
    match w with
    | .map others => entries.length = others.length && entriesWithin entries others
    | _ => false
  | .null, w => atomEquals .null w
  | .truth b, w => atomEquals (.truth b) w
  | .integer n, w => atomEquals (.integer n) w
  | .text s, w => atomEquals (.text s) w
  | .real x, w => atomEquals (.real x) w
  | .bytes octets, w => atomEquals (.bytes octets) w
  | .size amount, w => atomEquals (.size amount) w
termination_by structural v => v

def listEquals : List Value → List Value → Bool
  | [], others => others.isEmpty
  | item :: rest, others =>
    match others with
    | [] => false
    | other :: more => item.equals other && listEquals rest more
termination_by structural l => l

/-- Whether each pair of the first list has an equal key in the second with an equal value. -/
def entriesWithin : List (Value × Value) → List (Value × Value) → Bool
  | [], _ => true
  | (key, value) :: rest, others =>
    (match others.find? fun other ↦ key.equals other.1 with
      | some other => value.equals other.2
      | none => false) && entriesWithin rest others
termination_by structural l => l

end

/-- Equality of a value with the very same value. Only what is not a number differs from itself;
a list or a map is equal to itself whatever it holds. -/
def equalsItself : Value → Bool
  | real x => x.equals x
  | _ => true

/-! ## Maps -/

/-- Pairs with the value of an equal key replaced, or the pair added at the end. -/
def putEntry (key value : Value) : List (Value × Value) → List (Value × Value)
  | [] => [(key, value)]
  | entry :: rest =>
    if entry.1.equals key then (entry.1, value) :: rest else entry :: putEntry key value rest

/-- The pairs of a map to which the given pairs were written in order. A later pair with an equal
key replaces the value and keeps the key that came first. -/
def entriesOf (pairs : List (Value × Value)) : List (Value × Value) :=
  pairs.foldl (fun entries pair ↦ putEntry pair.1 pair.2 entries) []

def ofPairs (pairs : List (Value × Value)) : Value :=
  map (entriesOf pairs)

end Value

end SplitPlanning
