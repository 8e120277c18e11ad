import ApiPage.Decimal.Shortest
import ApiPage.Text.Quoted

/-!
# Data of log records and arguments

Settings, error details and log attributes hold values whose type is known only when they are used.
A `Datum` is such a value. It has two written forms: `literal`, the source form of the value, and
`display`, which shows a text as it is.
-/

namespace ApiPage

open Decimal (Binary64 FloatStyle)

/-- **Datum**: a value of any type. A record keeps the order of its fields. What can be called is
known by the name of its type, its source form and what it gives for a text; it is true, and has no
items. -/
inductive Datum
  | null
  | bool (b : Bool)
  | int (i : Int)
  | real (x : Binary64)
  | text (t : Text)
  | list (xs : List Datum)
  | record (fields : List (Text × Datum))
  | callable (type form : Text) (call : Text → Text)
  deriving Inhabited

namespace Datum

/-- The datum of a string. -/
def str (s : String) : Datum := .text (Text.of s)

/-- The datum of a natural number. -/
def nat (n : Nat) : Datum := .int n

/-- The name of the type of a datum. -/
def typeName : Datum → Text
  | null => Text.of "NoneType"
  | bool _ => Text.of "bool"
  | int _ => Text.of "int"
  | real _ => Text.of "float"
  | text _ => Text.of "str"
  | list _ => Text.of "list"
  | record _ => Text.of "dict"
  | callable type _ _ => type

/-- **Truth** of a datum: false for null, zero and whatever is empty. -/
def truthy : Datum → Bool
  | null => false
  | bool b => b
  | int i => i != 0
  | real x => !x.isZero
  | text t => !t.isEmpty
  | list xs => !xs.isEmpty
  | record fs => !fs.isEmpty
  | callable .. => true

mutual

/-- **Source form** of a datum. -/
def literal : Datum → Text
  | null => Text.of "None"
  | bool b => Text.of (if b then "True" else "False")
  | int i => Text.ofInt i
  | real x => x.toText FloatStyle.real
  | text t => Text.quote (Text.codes t)
  | list xs => '[' :: Text.join (Text.of ", ") (literals xs) ++ [']']
  | record fs => '\x7b' :: Text.join (Text.of ", ") (fieldLiterals fs) ++ ['\x7d']
  | callable _ form _ => form

/-- The source forms of some data. -/
def literals : List Datum → List Text
  | [] => []
  | x :: xs => literal x :: literals xs

/-- The source forms of some fields. -/
def fieldLiterals : List (Text × Datum) → List Text
  | [] => []
  | (k, x) :: fs => (Text.quote (Text.codes k) ++ Text.of ": " ++ literal x) :: fieldLiterals fs

end

/-- **Display form** of a datum: a text as it is, all else in source form. -/
def display : Datum → Text
  | text t => t
  | x => literal x

/-- The field of a record. -/
def field? (name : Text) : Datum → Option Datum
  | record fs => fs.lookup name
  | _ => none

end Datum

/-! ### Records as ordered maps -/

/-- `fs` with the field `k` set to `v`: in its place if it is there, at the end if not. -/
def setField {α : Type} (k : Text) (v : α) : List (Text × α) → List (Text × α)
  | [] => [(k, v)]
  | (k', v') :: fs => if k' == k then (k', v) :: fs else (k', v') :: setField k v fs

/-- `fs` with every field of `gs` set in turn. -/
def setFields {α : Type} (fs gs : List (Text × α)) : List (Text × α) :=
  gs.foldl (fun acc (k, v) => setField k v acc) fs

end ApiPage
