/-
What the handlers use of `nlohmann::json`.

The library is not part of the repository, so its text format is a parameter
(`JsonLibrary`): a parser that fails or yields a value, and a printer. The two
operations the handlers apply to a value are written out, as documented:
`operator[]` with a string key, which *changes* the value it indexes (it turns
null into an object and adds a null member for a missing key), and the implicit
conversions to `std::string` and `int`.

A JSON string is a Lean `String`: the parser accepts valid UTF-8 only, and
printing a value throws when a string of it is not, so a value made of strings
that need not be UTF-8 is an `Option Json` here, up to its printing
(`dumpOrThrow`).
-/
import Http2Server.Common
import Mathlib.Data.Rat.Defs

set_option autoImplicit false

open ByteString

namespace Http2Server

/-- What the code under `src/` can be made to throw. -/
inductive Exn
  | parse_error
  | type_error (id : ℕ)
  | invalid_argument
  deriving DecidableEq, Repr

/-- A JSON value, by `value_t`. -/
inductive Json
  | null
  | boolean (b : Bool)
  | number_integer (n : ℤ)
  | number_unsigned (n : ℕ)
  | number_float (q : ℚ)
  | string (s : String)
  | array (elements : List Json)
  | object (members : List (String × Json))

/-- The text format. -/
structure JsonLibrary where
  parse : Bytes → Option Json
  dump : Json → Bytes

/-- `json::parse(text)`. -/
def JsonLibrary.parseOrThrow (json : JsonLibrary) (text : Bytes) : Except Exn Json :=
  match json.parse text with
  | some value => .ok value
  | none => .error .parse_error

/-- `value.dump()`, of a value that is `none` when it has a string that is not UTF-8. -/
def JsonLibrary.dumpOrThrow (json : JsonLibrary) : Option Json → Except Exn Bytes
  | some value => .ok (json.dump value)
  | none => .error (.type_error 316)

namespace Json

/-- `value[key]`: the member, and the value indexing leaves behind. -/
def index (key : String) : Json → Except Exn (Json × Json)
  | null => .ok (null, object [(key, null)])
  | object members =>
      match members.lookup key with
      | some member => .ok (member, object members)
      -- a missing key is added, with null
      | none => .ok (null, object (members ++ [(key, null)]))
  | _ => .error (.type_error 305)

/-- The conversion to `std::string`. -/
def toStdString : Json → Except Exn String
  | string s => .ok s
  | _ => .error (.type_error 302)

/-- The value of an integer cast to `int`. -/
def castInt (z : ℤ) : ℤ := z.bmod (2 ^ 32)

/-- The conversion to `int`: a plain cast of any number or boolean. -/
def toInt : Json → Except Exn ℤ
  | number_integer n => .ok (castInt n)
  | number_unsigned n => .ok (castInt n)
  | number_float q => .ok (castInt (q.num.tdiv q.den))
  | boolean b => .ok (if b then 1 else 0)
  | _ => .error (.type_error 302)

/-- The mathematical value of a number. -/
def numberValue : Json → Option ℚ
  | number_integer n => some n
  | number_unsigned n => some n
  | number_float q => some q
  | _ => none

/-- The member of a JSON value under a key: what a caller means by "the body's
`host`". -/
def member (key : String) : Json → Option Json
  | object members => members.lookup key
  | _ => none

/-- `operator==`: numbers of all types compare by their values, and objects by their
members, wherever these stand. -/
inductive Equal : Json → Json → Prop
  | null : Equal null null
  | boolean (b : Bool) : Equal (boolean b) (boolean b)
  | number {a b : Json} {q : ℚ} (ha : a.numberValue = some q) (hb : b.numberValue = some q) :
      Equal a b
  | string (s : String) : Equal (string s) (string s)
  | array {elements elements' : List Json} (h : List.Forall₂ Equal elements elements') :
      Equal (array elements) (array elements')
  | object {members members' : List (String × Json)}
      (hkeys : ∀ key, members.lookup key = none ↔ members'.lookup key = none)
      (hmembers : ∀ key a b, members.lookup key = some a → members'.lookup key = some b →
        Equal a b) :
      Equal (object members) (object members')

/-! ## Indexing and converting in one go

`std::string host = request_json["host"];` succeeds exactly on an object with a
string member of that name, and then leaves the object as it was -- so a chain of
such lines reads each field from the body the client sent. -/

/-- `std::string x = value[key];` -/
def stringField (key : String) (value : Json) : Except Exn (String × Json) := do
  let (member, value) ← value.index key
  let text ← member.toStdString
  return (text, value)

/-- `int x = value[key];` -/
def intField (key : String) (value : Json) : Except Exn (ℤ × Json) := do
  let (member, value) ← value.index key
  let number ← member.toInt
  return (number, value)

theorem stringField_eq_ok_iff (key : String) (value : Json) (text : String) (value' : Json) :
    value.stringField key = .ok (text, value')
      ↔ value' = value ∧ value.member key = some (.string text) := by
  cases value with
  | object members =>
      -- a missing member indexes to null, which is no string
      rcases hmember : members.lookup key with _ | m
      · simp [stringField, index, member, hmember, toStdString, bind, Except.bind]
      · cases m <;>
          simp [stringField, index, member, hmember, toStdString, bind, Except.bind, pure,
            Except.pure, and_comm, eq_comm]
  | _ => simp [stringField, index, member, toStdString, bind, Except.bind]

theorem intField_eq_ok_iff (key : String) (value : Json) (number : ℤ) (value' : Json) :
    value.intField key = .ok (number, value')
      ↔ value' = value ∧ ∃ m, value.member key = some m ∧ m.toInt = .ok number := by
  cases value with
  | object members =>
      -- nor is null a number
      rcases hmember : members.lookup key with _ | m
      · simp [intField, index, member, hmember, toInt, bind, Except.bind]
      · rcases hint : m.toInt with e | n
        · simp [intField, index, member, hmember, hint, bind, Except.bind]
        · simp [intField, index, member, hmember, hint, bind, Except.bind, pure, Except.pure,
            and_comm, eq_comm]
  | _ => simp [intField, index, member, toInt, bind, Except.bind]

/-! ## Numbers

A number converts to the `int` of its value when there is one. -/

theorem castInt_of_int {z : ℤ} (hle : -2 ^ 31 ≤ z) (hlt : z < 2 ^ 31) : castInt z = z := by
  rw [castInt]
  exact Int.bmod_eq_of_le (by omega) (by omega)

theorem toInt_of_numberValue {m : Json} {z : ℤ} (h : m.numberValue = some (z : ℚ)) :
    m.toInt = .ok (castInt z) := by
  cases m with
  | number_integer n =>
      obtain rfl : n = z := by exact_mod_cast Option.some.inj h
      rfl
  | number_unsigned n =>
      obtain rfl : (n : ℤ) = z := by exact_mod_cast Option.some.inj h
      rfl
  | number_float q =>
      obtain rfl : q = z := Option.some.inj h
      simp [toInt]
  | _ => simp [numberValue] at h

/-- Only numbers and booleans convert. -/
theorem exists_toInt_iff (m : Json) :
    (∃ z, m.toInt = .ok z) ↔ m.numberValue.isSome ∨ ∃ b, m = .boolean b := by
  cases m <;> simp [toInt, numberValue]

/-! ## Equal values -/

theorem Equal.eq_string {a : Json} {s : String} (h : Equal a (.string s)) : a = .string s := by
  cases h with
  | number ha hb => simp [numberValue] at hb
  | string => rfl

theorem Equal.numberValue_eq {a b : Json} {q : ℚ} (h : Equal a b) (hb : b.numberValue = some q) :
    a.numberValue = some q := by
  cases h with
  | number ha hb' => rw [ha, ← hb', hb]
  | _ => simp [Json.numberValue] at hb

/-- Equal values have equal members. -/
theorem Equal.exists_member {a b m : Json} (h : Equal a b) (key : String)
    (hb : b.member key = some m) : ∃ m', a.member key = some m' ∧ Equal m' m := by
  cases h with
  | object hkeys hmembers =>
      rename_i members members'
      rcases ha : members.lookup key with _ | m'
      · rw [member, (hkeys key).mp ha] at hb
        simp at hb
      · exact ⟨m', ha, hmembers key m' m ha hb⟩
  | number ha hb' => cases b <;> simp [member, numberValue] at hb hb'
  | _ => simp [member] at hb

end Json

/-- Parsing undoes printing, of a value. An equal value comes back, not the same: a number
that is not negative returns as a `number_unsigned`, and members return in the order of
their keys. -/
def JsonLibrary.Undoes (json : JsonLibrary) (value : Json) : Prop :=
  ∃ value', json.parse (json.dump value) = some value' ∧ value'.Equal value

end Http2Server
