/-
`transport/common.h`: the types both front ends and both clients share.

An `nghttp2_nv` is modelled with the two strings its pointers reach and the two
lengths it carries. nghttp2 reads a header through the lengths (`readBack`), so
the narrowing casts of `make_nv_ls` are visible here and not assumed away; nor is it
assumed that the string a value points into outlives the `nghttp2_nv` (`read`).
-/
import Http2Server.Lib.ByteString

set_option autoImplicit false

open ByteString

namespace Http2Server

/-- `int32_t stream_id`. -/
abbrev StreamId := ℤ

/-! ## Responses -/

/-- `struct HttpResponse`. -/
structure HttpResponse where
  status_code : ℤ := 200
  body : Bytes := []
  content_type : Bytes := bytes "application/json"
  deriving DecidableEq, Repr

/-! ## Header fields -/

/-- `nghttp2_nv`: what the two pointers reached when it was made, the lengths nghttp2 reads
by, and whether the string the value was taken from still exists. -/
structure nghttp2_nv where
  name : Bytes
  value : Bytes
  namelen : ℕ
  valuelen : ℕ
  value_lives : Bool
  deriving DecidableEq, Repr

/-- The `(uint16_t)` cast of a size. -/
def uint16 (n : ℕ) : ℕ := n % 2 ^ 16

/-- `make_nv_ls`: both lengths are narrowed to sixteen bits. -/
def make_nv_ls (name : Bytes) (value : Bytes) : nghttp2_nv where
  name := name
  value := value
  namelen := uint16 name.length
  valuelen := uint16 value.length
  value_lives := true

/-- `make_nv_ls` with a literal for a value: the parameter is a temporary string, destroyed
at the end of the statement that makes the `nghttp2_nv`. -/
def make_nv_ls_temporary (name : Bytes) (value : Bytes) : nghttp2_nv :=
  { make_nv_ls name value with value_lives := false }

/-- The header nghttp2 takes from an `nghttp2_nv` whose strings are as they were. -/
def nghttp2_nv.readBack (nv : nghttp2_nv) : Bytes × Bytes :=
  (nv.name.take nv.namelen, nv.value.take nv.valuelen)

/-- The header nghttp2 takes from an `nghttp2_nv`: there is none to be had of a string that
no longer exists. -/
def nghttp2_nv.read (nv : nghttp2_nv) : Option (Bytes × Bytes) :=
  if nv.value_lives then some nv.readBack else none

/-- A header whose name and value are shorter than `2^16` is read back as it was
given. -/
theorem readBack_make_nv_ls {name value : Bytes} (hname : name.length < 2 ^ 16)
    (hvalue : value.length < 2 ^ 16) : (make_nv_ls name value).readBack = (name, value) := by
  simp only [nghttp2_nv.readBack, make_nv_ls, uint16, Nat.mod_eq_of_lt hname,
    Nat.mod_eq_of_lt hvalue, List.take_length]

/-- A longer value is cut. -/
theorem readBack_make_nv_ls_iff {name value : Bytes} (hname : name.length < 2 ^ 16) :
    (make_nv_ls name value).readBack = (name, value) ↔ value.length < 2 ^ 16 := by
  refine ⟨fun h => ?_, readBack_make_nv_ls hname⟩
  have hvalue : value.take (uint16 value.length) = value := congrArg Prod.snd h
  rw [List.take_eq_self_iff, uint16] at hvalue
  exact lt_of_le_of_lt hvalue (Nat.mod_lt _ (by norm_num))

/-- A list of headers is read back as it was given exactly when all their values are short
enough. -/
theorem map_readBack_eq_iff {fields : List (Bytes × Bytes)}
    (hnames : ∀ field ∈ fields, field.1.length < 2 ^ 16) :
    (fields.map fun field => make_nv_ls field.1 field.2).map nghttp2_nv.readBack = fields
      ↔ ∀ field ∈ fields, field.2.length < 2 ^ 16 := by
  induction fields with
  | nil => simp
  | cons field fields ih =>
      rw [List.forall_mem_cons] at hnames
      rw [List.map_cons, List.map_cons, List.cons_eq_cons, List.forall_mem_cons, ih hnames.2,
        readBack_make_nv_ls_iff hnames.1]

/-- A list of headers is read when all their strings exist. -/
theorem mapM_read_eq_some_iff {headers : List nghttp2_nv} {fields : List (Bytes × Bytes)} :
    headers.mapM nghttp2_nv.read = some fields
      ↔ (∀ nv ∈ headers, nv.value_lives = true) ∧ headers.map nghttp2_nv.readBack = fields := by
  induction headers generalizing fields with
  | nil => simp
  | cons nv headers ih =>
      rw [List.mapM_cons, List.forall_mem_cons, List.map_cons, nghttp2_nv.read]
      cases hlives : nv.value_lives with
      | false => simp
      | true =>
          simp only [if_true, Option.bind_eq_bind, Option.bind_some, Option.bind_eq_some_iff, ih,
            Option.pure_def, Option.some.injEq, true_and]
          exact ⟨fun ⟨_, ⟨hall, hread⟩, hfields⟩ => ⟨hall, hread ▸ hfields⟩,
            fun ⟨hall, hfields⟩ => ⟨_, ⟨hall, rfl⟩, hfields⟩⟩

/-- Sizes below `2^64` print as values short enough to be read back whole. -/
theorem readBack_decimal {name : Bytes} {n : ℕ} (hname : name.length < 2 ^ 16)
    (hn : n < 2 ^ 64) :
    (make_nv_ls name (decimal n)).readBack = (name, decimal n) :=
  readBack_make_nv_ls hname (by have := length_decimal_le hn; omega)

end Http2Server
