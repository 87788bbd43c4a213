/-
Byte strings: what `std::string` and `std::string_view` hold.

Nothing here is about one program. The facts the rest of the development
rests on are

* `find_eq_zero_iff` -- a first-occurrence search that answers `0` is exactly a
  test for an initial segment, whatever the needle is (empty, longer than the
  haystack, occurring again later);
* `strlen_nulTerminated_eq_iff` -- reading a byte string up to its first NUL gives the whole
  string exactly when it holds no NUL, so `strlen` of a string's own buffer is
  its size under that condition and only then;
* `length_decimal_le` -- the decimal text of a 64-bit size has at most twenty
  characters, and `stoi_decimal` -- reading a 31-bit number's text back gives the number.
-/
import Mathlib.Data.List.Infix
import Mathlib.Data.List.TakeWhile
import Mathlib.Tactic.NormNum

set_option autoImplicit false

namespace ByteString

/-- A byte string. -/
abbrev Bytes := List UInt8

/-- The bytes of a literal, in UTF-8. -/
def bytes (s : String) : Bytes := s.toUTF8.data.toList

/-! ## Text -/

/-- The text a byte string encodes; `none` when it is not UTF-8. -/
def utf8 (s : Bytes) : Option String := String.fromUTF8? ⟨s.toArray⟩

/-- The bytes of a text encode the text. -/
@[simp] theorem utf8_bytes (text : String) : utf8 (bytes text) = some text := by
  rw [utf8, bytes, Array.toArray_toList, String.toUTF8_eq_toByteArray, String.fromUTF8?,
    dif_pos text.isValidUTF8]
  rfl

/-- Only the UTF-8 bytes of a text decode to it. -/
theorem eq_bytes_of_utf8 {s : Bytes} {text : String} (h : utf8 s = some text) : s = bytes text := by
  rw [utf8, String.fromUTF8?] at h
  split_ifs at h
  obtain rfl := Option.some.inj h
  rw [bytes]
  rfl

/-! ## First-occurrence search -/

/-- `haystack.find(needle)`: the first position at which `needle` occurs, `none`
for `npos`. -/
def find (haystack needle : Bytes) : Option ℕ :=
  haystack.tails.findIdx? fun t => needle.isPrefixOf t

/-- What the search means: it answers the least position at which the needle is
an initial segment of what is left of the haystack. -/
theorem find_eq_some_iff (haystack needle : Bytes) (i : ℕ) (hi : i ≤ haystack.length) :
    find haystack needle = some i
      ↔ needle <+: haystack.drop i ∧ ∀ j < i, ¬ needle <+: haystack.drop j := by
  have hlt : i < haystack.tails.length := by rw [List.length_tails]; omega
  rw [find, List.findIdx?_eq_some_iff_getElem]
  constructor
  · rintro ⟨_, hfirst, hbefore⟩
    refine ⟨by simpa using hfirst, fun j hj => ?_⟩
    simpa using hbefore j hj
  · rintro ⟨hfirst, hbefore⟩
    refine ⟨hlt, by simpa using hfirst, fun j hj => ?_⟩
    simpa using hbefore j hj

/-- **`find(needle) == 0` is the test for an initial segment.** -/
theorem find_eq_zero_iff (haystack needle : Bytes) :
    find haystack needle = some 0 ↔ needle <+: haystack := by
  rw [find_eq_some_iff haystack needle 0 (Nat.zero_le _)]
  simp

/-! ## C strings -/

/-- The bytes from the start of a buffer up to the first NUL. -/
def cStr (buffer : Bytes) : Bytes := buffer.takeWhile (· ≠ 0)

/-- `strlen`. -/
def strlen (buffer : Bytes) : ℕ := (cStr buffer).length

/-- The NUL-terminated buffer `c_str()` points to. -/
def nulTerminated (s : Bytes) : Bytes := s ++ [0]

theorem cStr_nulTerminated (s : Bytes) : cStr (nulTerminated s) = s.takeWhile (· ≠ 0) := by
  rw [cStr, nulTerminated]
  induction s with
  | nil => rfl
  | cons b s ih =>
      by_cases hb : b = 0
      · simp [hb]
      · simp only [List.cons_append, List.takeWhile_cons]
        rw [ih]

/-- A string without NUL is what its own buffer reads back as. -/
theorem cStr_nulTerminated_of_notMem {s : Bytes} (h : (0 : UInt8) ∉ s) :
    cStr (nulTerminated s) = s := by
  rw [cStr_nulTerminated, List.takeWhile_eq_self_iff]
  intro b hb
  simpa using fun h0 : b = 0 => h (h0 ▸ hb)

/-- `strlen` of a string's own buffer never exceeds its size, and reaches it
exactly when the string holds no NUL. -/
theorem strlen_nulTerminated_le (s : Bytes) : strlen (nulTerminated s) ≤ s.length := by
  rw [strlen, cStr_nulTerminated]
  exact (List.takeWhile_prefix _).length_le

theorem strlen_nulTerminated_eq_iff (s : Bytes) :
    strlen (nulTerminated s) = s.length ↔ (0 : UInt8) ∉ s := by
  constructor
  · intro h h0
    rw [strlen, cStr_nulTerminated] at h
    have hs : s.takeWhile (· ≠ 0) = s := (List.takeWhile_prefix _).eq_of_length h
    rw [List.takeWhile_eq_self_iff] at hs
    simpa using hs 0 h0
  · intro h
    rw [strlen, cStr_nulTerminated_of_notMem h]

/-! ## String views -/

/-- A `std::string_view`: the memory its `data()` points into, from there on, and
its size. The view is the first `size` bytes; a reader that only takes `data()`
sees the memory up to the first NUL instead. -/
structure StringView where
  data : Bytes
  size : ℕ
  deriving DecidableEq, Repr

/-- The characters of the view. -/
def StringView.chars (view : StringView) : Bytes := view.data.take view.size

/-- The view of a whole `std::string`. -/
def StringView.of (s : Bytes) : StringView := ⟨nulTerminated s, s.length⟩

@[simp] theorem StringView.chars_of (s : Bytes) : (StringView.of s).chars = s := by
  simp [StringView.chars, StringView.of, nulTerminated]

/-- The view's memory holds a NUL, so reading it from `data()` up to one comes to an end. -/
def StringView.Terminated (view : StringView) : Prop := (0 : UInt8) ∈ view.data

instance (view : StringView) : Decidable view.Terminated :=
  inferInstanceAs (Decidable (_ ∈ _))

/-- Read from `data()` up to a NUL, the view is what it shows. -/
def StringView.Exact (view : StringView) : Prop :=
  view.Terminated ∧ cStr view.data = view.chars

/-- The view of a string without NUL is exact. -/
theorem StringView.exact_of {s : Bytes} (h : (0 : UInt8) ∉ s) : (StringView.of s).Exact := by
  refine ⟨List.mem_append_right _ (List.mem_singleton_self _), ?_⟩
  rw [chars_of]
  exact cStr_nulTerminated_of_notMem h

/-! ## Letter case -/

/-- A byte with the case of an ASCII letter taken away. -/
def toLower (b : UInt8) : UInt8 := if 0x41 ≤ b && b ≤ 0x5a then b + 0x20 else b

/-- A byte string, letter case aside. -/
def lowercase (s : Bytes) : Bytes := s.map toLower

/-! ## Decimal text -/

/-- `std::to_string` of an unsigned number. -/
def decimal (n : ℕ) : Bytes := (Nat.toDigits 10 n).map fun c => c.toNat.toUInt8

/-- `std::to_string` of a signed number. -/
def toDecimal (z : ℤ) : Bytes :=
  if z < 0 then bytes "-" ++ decimal z.natAbs else decimal z.natAbs

/-- Whether a byte is an ASCII digit. -/
def isDigit (b : UInt8) : Bool := 0x30 ≤ b && b ≤ 0x39

/-- Whether a byte is ASCII white space. -/
def isSpace (b : UInt8) : Bool := b = 0x20 || (0x09 ≤ b && b ≤ 0x0d)

/-- The number a run of digits writes. -/
def digitsValue (digits : Bytes) : ℕ :=
  digits.foldl (fun n b => 10 * n + (b.toNat - 0x30)) 0

/-- `std::stoi`: the 32-bit number a string starts with, after white space and a
sign; it throws when there is none, or when it does not fit. -/
def stoi (s : Bytes) : Option ℤ :=
  let s := s.dropWhile isSpace
  let digits := (if s.head? = some 0x2d ∨ s.head? = some 0x2b then s.tail else s).takeWhile isDigit
  let value : ℤ := if s.head? = some 0x2d then -digitsValue digits else digitsValue digits
  if digits = [] then none
  else if -2 ^ 31 ≤ value ∧ value < 2 ^ 31 then some value
  else none

/-- The decimal text of a 64-bit size is short. -/
theorem length_decimal_le {n : ℕ} (h : n < 2 ^ 64) : (decimal n).length ≤ 20 := by
  rw [decimal, List.length_map, Nat.length_toDigits_le_iff (by omega) (by omega)]
  calc n < 2 ^ 64 := h
    _ ≤ 10 ^ 20 := by norm_num

/-- The decimal text of a 64-bit number with a sign is short. -/
theorem length_toDecimal_le {z : ℤ} (h : z.natAbs < 2 ^ 64) : (toDecimal z).length ≤ 21 := by
  have hdigits := length_decimal_le h
  have hsign : (bytes "-").length = 1 := by decide
  rw [toDecimal]
  split_ifs
  · rw [List.length_append, hsign]
    omega
  · omega

/-- A decimal digit is one byte, with its code. -/
theorem toNat_of_mem_toDigits {n : ℕ} {c : Char} (h : c ∈ Nat.toDigits 10 n) :
    48 ≤ c.toNat ∧ c.toNat ≤ 57 ∧ c.toNat.toUInt8.toNat = c.toNat := by
  have hdigit := Nat.isDigit_of_mem_toDigits (by omega) (by omega) h
  simp only [Char.isDigit, Bool.and_eq_true, decide_eq_true_eq] at hdigit
  have hle : c.toNat ≤ 57 := hdigit.2
  refine ⟨hdigit.1, hle, ?_⟩
  rw [Nat.toUInt8, UInt8.toNat_ofNat', Nat.mod_eq_of_lt (by omega)]

theorem isDigit_iff {b : UInt8} : isDigit b = true ↔ 48 ≤ b.toNat ∧ b.toNat ≤ 57 := by
  rw [isDigit, Bool.and_eq_true, decide_eq_true_eq, decide_eq_true_eq, UInt8.le_iff_toNat_le,
    UInt8.le_iff_toNat_le]
  rfl

/-- The characters of a decimal text are digits. -/
theorem isDigit_of_mem_decimal {n : ℕ} {b : UInt8} (h : b ∈ decimal n) : isDigit b = true := by
  obtain ⟨c, hc, rfl⟩ := List.mem_map.mp h
  obtain ⟨hge, hle, hbyte⟩ := toNat_of_mem_toDigits hc
  rw [isDigit_iff, hbyte]
  exact ⟨hge, hle⟩

/-- The digits of a decimal text write its number. -/
theorem digitsValue_decimal (n : ℕ) : digitsValue (decimal n) = n := by
  calc digitsValue (decimal n)
      = (Nat.toDigits 10 n).foldl (fun n c => 10 * n + (c.toNat.toUInt8.toNat - 0x30)) 0 := by
        rw [digitsValue, decimal, List.foldl_map]
    _ = (Nat.toDigits 10 n).foldl (fun n c => 10 * n + (c.toNat - '0'.toNat)) 0 := by
        refine List.foldl_ext _ _ _ fun m c hc => ?_
        rw [(toNat_of_mem_toDigits hc).2.2]
        rfl
    _ = n := by rw [← Nat.ofDigitChars_eq_foldl, Nat.ofDigitChars_ten_toDigits]

theorem decimal_ne_nil (n : ℕ) : decimal n ≠ [] := by
  rw [decimal, Ne, List.map_eq_nil_iff]
  exact Nat.toDigits_ne_nil

/-- **Reading a number's text gives the number.** -/
theorem stoi_decimal {n : ℕ} (h : n < 2 ^ 31) : stoi (decimal n) = some (n : ℤ) := by
  obtain ⟨b, rest, htext⟩ := List.exists_cons_of_ne_nil (decimal_ne_nil n)
  have hb := isDigit_iff.mp (isDigit_of_mem_decimal (n := n) (b := b) (by rw [htext]; simp))
  have hspace : isSpace b = false := by
    have hblank : b ≠ 0x20 := by rintro rfl; exact absurd hb.1 (by decide)
    have hcontrol : ¬ b ≤ 0x0d := fun hle => by
      have hle' : b.toNat ≤ 13 := UInt8.le_iff_toNat_le.mp hle
      omega
    simp [isSpace, hblank, hcontrol]
  have hminus : b ≠ 0x2d := by rintro rfl; exact absurd hb.1 (by decide)
  have hplus : b ≠ 0x2b := by rintro rfl; exact absurd hb.1 (by decide)
  -- no white space and no sign to skip, and nothing after the digits
  have hdrop : (decimal n).dropWhile isSpace = decimal n := by
    rw [htext, List.dropWhile_cons_of_neg (by simp [hspace])]
  have hhead : (decimal n).head? = some b := by rw [htext]; rfl
  have htake : (decimal n).takeWhile isDigit = decimal n :=
    List.takeWhile_eq_self_iff.mpr fun _ => isDigit_of_mem_decimal
  rw [stoi]
  simp only [hdrop, hhead, Option.some.injEq, hminus, hplus, or_self, if_false,
    htake, decimal_ne_nil, digitsValue_decimal]
  rw [if_pos]
  omega

/-- The text of a number that is not negative has no sign. -/
theorem toDecimal_of_nonneg {z : ℤ} (h : 0 ≤ z) : toDecimal z = decimal z.natAbs := by
  rw [toDecimal, if_neg (not_lt.mpr h)]

/-- The text of an `int` that is not negative is read back as the number. -/
theorem stoi_toDecimal {z : ℤ} (h : 0 ≤ z) (hlt : z < 2 ^ 31) : stoi (toDecimal z) = some z := by
  rw [toDecimal_of_nonneg h, stoi_decimal (by omega), Int.natAbs_of_nonneg h]

/-- The text of a number holds no NUL. -/
theorem zero_notMem_toDecimal (z : ℤ) : (0 : UInt8) ∉ toDecimal z := by
  have hdigits : (0 : UInt8) ∉ decimal z.natAbs := fun hmem =>
    absurd (isDigit_of_mem_decimal hmem) (by decide)
  rw [toDecimal]
  split_ifs
  · exact List.not_mem_append (by decide) hdigits
  · exact hdigits

/-- A text begins with a `-` when the number is negative, and only then. -/
theorem head?_toDecimal_iff (z : ℤ) : (toDecimal z).head? = some 0x2d ↔ z < 0 := by
  have hminus : bytes "-" = [0x2d] := by decide
  rw [toDecimal]
  split_ifs with hneg
  · simp [hminus, hneg]
  · refine iff_of_false (fun h => ?_) hneg
    have hdigit := isDigit_iff.mp (isDigit_of_mem_decimal (List.mem_of_head? h))
    exact absurd hdigit.1 (by decide)

/-- Different numbers have different texts. -/
theorem toDecimal_injective : Function.Injective toDecimal := by
  intro z w h
  have hneg : z < 0 ↔ w < 0 := by rw [← head?_toDecimal_iff, ← head?_toDecimal_iff, h]
  have habs : z.natAbs = w.natAbs := by
    have hdigits : decimal z.natAbs = decimal w.natAbs := by
      rw [toDecimal, toDecimal] at h
      by_cases hz : z < 0
      · rw [if_pos hz, if_pos (hneg.mp hz)] at h
        exact List.append_cancel_left h
      · rwa [if_neg hz, if_neg (hneg.not.mp hz)] at h
    rw [← digitsValue_decimal z.natAbs, hdigits, digitsValue_decimal]
  omega

/-- A negative number is read back too, and a blank before either changes nothing. -/
theorem stoi_neg_decimal {n : ℕ} (h : n ≤ 2 ^ 31) :
    stoi (bytes "-" ++ decimal n) = some (-(n : ℤ)) := by
  have hminus : bytes "-" = [0x2d] := by decide
  have htake : (decimal n).takeWhile isDigit = decimal n :=
    List.takeWhile_eq_self_iff.mpr fun _ => isDigit_of_mem_decimal
  have hdrop : ([0x2d] ++ decimal n).dropWhile isSpace = 0x2d :: decimal n :=
    List.dropWhile_cons_of_neg (by decide)
  rw [stoi, hminus]
  simp only [hdrop, List.head?_cons, true_or, if_true, List.tail_cons, htake, decimal_ne_nil,
    if_false, digitsValue_decimal]
  rw [if_pos]
  omega

theorem stoi_blank (s : Bytes) : stoi (bytes " " ++ s) = stoi s := by
  have hblank : (bytes " " ++ s).dropWhile isSpace = s.dropWhile isSpace := by
    have hspace : bytes " " = [0x20] := by decide
    rw [hspace]
    exact List.dropWhile_cons_of_pos (by decide)
  rw [stoi, stoi, hblank]

/-- The text of any 32-bit number is read back as the number. -/
theorem stoi_toDecimal_toInt (z : Int32) : stoi (toDecimal z.toInt) = some z.toInt := by
  have hge : -2 ^ 31 ≤ z.toInt := z.le_toInt
  have hlt : z.toInt < 2 ^ 31 := z.toInt_lt
  by_cases hneg : z.toInt < 0
  · rw [toDecimal, if_pos hneg, stoi_neg_decimal (by omega), Int.ofNat_natAbs_of_nonpos hneg.le,
      neg_neg]
  · exact stoi_toDecimal (not_lt.mp hneg) hlt

end ByteString
