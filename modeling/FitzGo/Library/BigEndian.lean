import Mathlib.Data.Nat.ModEq

/-!
# Fixed-width big-endian numbers

Network formats write numbers with the most significant byte first, in a width
fixed by the format. `encode` keeps the low `8 * width` bits; `decode` reads
any byte list.
-/

namespace BigEndian

/-- Write exactly `width` bytes, most significant first. -/
def encode : (width value : Nat) → List UInt8
  | 0, _ => []
  | width + 1, value => UInt8.ofNat (value / 256 ^ width) :: encode width value

/-- Read a byte list, most significant first. -/
def decode : List UInt8 → Nat
  | [] => 0
  | byte :: rest => byte.toNat * 256 ^ rest.length + decode rest

@[simp]
theorem length_encode (width value : Nat) : (encode width value).length = width := by
  induction width with
  | zero => rfl
  | succ width ih => simp [encode, ih]

/-- Writing and reading back keeps exactly the representable part. -/
theorem decode_encode (width value : Nat) : decode (encode width value) = value % 256 ^ width := by
  induction width with
  | zero => simp [encode, decode, Nat.mod_one]
  | succ width ih =>
    have byteValue : (UInt8.ofNat (value / 256 ^ width)).toNat = value / 256 ^ width % 256 := by
      simp
    rw [encode, decode, ih, length_encode, byteValue,
      Nat.pow_succ, Nat.mod_mul, Nat.add_comm, Nat.mul_comm]

theorem decode_encode_of_lt {width value : Nat} (fits : value < 256 ^ width) :
    decode (encode width value) = value := by
  rw [decode_encode, Nat.mod_eq_of_lt fits]

theorem decode_lt (bytes : List UInt8) : decode bytes < 256 ^ bytes.length := by
  induction bytes with
  | nil => simp [decode]
  | cons byte rest ih =>
    have bound : byte.toNat ≤ 255 := Nat.le_of_lt_succ byte.toNat_lt
    have scaled : byte.toNat * 256 ^ rest.length ≤ 255 * 256 ^ rest.length :=
      Nat.mul_le_mul_right _ bound
    rw [decode, List.length_cons, Nat.pow_succ]
    omega

theorem eq_of_decode_eq : ∀ {one other : List UInt8}, one.length = other.length →
    decode one = decode other → one = other
  | [], [], _, _ => rfl
  | byte :: rest, first :: tail, length, same => by
      have tails : rest.length = tail.length := Nat.succ.inj length
      have bound := decode_lt rest
      rw [decode, decode, tails] at same
      rw [tails] at bound
      have remainder := congrArg (· % 256 ^ tail.length) same
      simp only [Nat.mul_add_mod', Nat.mod_eq_of_lt bound,
        Nat.mod_eq_of_lt (decode_lt tail)] at remainder
      rw [remainder, Nat.add_right_cancel_iff, Nat.mul_left_inj (by simp)] at same
      rw [UInt8.toNat_inj.mp same, eq_of_decode_eq tails remainder]

theorem decode_take_lt (width : Nat) (bytes : List UInt8) :
    decode (bytes.take width) < 256 ^ width :=
  (decode_lt _).trans_le (Nat.pow_le_pow_right (by decide) (List.length_take_le _ _))

/-- Reading the first bytes and writing them back. -/
theorem encode_decode_take {width : Nat} {bytes : List UInt8} (enough : width ≤ bytes.length) :
    encode width (decode (bytes.take width)) ++ bytes.drop width = bytes := by
  have same : encode width (decode (bytes.take width)) = bytes.take width :=
    eq_of_decode_eq (by rw [length_encode, List.length_take_of_le enough])
      (decode_encode_of_lt (decode_take_lt width bytes))
  rw [same, List.take_append_drop]

end BigEndian
